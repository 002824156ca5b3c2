import JsonTap.Proofs.Text.Decimal
import JsonTap.Proofs.Text.Split
import JsonTap.Unicode.Blank
import JsonTap.Unicode.Case

/-!
# Case and blanks in ASCII

What can be seen of ASCII is no blank (`isBlank_of_visible`), and the upper case of an ASCII text is
that of its letters (`upper_eq_map`): digits have none.
-/

namespace JsonTap.Unicode

def Visible (t : Text) : Prop := ∀ c ∈ t, 0x20 < c.val ∧ c.val < 0x7F

theorem visible_append {s t : Text} : Visible (s ++ t) ↔ Visible s ∧ Visible t :=
  List.forall_mem_append

theorem visible_of_digits {t : Text} (h : ∀ c ∈ t, c.isDigit = true) : Visible t := by
  intro c hc
  have hval := Text.val_of_isDigit (h c hc)
  omega

/-! ## Blanks -/

def Blanks (t : Text) : Prop := ∀ c ∈ t, isBlank c = true

instance (t : Text) : Decidable (Blanks t) :=
  decidable_of_iff (t.all isBlank = true) List.all_eq_true

theorem isBlank_of_visible {c : CodePoint} (h : 0x20 < c.val ∧ c.val < 0x7F) :
    isBlank c = false := by
  have hblanks : ∀ r ∈ blanks, r.2 ≤ 0x20 ∨ 0x7F ≤ r.1 := by decide
  rw [isBlank, Ranges.contains, List.any_eq_false]
  intro r hr
  have hr' := hblanks r hr
  simp only [Bool.and_eq_true, decide_eq_true_eq]
  omega

/-! ## Upper case -/

/-- The letters of ASCII that an upper case moves. -/
def letters : CaseRun := ⟨0x61, 0x7A, 1, -32⟩

theorem CaseRun.image?_eq_none {r : CaseRun} {c : CodePoint}
    (h : ¬ (r.first ≤ c.val ∧ c.val ≤ r.last)) : r.image? c = none := by
  rw [image?, if_neg]
  simp only [Bool.and_eq_true, decide_eq_true_eq]
  exact fun hc => h hc.1

theorem image?_letters {c : CodePoint} (h : 0x61 ≤ c.val ∧ c.val ≤ 0x7A) :
    letters.image? c = some c.upperAscii := by
  have hmoved : ((c.val : Int) + -32).toNat = c.val - 0x20 := by omega
  have hlt : c.val - 0x20 < 0x110000 := by omega
  rw [CaseRun.image?, if_pos (by simp [letters, h, Nat.mod_one])]
  show CodePoint.ofNat? ((c.val : Int) + -32).toNat = _
  rw [hmoved, CodePoint.ofNat?, dif_pos hlt, CodePoint.upperAscii, dif_pos h]

/-- The other runs are above ASCII. -/
theorem upperRuns_eq : ∃ rest, upperRuns = letters :: rest ∧ ∀ r ∈ rest, 0x80 ≤ r.first :=
  ⟨upperRuns.tail, rfl, by decide +kernel⟩

theorem upperSequences_above : ∀ s ∈ upperSequences, 0x80 ≤ s.1 := by decide +kernel

/-- The upper case of a letter of ASCII is a letter of ASCII, and other code points of ASCII have
none. -/
theorem mapCase_upper {c : CodePoint} (h : c.val < 0x80) :
    mapCase upperRuns upperSequences c = [c.upperAscii] := by
  have hsequences : upperSequences.lookup c.val = none := by
    rw [List.lookup_eq_none_iff]
    intro s hs
    have habove := upperSequences_above s hs
    rw [bne_iff_ne]
    omega
  obtain ⟨rest, hruns, hrest⟩ := upperRuns_eq
  have hnone : rest.findSome? (·.image? c) = none := by
    rw [List.findSome?_eq_none_iff]
    intro r hr
    have habove := hrest r hr
    exact CaseRun.image?_eq_none (by omega)
  rw [mapCase, hsequences, hruns, List.findSome?_cons, hnone]
  by_cases hc : 0x61 ≤ c.val ∧ c.val ≤ 0x7A
  · rw [image?_letters hc]
    rfl
  · rw [CaseRun.image?_eq_none hc, CodePoint.upperAscii, dif_neg hc]
    rfl

theorem upper_append (s t : Text) : upper (s ++ t) = upper s ++ upper t := List.flatMap_append

theorem upper_eq_map {t : Text} (h : ∀ c ∈ t, c.val < 0x80) :
    upper t = t.map CodePoint.upperAscii := by
  induction t with
  | nil => rfl
  | cons c r ih =>
    rw [List.forall_mem_cons] at h
    rw [upper, List.flatMap_cons, mapCase_upper h.1, List.map_cons, ← ih h.2]
    rfl

theorem Visible.upper {t : Text} (h : Visible t) : upper t = t.map CodePoint.upperAscii :=
  upper_eq_map fun c hc => (h c hc).2.trans (by decide)

/-- Digits have no upper case. -/
theorem upper_of_digits {t : Text} (h : ∀ c ∈ t, c.isDigit = true) : Unicode.upper t = t := by
  have hdigit : ∀ c ∈ t, CodePoint.upperAscii c = id c := by
    intro c hc
    have hval := Text.val_of_isDigit (h c hc)
    exact dif_neg (by omega)
  rw [(visible_of_digits h).upper, List.map_congr_left hdigit, List.map_id]

end JsonTap.Unicode
