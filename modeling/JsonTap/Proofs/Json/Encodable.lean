import JsonTap.Proofs.Encoding.Utf8
import JsonTap.Proofs.Json.RoundTrip
import JsonTap.Proofs.Text.Split

/-!
# Values that UTF-8 can hold

A layout that escapes no more than it must writes surrogates as they are, and adds none. So what it
writes of a value has an encoding in UTF-8 exactly if every string and every key in the value has
one (`encodable_render_iff`).
-/

namespace JsonTap

open Utf8

/-! ## Numbers -/

namespace Double

/-- Digits that are laid out can be written. -/
theorem encodable_layOut {l : Layout} (hl : Encodable l.wholeSuffix) {digits : Text}
    (hd : Encodable digits) (lead : Int) : Encodable (layOut l digits lead) := by
  have hshown := hd.of_subset (Text.trimEnd_subset (· == '0') digits)
  unfold layOut
  dsimp only
  split
  · split
    · split
      · exact encodable_append.mpr ⟨encodable_append.mpr ⟨hshown, encodable_replicate _ rfl⟩, hl⟩
      · exact encodable_append.mpr ⟨hshown.of_subset (List.take_subset _ _),
          encodable_cons.mpr ⟨rfl, hshown.of_subset (List.drop_subset _ _)⟩⟩
    · exact encodable_append.mpr
        ⟨encodable_append.mpr ⟨encodable_ofString _, encodable_replicate _ rfl⟩, hshown⟩
  · refine encodable_append.mpr ⟨?_, encodable_cons.mpr ⟨rfl, encodable_cons.mpr
      ⟨?_, encodable_padStart _ rfl (encodable_ofNat _)⟩⟩⟩
    · split
      · exact encodable_nil
      · next h => rwa [h] at hshown
      · next h =>
          rw [h] at hshown
          obtain ⟨hfirst, hrest⟩ := encodable_cons.mp hshown
          exact encodable_cons.mpr ⟨hfirst, encodable_cons.mpr ⟨rfl, hrest⟩⟩
    · split <;> rfl

/-- No number is written with surrogates. -/
theorem encodable_render (x : Double) : Encodable (x.render .json) := by
  cases x with
  | nan => exact encodable_ofString _
  | signed negative c =>
      have hbody : Encodable (if c.val = infinityCode then Layout.json.infinity
          else if c.val = 0 then ('0' : CodePoint) :: Layout.json.wholeSuffix
          else magnitudeText .json c.val) := by
        refine encodable_ite (encodable_ofString _) (encodable_ite ?_ ?_)
        · exact encodable_cons.mpr ⟨rfl, encodable_ofString _⟩
        · exact encodable_layOut (encodable_ofString _) (encodable_ofNat _) _
      rw [render]
      exact encodable_ite (encodable_cons.mpr ⟨rfl, hbody⟩) hbody

end Double

namespace Json

/-! ## Strings -/

/-- A string with no more escapes than it must have keeps its surrogates, and gets no others. -/
theorem encodable_escape_iff {t : Text} :
    Encodable (t.flatMap (escape false)) ↔ Encodable t := by
  have hone : ∀ c : CodePoint, Encodable (escape false c) ↔ c.isSurrogate = false := by
    intro c
    have hunit : Encodable (unitEscape c.val) :=
      encodable_cons.mpr ⟨isSurrogate_ofChar _,
        encodable_cons.mpr ⟨isSurrogate_ofChar _, encodable_hex 4 _⟩⟩
    constructor
    · -- a surrogate is none of the code points that are escaped
      intro h
      by_contra hc
      have hself : escape false c = [c] := by
        rw [Bool.not_eq_false, CodePoint.isSurrogate, Bool.and_eq_true, decide_eq_true_eq] at hc
        have hne : ∀ x : Char, x.val.toNat < 0x80 → c ≠ x := by
          rintro x hx rfl
          have : (CodePoint.ofChar x).val = x.val.toNat := rfl
          omega
        rw [escape, if_neg (hne _ (by decide)), if_neg (hne _ (by decide)),
          if_neg (hne _ (by decide)), if_neg (hne _ (by decide)), if_neg (hne _ (by decide)),
          if_neg (by omega), if_neg (by omega), if_neg (by omega)]
        rfl
      rw [hself] at h
      exact hc (h c (List.mem_singleton.mpr rfl))
    · intro hc
      rw [escape]
      -- seven escapes in one letter, then the one by number
      iterate 7 refine encodable_ite (encodable_ofString _) ?_
      exact encodable_ite hunit (List.forall_mem_singleton.mpr hc)
  exact encodable_flatMap_iff hone

/-- Quotes do not change whether a string can be written. -/
theorem encodable_quote_iff {t : Text} : Encodable (quote false t) ↔ Encodable t := by
  have hmark : Encodable [('"' : CodePoint)] := encodable_ofString "\""
  rw [quote, ← List.singleton_append, encodable_append, encodable_append, encodable_escape_iff]
  exact ⟨fun h => h.2.1, fun h => ⟨hmark, h, hmark⟩⟩

/-! ## Values -/

/-- A layout that escapes no more than it must, and adds no surrogates. -/
structure Layout.Bare (l : Layout) : Prop where
  ascii : l.ascii = false
  comma : Encodable l.comma
  colon : Encodable l.colon

theorem bare_indented : Layout.indented.Bare :=
  ⟨rfl, encodable_ofString _, encodable_ofString _⟩

theorem bare_compact : Layout.compact.Bare :=
  ⟨rfl, encodable_ofString _, encodable_ofString _⟩

theorem encodable_newline (l : Layout) (depth : Nat) : Encodable (l.newline depth) := by
  rw [Layout.newline]
  cases l.indent with
  | none => exact encodable_nil
  | some n =>
      exact encodable_cons.mpr ⟨rfl, encodable_replicate _ rfl⟩

mutual

/-- What is written of a value has an encoding exactly if the texts in the value have one. -/
theorem encodable_render_iff {l : Layout} (hl : l.Bare) (depth : Nat) (v : Value) :
    Encodable (render l depth v) ↔ v.Texts Encodable := by
  cases v with
  | null => exact iff_of_true (encodable_ofString _) trivial
  | bool b => cases b <;> exact iff_of_true (encodable_ofString _) trivial
  | int n => exact iff_of_true (encodable_ofInt n) trivial
  | num x => exact iff_of_true x.encodable_render trivial
  | str t =>
      rw [render, hl.ascii]
      exact encodable_quote_iff
  | arr vs =>
      cases vs with
      | nil => exact iff_of_true (encodable_ofString _) trivial
      | cons v vs =>
          have hfirst := encodable_render_iff hl (depth + 1) v
          have hrest := encodable_renderItems_iff hl (depth + 1) vs
          simp only [render, encodable_cons, encodable_append, encodable_newline, hfirst, hrest,
            isSurrogate_ofChar, encodable_nil, true_and, and_true]
          exact Iff.rfl
  | obj ms =>
      cases ms with
      | nil => exact iff_of_true (encodable_ofString _) trivial
      | cons m ms =>
          obtain ⟨k, v⟩ := m
          have hfirst := encodable_render_iff hl (depth + 1) v
          have hrest := encodable_renderMembers_iff hl (depth + 1) ms
          simp only [render, encodable_cons, encodable_append, encodable_newline, hl.ascii,
            hl.colon, encodable_quote_iff, hfirst, hrest, isSurrogate_ofChar, encodable_nil, true_and,
            and_true, and_assoc]
          exact Iff.rfl

theorem encodable_renderItems_iff {l : Layout} (hl : l.Bare) (depth : Nat) (vs : List Value) :
    Encodable (renderItems l depth vs) ↔ Value.ItemTexts Encodable vs := by
  cases vs with
  | nil => exact iff_of_true (encodable_nil) trivial
  | cons v vs =>
      have hfirst := encodable_render_iff hl depth v
      have hrest := encodable_renderItems_iff hl depth vs
      simp only [renderItems, encodable_append, hl.comma, encodable_newline, hfirst, hrest,
        true_and]
      exact Iff.rfl

theorem encodable_renderMembers_iff {l : Layout} (hl : l.Bare) (depth : Nat)
    (ms : List (Text × Value)) :
    Encodable (renderMembers l depth ms) ↔ Value.MemberTexts Encodable ms := by
  cases ms with
  | nil => exact iff_of_true (encodable_nil) trivial
  | cons m ms =>
      obtain ⟨k, v⟩ := m
      have hfirst := encodable_render_iff hl depth v
      have hrest := encodable_renderMembers_iff hl depth ms
      simp only [renderMembers, encodable_append, hl.comma, hl.colon, hl.ascii, encodable_newline,
        encodable_quote_iff, hfirst, hrest, true_and, and_assoc]
      exact Iff.rfl

end

end Json

end JsonTap
