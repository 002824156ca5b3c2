import JsonTap.Proofs.Encoding.Utf8
import JsonTap.Proofs.Json.Built
import JsonTap.Proofs.Json.Encodable
import Mathlib.Data.List.Chain

/-!
# Halves of surrogate pairs

A text may hold surrogates, but when a high one stands directly before a low one then the escapes of
the two are read as one code point. `Unpaired` excludes this: a string that is written with escapes
for everything but ASCII is read back exactly if it is `Unpaired` (`chars_of_unpaired`).

The strings of a payload are such texts, for a pair of escapes in it has become one code point
already (`Document.unpaired`), and so is what the log shows of it (`Value.unpaired_indented`).
-/

namespace JsonTap

open Utf8

/-- No high surrogate stands directly before a low one. -/
def Unpaired (t : Text) : Prop :=
  t.IsChain fun a b => ¬ (a.isHighSurrogate = true ∧ b.isLowSurrogate = true)

theorem isSurrogate_of_isHighSurrogate {c : CodePoint} (h : c.isHighSurrogate = true) :
    c.isSurrogate = true := by
  simp [CodePoint.isSurrogate, CodePoint.isHighSurrogate] at h ⊢
  omega

theorem isSurrogate_of_isLowSurrogate {c : CodePoint} (h : c.isLowSurrogate = true) :
    c.isSurrogate = true := by
  simp [CodePoint.isSurrogate, CodePoint.isLowSurrogate] at h ⊢
  omega

theorem isHighSurrogate_of_not_isSurrogate {c : CodePoint} (h : c.isSurrogate = false) :
    c.isHighSurrogate = false := by
  apply Bool.eq_false_iff.mpr
  intro hhigh
  rw [isSurrogate_of_isHighSurrogate hhigh] at h
  cases h

theorem isLowSurrogate_of_not_isSurrogate {c : CodePoint} (h : c.isSurrogate = false) :
    c.isLowSurrogate = false := by
  apply Bool.eq_false_iff.mpr
  intro hlow
  rw [isSurrogate_of_isLowSurrogate hlow] at h
  cases h

theorem unpaired_nil : Unpaired [] := .nil

/-- Behind a code point that is no high surrogate anything may stand. -/
theorem unpaired_cons {c : CodePoint} {t : Text} (hc : c.isHighSurrogate = false)
    (ht : Unpaired t) : Unpaired (c :: t) := by
  apply List.isChain_cons.mpr
  refine ⟨?_, ht⟩
  rintro d - ⟨hhigh, -⟩
  rw [hc] at hhigh
  cases hhigh

theorem unpaired_of_encodable {t : Text} (ht : Encodable t) : Unpaired t := by
  induction t with
  | nil => exact unpaired_nil
  | cons c t ih =>
      obtain ⟨hc, ht⟩ := encodable_cons.mp ht
      exact unpaired_cons (isHighSurrogate_of_not_isSurrogate hc) (ih ht)

namespace Json

open Grammar

/-! ## Strings that are read -/

theorem Grammar.SimpleEscape.not_isSurrogate {e x : CodePoint} (h : SimpleEscape e x) :
    x.isSurrogate = false := by
  cases h <;> decide

theorem not_isSurrogate_of_pair {c : CodePoint} {n m : Nat} (hc : c.val = 0x10000 + n + m) :
    c.isSurrogate = false := by
  simp [CodePoint.isSurrogate]
  omega

/-- A low surrogate at the front of a string is spelled by its escape. -/
theorem Grammar.Chars.low_front {s t : Text} {l : CodePoint} (h : Chars s (l :: t))
    (hs : Encodable s) (hl : l.isLowSurrogate = true) : ∃ f r, UnitEscape f l ∧ s = f ++ r := by
  have hnot : l.isSurrogate ≠ false := by simp [isSurrogate_of_isLowSurrogate hl]
  cases h with
  | plain _ _ _ _ => exact absurd (encodable_cons.mp hs).1 hnot
  | simple he _ => exact absurd he.not_isSurrogate hnot
  | pair _ _ _ _ hc _ => exact absurd (not_isSurrogate_of_pair hc) hnot
  | unit he _ _ => exact ⟨_, _, he, rfl⟩

/-- A string of a text without surrogates has no pair: its escapes would have been read as one code
point. -/
theorem Grammar.Chars.unpaired {s t : Text} (h : Chars s t) (hs : Encodable s) : Unpaired t := by
  induction h with
  | nil => exact unpaired_nil
  | plain _ _ _ _ ih =>
      obtain ⟨hc, hs⟩ := encodable_cons.mp hs
      exact unpaired_cons (isHighSurrogate_of_not_isSurrogate hc) (ih hs)
  | simple he _ ih =>
      have hs := (encodable_cons.mp (encodable_cons.mp hs).2).2
      exact unpaired_cons (isHighSurrogate_of_not_isSurrogate he.not_isSurrogate) (ih hs)
  | pair _ _ _ _ hc _ ih =>
      have hs := (encodable_append.mp (encodable_append.mp hs).2).2
      exact unpaired_cons (isHighSurrogate_of_not_isSurrogate (not_isSurrogate_of_pair hc)) (ih hs)
  | @unit e u s t he halone hrest ih =>
      have hs := (encodable_append.mp hs).2
      apply List.isChain_cons.mpr
      refine ⟨?_, ih hs⟩
      rintro l hl ⟨hhigh, hlow⟩
      obtain ⟨t, rfl⟩ := List.head?_eq_some_iff.mp hl
      obtain ⟨f, r, hf, hsplit⟩ := hrest.low_front hs hlow
      exact halone hhigh f l r hf hlow hsplit

mutual

/-- The strings of a value that is read have no pairs. -/
theorem Grammar.Derives.unpaired {s : Text} {v : Value} (h : Derives s v) (hs : Encodable s) :
    v.Texts Unpaired := by
  match h with
  | .nullWord | .trueWord | .falseWord | .integer _ _ | .double _ _ _ _ => exact trivial
  | .emptyArray _ | .emptyObject _ => exact trivial
  | .string ht => exact ht.unpaired (encodable_append.mp (encodable_cons.mp hs).2).1
  | .array hi => exact Items.unpaired hi (encodable_append.mp (encodable_cons.mp hs).2).1
  | .object hm _ => exact Members.unpaired hm (encodable_append.mp (encodable_cons.mp hs).2).1

theorem Grammar.Items.unpaired {s : Text} {vs : List Value} (h : Items s vs) (hs : Encodable s) :
    Value.ItemTexts Unpaired vs := by
  match h with
  | .one _ hv _ =>
      have hs := (encodable_append.mp (encodable_append.mp hs).2).1
      exact ⟨Derives.unpaired hv hs, trivial⟩
  | .cons _ hv _ hr =>
      have hs := encodable_append.mp (encodable_append.mp hs).2
      have hrest := (encodable_cons.mp (encodable_append.mp hs.2).2).2
      exact ⟨Derives.unpaired hv hs.1, Items.unpaired hr hrest⟩

theorem Grammar.Members.unpaired {s : Text} {ms : List (Text × Value)} (h : Members s ms)
    (hs : Encodable s) : Value.MemberTexts Unpaired ms := by
  match h with
  | .one hm =>
      obtain ⟨hkey, hvalue⟩ := Member.unpaired hm hs
      exact ⟨hkey, hvalue, trivial⟩
  | .cons hm hr =>
      obtain ⟨hs, hrest⟩ := encodable_append.mp hs
      obtain ⟨hkey, hvalue⟩ := Member.unpaired hm hs
      exact ⟨hkey, hvalue, Members.unpaired hr (encodable_cons.mp hrest).2⟩

theorem Grammar.Member.unpaired {s : Text} {m : Text × Value} (h : Member s m) (hs : Encodable s) :
    Unpaired m.1 ∧ m.2.Texts Unpaired := by
  match h with
  | .mk _ hk _ _ hv _ =>
      simp only [encodable_append, encodable_cons] at hs
      obtain ⟨-, -, hkey, -, -, -, -, hvalue, -⟩ := hs
      exact ⟨hk.unpaired hkey, Derives.unpaired hv hvalue⟩

end

theorem Grammar.Document.unpaired {s : Text} {v : Value} (h : Document s v) (hs : Encodable s) :
    v.Texts Unpaired := by
  obtain ⟨a, t, b, -, ht, -, rfl⟩ := h
  exact ht.unpaired (encodable_append.mp (encodable_append.mp hs).2).1

/-! ## Strings that are written with escapes -/

/-- The escape of a low surrogate at the front of a string stands for this surrogate. -/
theorem Grammar.Chars.low_of_front {f r t : Text} {l d : CodePoint} (h : Chars (f ++ r) (d :: t))
    (hf : UnitEscape f l) (hl : l.isLowSurrogate = true) : d = l := by
  have hhigh : l.isHighSurrogate = false := by
    simp [CodePoint.isLowSurrogate, CodePoint.isHighSurrogate] at hl ⊢
    omega
  obtain ⟨ps, hs, hjoin⟩ := h.spelled
  obtain ⟨qs, rfl, -⟩ := hs.unit_front hf
  cases qs with
  | nil => exact (List.cons.inj hjoin).1.symm
  | cons q qs =>
      cases q with
      | plain c => exact (List.cons.inj hjoin).1.symm
      | unit w =>
          rw [joinPieces, if_neg (by simp [hhigh])] at hjoin
          exact (List.cons.inj hjoin).1.symm

theorem chars_of_unpaired {t : Text} (ht : Unpaired t) : Chars (t.flatMap (escape true)) t := by
  induction t with
  | nil => exact .nil
  | cons c t ih =>
      obtain ⟨halone, ht⟩ := List.isChain_cons.mp ht
      apply chars_escape (ih ht)
      intro _ hhigh f l r hf hl hsplit
      cases t with
      | nil =>
          have h6 := hf.length
          rw [(List.append_eq_nil_iff.mp hsplit.symm).1] at h6
          cases h6
      | cons d t =>
          have hrest := ih ht
          rw [hsplit] at hrest
          obtain rfl := hrest.low_of_front hf hl
          exact halone d rfl ⟨hhigh, hl⟩

/-! ## What the log shows -/

/-- A text that may stand behind any other. -/
structure Apart (t : Text) : Prop where
  unpaired : Unpaired t
  front : ∀ c ∈ t.head?, c.isLowSurrogate = false

theorem Apart.append {s t : Text} (hs : Apart s) (ht : Apart t) : Apart (s ++ t) := by
  refine ⟨List.isChain_append.mpr ⟨hs.unpaired, ht.unpaired, ?_⟩, ?_⟩
  · rintro a - b hb ⟨-, hlow⟩
    rw [ht.front b hb] at hlow
    cases hlow
  · intro c hc
    rw [List.head?_append] at hc
    cases s with
    | nil => exact ht.front c hc
    | cons d s => exact hs.front c hc

theorem apart_of_encodable {t : Text} (ht : Encodable t) : Apart t := by
  refine ⟨unpaired_of_encodable ht, ?_⟩
  intro c hc
  exact isLowSurrogate_of_not_isSurrogate (ht c (List.mem_of_mem_head? hc))

theorem escape_bare (c : CodePoint) :
    escape false c = [c] ∨ escape false c ≠ [] ∧ Encodable (escape false c) := by
  have h := escaped_escape false c
  generalize escape false c = t at h ⊢
  cases h with
  | letter s hs =>
      right
      refine ⟨?_, encodable_ofString s⟩
      simp only [List.mem_cons, List.not_mem_nil, or_false] at hs
      rcases hs with rfl | rfl | rfl | rfl | rfl | rfl | rfl <;> exact List.cons_ne_nil _ _
  | unit =>
      right
      refine ⟨List.cons_ne_nil _ _, ?_⟩
      exact encodable_cons.mpr ⟨isSurrogate_ofChar _,
        encodable_cons.mpr ⟨isSurrogate_ofChar _, encodable_hex 4 _⟩⟩
  | pair _ _ hascii => cases hascii
  | plain _ _ =>
      left
      rfl

theorem escape_ne_nil (c : CodePoint) : escape false c ≠ [] := by
  rcases escape_bare c with hc | ⟨hc, -⟩
  · rw [hc]
    exact List.cons_ne_nil c []
  · exact hc

/-- A surrogate at an end of an escape is the code point itself. -/
theorem eq_of_surrogate_escape {c x : CodePoint} (hx : x ∈ escape false c)
    (hs : x.isSurrogate = true) : x = c := by
  rcases escape_bare c with hc | ⟨-, hc⟩
  · rw [hc] at hx
    exact List.mem_singleton.mp hx
  · rw [hc x hx] at hs
    cases hs

theorem unpaired_escape {t : Text} (ht : Unpaired t) : Unpaired (t.flatMap (escape false)) := by
  induction t with
  | nil => exact unpaired_nil
  | cons c t ih =>
      obtain ⟨halone, ht⟩ := List.isChain_cons.mp ht
      rw [List.flatMap_cons]
      apply List.isChain_append.mpr
      refine ⟨?_, ih ht, ?_⟩
      · rcases escape_bare c with hc | ⟨-, hc⟩
        · rw [hc]
          exact .singleton c
        · exact unpaired_of_encodable hc
      · -- surrogates at the seam are the code points themselves
        rintro a ha b hb ⟨hhigh, hlow⟩
        cases t with
        | nil => cases hb
        | cons d t =>
            rw [List.flatMap_cons, List.head?_append_of_ne_nil _ (escape_ne_nil d)] at hb
            obtain rfl := eq_of_surrogate_escape (List.mem_of_getLast? ha)
              (isSurrogate_of_isHighSurrogate hhigh)
            obtain rfl := eq_of_surrogate_escape (List.mem_of_mem_head? hb)
              (isSurrogate_of_isLowSurrogate hlow)
            exact halone _ rfl ⟨hhigh, hlow⟩

/-- A string with no more escapes than it must have. -/
theorem apart_quote {t : Text} (ht : Unpaired t) : Apart (quote false t) := by
  have hmark : Encodable [('"' : CodePoint)] := encodable_ofString "\""
  refine ⟨unpaired_cons rfl (List.isChain_append.mpr
    ⟨unpaired_escape ht, unpaired_of_encodable hmark, ?_⟩), ?_⟩
  · rintro a - b hb ⟨-, hlow⟩
    cases hb
    cases hlow
  · rintro c hc
    cases hc
    rfl

theorem Layout.Bare.builds_apart {l : Layout} (hl : l.Bare) : l.Builds Apart Unpaired where
  append := Apart.append
  nothing := apart_of_encodable encodable_nil
  word s _ := apart_of_encodable (encodable_ofString s)
  comma := apart_of_encodable hl.comma
  colon := apart_of_encodable hl.colon
  newline depth _ := apart_of_encodable (encodable_newline l depth)
  closing depth s _ := apart_of_encodable
    (encodable_append.mpr ⟨encodable_newline l depth, encodable_ofString s⟩)
  int n := apart_of_encodable (encodable_ofInt n)
  num x := apart_of_encodable x.encodable_render
  str t ht := by
    rw [hl.ascii]
    exact apart_quote ht

/-- What is written of a value has no pairs if its strings have none. -/
theorem Value.unpaired_indented {v : Value} (ht : v.Texts Unpaired) : Unpaired v.indented :=
  (bare_indented.builds_apart.render 0 v ht).unpaired

end Json

end JsonTap
