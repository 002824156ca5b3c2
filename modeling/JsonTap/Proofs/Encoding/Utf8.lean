import JsonTap.Encoding.Utf8
import JsonTap.Proofs.Text.Decimal
import Mathlib.Data.List.TakeWhile

/-!
# Texts that UTF-8 can hold

A text has an encoding exactly if none of its code points is a surrogate
(`unencodable?_eq_none_iff`). What is made of characters, digits and such texts has one.
-/

namespace JsonTap.Utf8

def Encodable (t : Text) : Prop := ∀ c ∈ t, c.isSurrogate = false

instance (t : Text) : Decidable (Encodable t) :=
  inferInstanceAs (Decidable (∀ c ∈ t, c.isSurrogate = false))

theorem unencodable?_eq_none_iff {t : Text} : unencodable? t = none ↔ Encodable t := by
  have hdrop : t.dropWhile (!·.isSurrogate) = [] ↔ Encodable t := by
    rw [List.dropWhile_eq_nil_iff]
    simp [Encodable]
  rw [← hdrop, unencodable?]
  split
  · next h => simp [h]
  · next h => simp [h]

/-! ### Pieces of texts -/

theorem encodable_nil : Encodable [] := List.forall_mem_nil _

theorem encodable_cons {c : CodePoint} {t : Text} :
    Encodable (c :: t) ↔ c.isSurrogate = false ∧ Encodable t :=
  List.forall_mem_cons

theorem encodable_append {s t : Text} : Encodable (s ++ t) ↔ Encodable s ∧ Encodable t :=
  List.forall_mem_append

/-- What is written code point by code point, surrogates alone with surrogates. -/
theorem encodable_flatMap_iff {f : CodePoint → Text}
    (hf : ∀ c, Encodable (f c) ↔ c.isSurrogate = false) {t : Text} :
    Encodable (t.flatMap f) ↔ Encodable t := by
  induction t with
  | nil => exact Iff.rfl
  | cons c t ih => rw [List.flatMap_cons, encodable_append, encodable_cons, hf, ih]

theorem Encodable.of_subset {s t : Text} (ht : Encodable t) (h : s ⊆ t) : Encodable s :=
  fun c hc => ht c (h hc)

theorem encodable_ite {p : Prop} [Decidable p] {s t : Text} (hs : Encodable s)
    (ht : Encodable t) : Encodable (if p then s else t) := by
  split
  · exact hs
  · exact ht

theorem encodable_replicate {c : CodePoint} (n : Nat) (hc : c.isSurrogate = false) :
    Encodable (List.replicate n c) := by
  intro x hx
  rw [List.eq_of_mem_replicate hx]
  exact hc

theorem encodable_padStart {t : Text} {pad : CodePoint} (n : Nat) (hp : pad.isSurrogate = false)
    (h : Encodable t) : Encodable (Text.padStart n pad t) := by
  apply encodable_append.mpr
  exact ⟨encodable_replicate _ hp, h⟩

/-! ### Characters and numbers -/

theorem isSurrogate_ofChar (c : Char) : (CodePoint.ofChar c).isSurrogate = false := by
  have h := c.valid
  unfold UInt32.isValidChar Nat.isValidChar at h
  rw [CodePoint.isSurrogate, Bool.and_eq_false_iff, decide_eq_false_iff_not,
    decide_eq_false_iff_not]
  show ¬ 0xD800 ≤ c.val.toNat ∨ ¬ c.val.toNat < 0xE000
  omega

theorem encodable_ofString (s : String) : Encodable (Text.ofString s) := by
  intro c hc
  obtain ⟨x, -, rfl⟩ := List.mem_map.mp hc
  exact isSurrogate_ofChar x

theorem Encodable.of_digits {t : Text} (h : ∀ c ∈ t, c.isDigit = true) : Encodable t := by
  intro c hc
  have hd := Text.val_of_isDigit (h c hc)
  rw [CodePoint.isSurrogate, Bool.and_eq_false_iff]
  exact .inl (decide_eq_false (by omega))

theorem encodable_ofNat (n : Nat) : Encodable (Text.ofNat n) :=
  .of_digits (Text.isDigit_of_mem_ofNat n)

theorem encodable_ofInt (n : Int) : Encodable (Text.ofInt n) := by
  cases n with
  | ofNat n => exact encodable_ofNat n
  | negSucc n => exact List.forall_mem_cons.mpr ⟨isSurrogate_ofChar _, encodable_ofNat (n + 1)⟩

theorem encodable_hex (w n : Nat) : Encodable (Text.hex w n) := by
  induction w generalizing n with
  | zero => exact List.forall_mem_nil _
  | succ w ih =>
      refine encodable_append.mpr ⟨ih (n / 16), List.forall_mem_singleton.mpr ?_⟩
      rw [CodePoint.hexDigit, CodePoint.isSurrogate, Bool.and_eq_false_iff]
      split <;> exact .inl (decide_eq_false (by dsimp only; omega))

end JsonTap.Utf8
