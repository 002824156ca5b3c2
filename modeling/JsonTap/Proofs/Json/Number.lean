import JsonTap.Proofs.Json.Grammar

/-!
# Reading numbers

`Numeral.scan?` takes a number off the front of a text. What it takes has the form of a number and
is the front of the text (`scan?_sound`). A number in front of something that cannot go on with it
is taken whole (`scan?_complete`); `Numeral.CannotContinue` says when that is so.
-/

namespace JsonTap.Json.Numeral

open Grammar

/-! ## Runs of digits -/

def NoDigit (r : Text) : Prop := ∀ c t, r = c :: t → c.isDigit = false

theorem takeWhile_digits {ds r : Text} (hd : ∀ c ∈ ds, c.isDigit = true) (hr : NoDigit r) :
    (ds ++ r).takeWhile CodePoint.isDigit = ds := by
  rw [List.takeWhile_append_of_pos hd]
  cases r with
  | nil => simp
  | cons c t => simp [hr c t rfl]

theorem dropWhile_digits {ds r : Text} (hd : ∀ c ∈ ds, c.isDigit = true) (hr : NoDigit r) :
    (ds ++ r).dropWhile CodePoint.isDigit = r := by
  rw [List.dropWhile_append_of_pos hd]
  cases r with
  | nil => rfl
  | cons c t => simp [hr c t rfl]

theorem digit_of_mem_takeWhile {s : Text} {c : CodePoint}
    (h : c ∈ s.takeWhile CodePoint.isDigit) : c.isDigit = true :=
  List.all_eq_true.mp List.all_takeWhile c h

/-- A digit is none of the marks of a number. -/
theorem ne_of_isDigit {c : CodePoint} (h : c.isDigit = true) :
    c ≠ '-' ∧ c ≠ '+' ∧ c ≠ '.' ∧ c ≠ 'e' ∧ c ≠ 'E' := by
  refine ⟨?_, ?_, ?_, ?_, ?_⟩ <;>
    · rintro rfl
      revert h
      decide

/-! ## Soundness -/

def minusText (negative : Bool) : Text := if negative then [('-' : CodePoint)] else []

def fractionText (fraction : Text) : Text :=
  if fraction.isEmpty then [] else ('.' : CodePoint) :: fraction

theorem text_eq (n : Numeral) :
    n.text = minusText n.negative ++ (n.whole ++ (fractionText n.fraction ++
      exponentText n.exponent)) := by
  simp [text, minusText, fractionText]

/-- What is read and what is left are the text. -/
theorem scanMinus_sound (s : Text) : s = minusText (scanMinus s).1 ++ (scanMinus s).2 := by
  unfold scanMinus
  split
  · split
    · next h => simp [minusText, h]
    · simp [minusText]
  · simp [minusText]

/-- A whole part is read without a zero in front. -/
theorem scanWhole?_sound {s w r : Text} (h : scanWhole? s = some (w, r)) :
    s = w ++ r ∧ (w = [('0' : CodePoint)] ∨
      Digits w ∧ w.head? ≠ some ('0' : CodePoint)) := by
  cases s with
  | nil => cases h
  | cons c t =>
      rw [scanWhole?] at h
      split at h
      · next hc =>
          cases h
          exact ⟨rfl, .inl (by rw [hc])⟩
      · next hc =>
          split at h
          · next hd =>
              cases h
              refine ⟨?_, .inr ⟨⟨List.cons_ne_nil _ _, ?_⟩, by simpa using hc⟩⟩
              · rw [List.cons_append, List.takeWhile_append_dropWhile]
              · intro x hx
                rcases List.mem_cons.mp hx with rfl | hx
                · exact hd
                · exact digit_of_mem_takeWhile hx
          · cases h

/-- A fraction is read with its digits. -/
theorem scanFraction_sound (s : Text) :
    s = fractionText (scanFraction s).1 ++ (scanFraction s).2 ∧
      ∀ c ∈ (scanFraction s).1, c.isDigit = true := by
  unfold scanFraction
  split
  · next p d r =>
      split
      · next h =>
          rw [Bool.and_eq_true, decide_eq_true_eq] at h
          refine ⟨?_, ?_⟩
          · simp [fractionText, h.1, List.takeWhile_append_dropWhile]
          · intro x hx
            rcases List.mem_cons.mp hx with rfl | hx
            · exact h.2
            · exact digit_of_mem_takeWhile hx
      · simp [fractionText]
  · simp [fractionText]

theorem scanSign_sound (s : Text) :
    s = (scanSign s).1.toList ++ (scanSign s).2 ∧
      ∀ c, (scanSign s).1 = some c → c = '-' ∨ c = '+' := by
  unfold scanSign
  split
  · next c r =>
      split
      · next h =>
          refine ⟨rfl, ?_⟩
          intro x hx
          cases hx
          simpa using h
      · simp
  · simp

/-- An exponent is read in its form. -/
theorem scanExponent_sound (s : Text) :
    s = exponentText (scanExponent s).1 ++ (scanExponent s).2 ∧
      ∀ e, (scanExponent s).1 = some e → IsExponent e := by
  unfold scanExponent
  split
  · simp [exponentText]
  · next c r =>
      split
      · next hm =>
          have hs := scanSign_sound r
          revert hs
          generalize scanSign r = x
          obtain ⟨sign, t⟩ := x
          rintro ⟨hr, hsign⟩
          have ht := List.takeWhile_append_dropWhile (p := CodePoint.isDigit) (l := t)
          simp only
          split
          · simp [exponentText]
          · next ds hds =>
              refine ⟨?_, ?_⟩
              · simp only [exponentText, List.cons_append, List.append_assoc]
                rw [ht, ← hr]
              · intro e he
                cases he
                exact ⟨by simpa using hm, hsign, hds, fun x hx => digit_of_mem_takeWhile hx⟩
      · simp [exponentText]

/-- What is read as a number is one, and stands at the front. -/
theorem scan?_sound {s r : Text} {n : Numeral} (h : scan? s = some (n, r)) :
    s = n.text ++ r ∧ IsNumber n := by
  rw [scan?] at h
  simp only at h
  split at h
  · cases h
  · next w t hw =>
      cases h
      obtain ⟨hs, hwhole⟩ := scanWhole?_sound hw
      obtain ⟨ht, hfraction⟩ := scanFraction_sound t
      obtain ⟨hu, hexponent⟩ := scanExponent_sound (scanFraction t).2
      refine ⟨?_, hwhole, hfraction, hexponent⟩
      rw [text_eq]
      simp only [List.append_assoc]
      rw [← hu, ← ht, ← hs]
      exact scanMinus_sound s

/-! ## Completeness -/

/-- What cannot go on with a number: it begins with no digit, point or exponent. -/
def CannotContinue (r : Text) : Prop :=
  ∀ c t, r = c :: t → c.isDigit = false ∧ c ≠ '.' ∧ c ≠ 'e' ∧ c ≠ 'E'

theorem CannotContinue.noDigit {r : Text} (h : CannotContinue r) : NoDigit r :=
  fun c t ht => (h c t ht).1

/-- Nor does a text that begins with an exponent, or with nothing that goes on. -/
theorem exponentText_head {x : Option Exponent} {r : Text}
    (hx : ∀ e, x = some e → IsExponent e) (hr : CannotContinue r) :
    ∀ c t, exponentText x ++ r = c :: t → c.isDigit = false ∧ c ≠ '.' := by
  intro c t h
  cases x with
  | none =>
      have hc := hr c t h
      exact ⟨hc.1, hc.2.1⟩
  | some e =>
      have hm : c = e.mark := (List.cons.inj h).1.symm
      rcases (hx e rfl).mark with he | he <;> rw [hm, he] <;> decide

theorem noDigit_fractionText {f : Text} {x : Option Exponent} {r : Text}
    (hx : ∀ e, x = some e → IsExponent e) (hr : CannotContinue r) :
    NoDigit (fractionText f ++ (exponentText x ++ r)) := by
  intro c t h
  rw [fractionText] at h
  split at h
  · exact (exponentText_head hx hr c t h).1
  · rw [← (List.cons.inj h).1]
    decide

theorem scanMinus_complete {negative : Bool} {w r : Text} (hw : Digits w) :
    scanMinus (minusText negative ++ (w ++ r)) = (negative, w ++ r) := by
  cases negative with
  | true => rfl
  | false =>
      obtain ⟨hne, hd⟩ := hw
      cases w with
      | nil => exact absurd rfl hne
      | cons c w =>
          have hc := (ne_of_isDigit (hd c List.mem_cons_self)).1
          simp [minusText, scanMinus, hc]

/-- A whole part that no digit follows is read to its end. -/
theorem scanWhole?_complete {w r : Text}
    (hw : w = [('0' : CodePoint)] ∨ Digits w ∧ w.head? ≠ some ('0' : CodePoint))
    (hr : NoDigit r) : scanWhole? (w ++ r) = some (w, r) := by
  rcases hw with rfl | ⟨⟨hne, hd⟩, h0⟩
  · rfl
  · cases w with
    | nil => exact absurd rfl hne
    | cons c w =>
        have hc : c ≠ '0' := by simpa using h0
        have hdw : ∀ x ∈ w, x.isDigit = true := fun x hx => hd x (List.mem_cons_of_mem c hx)
        rw [List.cons_append, scanWhole?, if_neg hc, if_pos (hd c List.mem_cons_self),
          takeWhile_digits hdw hr, dropWhile_digits hdw hr]

/-- A fraction is read to its end, before an exponent if there is one. -/
theorem scanFraction_complete {f : Text} {x : Option Exponent} {r : Text}
    (hf : ∀ c ∈ f, c.isDigit = true) (hx : ∀ e, x = some e → IsExponent e)
    (hr : CannotContinue r) :
    scanFraction (fractionText f ++ (exponentText x ++ r)) = (f, exponentText x ++ r) := by
  have hh := exponentText_head hx hr
  cases f with
  | nil =>
      -- nothing is written, so what follows must not be taken for a fraction
      show scanFraction (exponentText x ++ r) = _
      unfold scanFraction
      split
      · next p d t heq =>
          have hp := (hh p (d :: t) heq).2
          rw [if_neg (by simp [hp])]
      · rfl
  | cons d f =>
      have hdf : ∀ c ∈ f, c.isDigit = true := fun c hc => hf c (List.mem_cons_of_mem d hc)
      have hno : NoDigit (exponentText x ++ r) := fun c t h => (hh c t h).1
      have hd := hf d List.mem_cons_self
      show scanFraction (('.' : CodePoint) :: d :: (f ++ (exponentText x ++ r))) = _
      rw [scanFraction, if_pos (by simp [hd]), takeWhile_digits hdf hno, dropWhile_digits hdf hno]

theorem scanSign_complete {sign : Option CodePoint} {ds r : Text}
    (hs : ∀ c, sign = some c → c = '-' ∨ c = '+') (hd : Digits ds) :
    scanSign (sign.toList ++ (ds ++ r)) = (sign, ds ++ r) := by
  cases sign with
  | some c => rcases hs c rfl with rfl | rfl <;> rfl
  | none =>
      obtain ⟨hne, hd⟩ := hd
      cases ds with
      | nil => exact absurd rfl hne
      | cons d ds =>
          obtain ⟨h1, h2, -⟩ := ne_of_isDigit (hd d List.mem_cons_self)
          simp [scanSign, h1, h2]

/-- An exponent is read to its end. -/
theorem scanExponent_complete {x : Option Exponent} {r : Text}
    (hx : ∀ e, x = some e → IsExponent e) (hr : CannotContinue r) :
    scanExponent (exponentText x ++ r) = (x, r) := by
  cases x with
  | none =>
      -- nothing is written, so what follows must not be taken for an exponent
      show scanExponent r = _
      unfold scanExponent
      split
      · rfl
      · next c t =>
          obtain ⟨-, -, h1, h2⟩ := hr c t rfl
          rw [if_neg (by simp [h1, h2])]
  | some e =>
      obtain ⟨mark, sign, ds⟩ := e
      obtain ⟨hm, hs, hd⟩ := hx _ rfl
      dsimp only at hm hs hd
      simp only [exponentText, List.cons_append, List.append_assoc]
      rw [scanExponent, if_pos (by simpa using hm), scanSign_complete hs hd]
      dsimp only
      rw [takeWhile_digits hd.2 hr.noDigit, dropWhile_digits hd.2 hr.noDigit]
      cases ds with
      | nil => exact absurd rfl hd.1
      | cons d ds => rfl

theorem digits_whole {n : Numeral} (h : IsNumber n) : Digits n.whole := by
  rcases h.whole with hw | hw
  · rw [hw]
    refine ⟨List.cons_ne_nil _ _, ?_⟩
    intro c hc
    rw [List.mem_singleton.mp hc]
    rfl
  · exact hw.1

/-- A number is read whole in front of what cannot go on with it. -/
theorem scan?_complete {n : Numeral} {r : Text} (h : IsNumber n) (hr : CannotContinue r) :
    scan? (n.text ++ r) = some (n, r) := by
  rw [text_eq]
  simp only [List.append_assoc]
  rw [scan?, scanMinus_complete (digits_whole h)]
  simp only [scanWhole?_complete h.whole (noDigit_fractionText h.exponent hr),
    scanFraction_complete h.fraction h.exponent hr, scanExponent_complete h.exponent hr]

end JsonTap.Json.Numeral
