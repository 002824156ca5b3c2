import JsonTap.Log.Timestamp
import JsonTap.Proofs.Encoding.Utf8

/-!
# Times that can be written

A time is written unless it lies outside the years 1 to 9999 (`iso_of_inYears`). The fraction of a
second is rounded, so that the time of a record may lie a second before or after what it is written
as; `InYears` leaves out the second at either end for that.
-/

namespace JsonTap

open Utf8

/-- The years of the days from 0001-01-01 to 9999-12-31. -/
theorem Date.year_ofDayNumber {n : Int} (h : -719162 ≤ n) (h' : n ≤ 2932896) :
    1 ≤ (Date.ofDayNumber n).year ∧ (Date.ofDayNumber n).year ≤ 9999 := by
  unfold Date.ofDayNumber
  dsimp only
  rw [Int.fdiv_eq_ediv_of_nonneg _ (by omega)]
  split <;> split <;> omega

namespace Timestamp

theorem encodable_two (n : Nat) : Encodable (two n) :=
  encodable_padStart 2 (isSurrogate_ofChar _) (encodable_ofNat n)

theorem encodable_micros (n : Nat) : Encodable (micros n) := by
  rw [micros]
  split
  · exact List.forall_mem_nil _
  · exact List.forall_mem_cons.mpr ⟨isSurrogate_ofChar _,
      encodable_padStart 6 (isSurrogate_ofChar _) (encodable_ofNat n)⟩

/-- A date that can be told can be written. -/
theorem encodable_dateTime {seconds : Int} {n : Nat} {t : Text}
    (h : dateTime seconds n = .ok t) : Encodable t := by
  unfold dateTime at h
  dsimp only at h
  split at h
  · cases h
  · split at h
    · cases h
    · cases h
      simp only [calendar, clock, encodable_append, encodable_two, encodable_micros,
        encodable_ofString, encodable_padStart 4 (isSurrogate_ofChar _) (encodable_ofInt _),
        and_self]

/-- A time stamp can be written. -/
theorem encodable_iso {created : Double} {time : Text} (h : iso created = .ok time) :
    Encodable time := by
  unfold iso at h
  cases hsplit : split created with
  | error f =>
      rw [hsplit] at h
      cases h
  | ok parts =>
      obtain ⟨seconds, part⟩ := parts
      rw [hsplit] at h
      cases hdate : dateTime seconds part with
      | error f =>
          simp only [bind, Except.bind, hdate] at h
          cases h
      | ok text =>
          simp only [bind, Except.bind, hdate] at h
          cases h
          exact encodable_append.mpr ⟨encodable_dateTime hdate, encodable_ofString _⟩

/-- A second of the years 1 to 9999 has a date. -/
theorem dateTime_ok {seconds : Int} (h : -62135596800 ≤ seconds) (h' : seconds ≤ 253402300799)
    (microseconds : Nat) : ∃ t, dateTime seconds microseconds = .ok t := by
  have hday : seconds.fdiv 86400 = seconds / 86400 := Int.fdiv_eq_ediv_of_nonneg _ (by omega)
  obtain ⟨hlow, hhigh⟩ := Date.year_ofDayNumber (n := seconds.fdiv 86400)
    (by rw [hday]; omega) (by rw [hday]; omega)
  unfold dateTime
  dsimp only
  rw [if_neg (by simp [yearFits]; omega), if_neg (by simp; omega)]
  exact ⟨_, rfl⟩

/-- A finite time of the years 1 to 9999, but for a second at their ends. -/
structure InYears (t : Double) : Prop where
  finite : t.isFinite = true
  low : -62135596799 ≤ t.truncate
  high : t.truncate ≤ 253402300798

/-- The start of the epoch. -/
theorem inYears_zero : InYears .zero := by
  have htruncate : Double.zero.truncate = 0 := by decide +kernel
  exact ⟨rfl, by rw [htruncate]; decide, by rw [htruncate]; decide⟩

/-- A time within the years of the calendar splits into seconds within them, and a part. -/
theorem InYears.split {t : Double} (h : InYears t) :
    ∃ seconds part, Timestamp.split t = .ok (seconds, part) ∧
      -62135596800 ≤ seconds ∧ seconds ≤ 253402300799 := by
  have hlow := h.low
  have hhigh := h.high
  have hkind : t.isNan = false ∧ t.isInfinite = false := by
    have hfinite := h.finite
    cases t with
    | nan => cases hfinite
    | signed negative code =>
        have hcode : code.val < infinityCode := of_decide_eq_true hfinite
        exact ⟨rfl, decide_eq_false (Nat.ne_of_lt hcode)⟩
  have hfit : ∀ n : Int, -62135596800 ≤ n → n ≤ 253402300799 → ¬ (!secondsFit n) = true := by
    intro n hn hn'
    simp [secondsFit]
    omega
  unfold Timestamp.split
  rw [hkind.1, hkind.2, if_neg Bool.false_ne_true, if_neg Bool.false_ne_true]
  dsimp only
  -- the rounded fraction may carry over into the second before or after
  by_cases hcarry : 1000000 ≤ (t.fraction.mul (Double.ofInt 1000000)).round
  · rw [if_pos hcarry]
    dsimp only
    rw [if_neg (hfit _ (by omega) (by omega))]
    exact ⟨_, _, rfl, by omega, by omega⟩
  · rw [if_neg hcarry]
    by_cases hborrow : (t.fraction.mul (Double.ofInt 1000000)).round < 0
    · rw [if_pos hborrow]
      dsimp only
      rw [if_neg (hfit _ (by omega) (by omega))]
      exact ⟨_, _, rfl, by omega, by omega⟩
    · rw [if_neg hborrow]
      dsimp only
      rw [if_neg (hfit _ (by omega) (by omega))]
      exact ⟨_, _, rfl, by omega, by omega⟩

/-- Such a time is written, and in characters only. -/
theorem iso_of_inYears {t : Double} (h : InYears t) :
    ∃ text, iso t = .ok text ∧ Encodable text := by
  obtain ⟨seconds, part, hsplit, hlow, hhigh⟩ := h.split
  obtain ⟨text, htext⟩ := dateTime_ok hlow hhigh part
  refine ⟨text ++ Text.ofString "+00:00", ?_, ?_⟩
  · unfold iso
    rw [hsplit]
    show (dateTime seconds part).bind _ = _
    rw [htext]
    rfl
  · exact encodable_append.mpr ⟨encodable_dateTime htext, encodable_ofString _⟩

end Timestamp

end JsonTap
