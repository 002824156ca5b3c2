import JsonTap.Proofs.Json.Continued
import JsonTap.Proofs.Log.Line
import JsonTap.Proofs.Log.Written

/-!
# Text lines of records

A text line tells time, level and logger in ASCII before the message (`textLine_eq`), so that only
the message can bring a line feed into it (`textLine_continued`). What a handler writes for some
records is cut at any code point inside what it writes for one of them (`Handler.written_split`),
and at a line feed this is the end of a line, or a place where the line goes on
(`Handler.written_lineFeed`).
-/

namespace JsonTap

open Text

/-! ## Times in ASCII -/

theorem Text.asciiLine_padStart {t : Text} (n : Nat) (h : t.AsciiLine) :
    (padStart n '0' t).AsciiLine := by
  refine asciiLine_append.mpr ⟨?_, h⟩
  intro c hc
  rw [List.eq_of_mem_replicate hc]
  exact asciiLine_char (by decide)

namespace Timestamp

theorem asciiLine_two (n : Nat) : (two n).AsciiLine :=
  asciiLine_padStart 2 (Json.asciiLine_ofInt n)

theorem asciiLine_clock (seconds : Nat) : (clock seconds).AsciiLine := by
  have hcolon : (ofString ":").AsciiLine := asciiLine_ofString (by decide)
  unfold clock
  simp only [asciiLine_append, asciiLine_two, hcolon, and_self]

/-- A time in text is one line of ASCII. -/
theorem asciiLine_plain {created : Double} {t : Text} (h : plain created = .ok t) :
    t.AsciiLine := by
  have hword : ∀ s ∈ ["-", " ", ","], (ofString s).AsciiLine := by
    intro s hs
    simp only [List.mem_cons, List.not_mem_nil, or_false] at hs
    rcases hs with rfl | rfl | rfl <;> exact asciiLine_ofString (by decide)
  unfold plain at h
  dsimp only at h
  iterate 4
    split at h
    · cases h
  cases h
  simp only [asciiLine_append, asciiLine_two, asciiLine_clock, Json.asciiLine_ofInt,
    asciiLine_padStart 3 (Json.asciiLine_ofInt _), hword, List.mem_cons, List.not_mem_nil, true_or,
    or_true, and_self]

end Timestamp

namespace Log

/-! ## Lines -/

def textLineFront (time : Text) (r : Record) : Text :=
  time ++ ofString " " ++ r.level.name ++ ofString " " ++ r.logger ++ ofString ": "

/-- A text line is its front and the message. -/
theorem textLine_eq {created : Double} {r : Record} {t : Text} (hr : r.raised = none)
    (h : textLine created r = .ok t) :
    ∃ time message, Timestamp.plain created = .ok time ∧ r.message = .ok message ∧
      t = textLineFront time r ++ message := by
  unfold textLine at h
  cases hm : r.message with
  | error f =>
      rw [hm] at h
      cases h
  | ok message =>
      cases ht : Timestamp.plain created with
      | error f =>
          rw [hm, ht] at h
          cases h
      | ok time =>
          rw [hm, ht, hr] at h
          cases h
          exact ⟨time, message, rfl, rfl, rfl⟩

/-- The front of a text line has no line feed. -/
theorem asciiLine_textLineFront {created : Double} {time : Text}
    (h : Timestamp.plain created = .ok time) {r : Record} (hlogger : r.logger.AsciiLine) :
    (textLineFront time r).AsciiLine := by
  have hblank : (ofString " ").AsciiLine := asciiLine_ofString (by decide)
  have hcolon : (ofString ": ").AsciiLine := asciiLine_ofString (by decide)
  unfold textLineFront
  simp only [asciiLine_append, Timestamp.asciiLine_plain h, asciiLine_levelName, hlogger, hblank,
    hcolon, and_self]

/-- A line goes on where its message does. -/
theorem textLine_continued {created : Double} {r : Record} {t message : Text}
    (hlogger : r.logger.AsciiLine) (hr : r.raised = none) (hmessage : r.message = .ok message)
    (hc : message.Continued) (h : textLine created r = .ok t) : t.Continued := by
  obtain ⟨time, m, htime, hm, rfl⟩ := textLine_eq hr h
  rw [hmessage] at hm
  cases hm
  exact (asciiLine_textLineFront htime hlogger).continued.append hc

/-- A line about a message without line feeds has none. -/
theorem textLine_no_lineFeed {created : Double} {r : Record} {t message : Text}
    (hlogger : r.logger.AsciiLine) (hr : r.raised = none) (hmessage : r.message = .ok message)
    (hfree : ('\n' : CodePoint) ∉ message) (h : textLine created r = .ok t) :
    ('\n' : CodePoint) ∉ t := by
  obtain ⟨time, m, htime, hm, rfl⟩ := textLine_eq hr h
  rw [hmessage] at hm
  cases hm
  rw [List.mem_append, not_or]
  exact ⟨(asciiLine_textLineFront htime hlogger).no_lineFeed, hfree⟩

/-! ## What a handler writes -/

theorem Handler.written_singleton (h : Handler) (s : Sink) (e : Stamped) :
    h.written s [e] =
      if s.isEnabled e.record.level then h.output e.time [] e.record else [] :=
  List.append_nil _

/-- What a handler writes for records is put together from what it writes for each. -/
theorem Handler.written_cons (h : Handler) (s : Sink) (e : Stamped) (es : List Stamped) :
    h.written s (e :: es) = h.written s [e] ++ h.written s es := by
  rw [written_singleton]
  rfl

/-- A code point that is written belongs to what is written for one of the records. -/
theorem Handler.written_split {h : Handler} {s : Sink} {es : List Stamped} {before after : Text}
    {x : CodePoint} (hsplit : h.written s es = before ++ x :: after) :
    ∃ earlier e later start rest, es = earlier ++ e :: later ∧
      h.written s [e] = start ++ x :: rest ∧ before = h.written s earlier ++ start ∧
      after = rest ++ h.written s later := by
  induction es generalizing before with
  | nil => exact absurd hsplit.symm (by simp [written])
  | cons e es ih =>
      rw [written_cons] at hsplit
      rcases List.append_eq_append_iff.mp hsplit with
        ⟨between, rfl, hrest⟩ | ⟨tail, hfirst, hafter⟩
      · obtain ⟨earlier, e', later, start, rest, rfl, he', rfl, hlater⟩ := ih hrest
        refine ⟨e :: earlier, e', later, start, rest, rfl, he', ?_, hlater⟩
        rw [written_cons h s e earlier, List.append_assoc]
      · cases tail with
        | nil =>
            -- the first record is written before the code point, which is in the next
            have hrest : h.written s es = [] ++ x :: after := hafter.symm
            obtain ⟨earlier, e', later, start, rest, rfl, he', hstart, hlater⟩ := ih hrest
            refine ⟨e :: earlier, e', later, start, rest, rfl, he', ?_, hlater⟩
            rw [written_cons h s e earlier, List.append_assoc, ← hstart, List.append_nil,
              hfirst, List.append_nil]
        | cons y tail =>
            obtain ⟨rfl, rfl⟩ := List.cons.inj hafter
            exact ⟨[], e, es, before, tail, rfl, hfirst, rfl, rfl⟩

/-- What is written for one record is its line, if anything. -/
theorem Handler.written_singleton_cases (h : Handler) (s : Sink) (e : Stamped) :
    h.written s [e] = [] ∨ ∃ t, h.style.line e.time [] e.record = .ok t ∧
      h.written s [e] = t ++ [('\n' : CodePoint)] := by
  rw [written_singleton]
  by_cases henabled : s.isEnabled e.record.level = true
  · rw [if_pos henabled]
    unfold output
    by_cases hlevel : h.level ≤ e.record.level
    · rw [if_pos hlevel]
      cases hline : h.style.line e.time [] e.record with
      | error f => exact .inl rfl
      | ok t =>
          dsimp only
          by_cases htakes : h.target.takes t = true
          · rw [if_pos htakes]
            exact .inr ⟨t, rfl, rfl⟩
          · rw [if_neg htakes]
            exact .inl rfl
    · rw [if_neg hlevel]
      exact .inl rfl
  · rw [if_neg henabled]
    exact .inl rfl

/-- A line feed that is written for a record ends its line, or stands in it. -/
theorem Handler.written_lineFeed {h : Handler} {s : Sink} {e : Stamped} {start rest : Text}
    (hsplit : h.written s [e] = start ++ ('\n' : CodePoint) :: rest) :
    rest = [] ∨ ∃ t within, h.style.line e.time [] e.record = .ok t ∧
      t = start ++ ('\n' : CodePoint) :: within ∧ rest = within ++ [('\n' : CodePoint)] := by
  rcases h.written_singleton_cases s e with hnone | ⟨t, hline, ht⟩
  · rw [hnone] at hsplit
    exact absurd hsplit.symm (by simp)
  · rw [ht] at hsplit
    rcases List.append_eq_append_iff.mp hsplit with ⟨between, -, hend⟩ | ⟨tail, hstart, hend⟩
    · cases between with
      | nil => exact .inl (List.cons.inj hend).2.symm
      | cons c between => exact absurd (List.cons.inj hend).2.symm (by simp)
    · cases tail with
      | nil => exact .inl (List.cons.inj hend).2
      | cons c within =>
          obtain ⟨rfl, hrest⟩ := List.cons.inj hend
          exact .inr ⟨t, within, hline, hstart, hrest⟩

end Log

end JsonTap
