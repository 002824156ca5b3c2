import JsonTap.Proofs.Web.Outcome
import JsonTap.Proofs.Web.Turn

/-!
# Runs of the application

A run is a list of moments, each an event on a connection at a time, in any order of the
connections. `App.footprint` is what a run shows of one connection: the records of its steps, the
replies to it, and what its steps add to the counts. It is determined by the moments of that
connection (`footprint_eq_alone`), whatever happens on the others in between.
-/

namespace JsonTap.Web

open Metrics

/-- An event on a connection at a time. -/
structure Moment where
  now : Int
  connection : Connection
  event : Event

def script (c : Connection) (run : List Moment) : List Event :=
  (run.filter (·.connection = c)).map (·.event)

def letterRequest : Request := ⟨"POST", "/a", some (Utf8.encode "/a"), [], []⟩

/-- Two clients that are fed in turn. The first sends a number in two chunks, the second is gone
before the end of its body. -/
def twoClients : List Moment :=
  [⟨0, 1, .request letterRequest⟩, ⟨1, 2, .request letterRequest⟩,
    ⟨2, 1, .message (.chunk (Utf8.encode "1") true)⟩, ⟨3, 2, .message .disconnect⟩,
    ⟨4, 1, .message (.chunk (Utf8.encode "2") false)⟩]

structure Footprint where
  records : List Log.Record
  replies : List Reply
  /-- What was added to the counts, step by step where something was. -/
  increments : List Tally

namespace Footprint

def empty : Footprint := ⟨[], [], []⟩

def append (f g : Footprint) : Footprint :=
  ⟨f.records ++ g.records, f.replies ++ g.replies, f.increments ++ g.increments⟩

@[simp] theorem empty_append (f : Footprint) : empty.append f = f := rfl

@[simp] theorem append_empty (f : Footprint) : f.append empty = f := by
  simp [append, empty]

end Footprint

/-- What a step adds to the counts; none if it adds nothing. -/
def increment? (before after : Tally) : Option Tally :=
  if before.since after = .zero then none else some (before.since after)

namespace App

/-- The application after a moment. -/
def next (a : App) (m : Moment) : App := (a.step m.now m.connection m.event).1

/-- The application after a run. -/
def after (a : App) (run : List Moment) : App := run.foldl next a

/-- What a step shows of a connection. A reply is seen by the connection that it is sent to; records
and counts belong to the connection whose event is handled. -/
def stepFootprint (a : App) (c : Connection) (m : Moment) : Footprint :=
  let report := (a.step m.now m.connection m.event).2
  let mine := m.connection = c
  ⟨if mine then report.records else [], (report.replies.filter (·.1 = c)).map (·.2),
    if mine then (increment? a.tally (a.next m).tally).toList else []⟩

def footprint (a : App) (c : Connection) : List Moment → Footprint
  | [] => .empty
  | m :: ms => (a.stepFootprint c m).append ((a.next m).footprint c ms)

end App

/-! ## One connection alone -/

/-- What a turn shows of its connection. -/
def Turn.footprint (t : Turn) (now : Int) : Footprint :=
  ⟨t.records, (t.answer.map (· now)).toList, (t.outcome.map (·.count .zero)).toList⟩

/-- What the moments of one connection show of it, given only the exchange that awaits its body. -/
def alone (cap : Int) (x : Option Exchange) : List Moment → Footprint
  | [] => .empty
  | m :: ms => ((turn cap x m.event).footprint m.now).append
      (alone cap (turn cap x m.event).waiting ms)

namespace App

/-- Every event is a turn of its connection. -/
theorem next_takesTurn (a : App) (m : Moment) :
    a.TakesTurn (a.next m) m.connection (turn a.cap (a.exchange? m.connection) m.event) :=
  (a.step_turn m.now m.connection m.event).1

/-- A turn keeps the bounds of the sizes. -/
theorem TakesTurn.hasBounds {a b : App} {c : Connection} {t : Turn} (h : a.TakesTurn b c t)
    (ha : a.tally.bodySizes.HasBounds) : b.tally.bodySizes.HasBounds := by
  rw [h.tally]
  cases t.outcome with
  | none => exact ha
  | some o => exact o.count_hasBounds ha

/-- What a turn adds to the tally is told by its outcome. -/
theorem TakesTurn.increment? {a b : App} {c : Connection} {t : Turn} (h : a.TakesTurn b c t)
    (ha : a.tally.bodySizes.HasBounds) :
    increment? a.tally b.tally = t.outcome.map (·.count .zero) := by
  rw [h.tally, Web.increment?]
  cases t.outcome with
  | none => exact if_pos (Tally.since_self ha)
  | some o =>
      rw [Option.elim_some, Option.map_some, o.since_count ha, if_neg o.count_zero_ne_zero]

/-- A step shows of its connection what the turn shows, and nothing of any other. -/
theorem stepFootprint_eq (a : App) (ha : a.tally.bodySizes.HasBounds) (c : Connection)
    (m : Moment) :
    a.stepFootprint c m = if m.connection = c
      then (turn a.cap (a.exchange? c) m.event).footprint m.now else .empty := by
  have hturn := a.step_turn m.now m.connection m.event
  have hinc := (a.next_takesTurn m).increment? ha
  rw [stepFootprint, hturn.2]
  dsimp only
  by_cases hc : m.connection = c
  · subst hc
    rw [if_pos rfl, if_pos rfl, if_pos rfl, hinc, Turn.footprint]
    cases (turn a.cap (a.exchange? m.connection) m.event).answer <;> simp
  · rw [if_neg hc, if_neg hc, if_neg hc]
    cases (turn a.cap (a.exchange? m.connection) m.event).answer <;> simp [hc, Footprint.empty]

/-- What a run shows of a connection is what the moments of this connection show alone. -/
theorem footprint_eq_alone (a : App) (ha : a.tally.bodySizes.HasBounds) (c : Connection)
    (run : List Moment) :
    a.footprint c run = alone a.cap (a.exchange? c) (run.filter (·.connection = c)) := by
  induction run generalizing a with
  | nil => rfl
  | cons m ms ih =>
      have hturn := a.next_takesTurn m
      rw [footprint, stepFootprint_eq a ha, ih (a.next m) (hturn.hasBounds ha), hturn.cap]
      by_cases hc : m.connection = c
      · subst hc
        rw [if_pos rfl, List.filter_cons_of_pos (by simp), alone, hturn.here]
      · -- the moment is on another connection, whose turn leaves this one as it is
        rw [if_neg hc, List.filter_cons_of_neg (by simp [hc]),
          hturn.elsewhere c (Ne.symm hc), Footprint.empty_append]

theorem hasBounds_create (cap : Int) : (create cap).tally.bodySizes.HasBounds :=
  SizeHistogram.hasBounds_empty

end App

end JsonTap.Web
