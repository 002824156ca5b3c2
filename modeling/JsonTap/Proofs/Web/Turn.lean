import JsonTap.Web.App
import Mathlib.Data.List.Basic

/-!
# What one event does

A step of the application is the turn of one connection. `turn` says what an event does given only
the exchange that awaits its body there: the exchange that awaits it afterwards, the records, the
answer as a function of the time, and the outcome if the exchange ended. `step_turn` is everything
that a step does: it takes the turn, counts the outcome, and leaves the other connections alone.
-/

namespace JsonTap.Web

/-- What an event does on its connection. -/
structure Turn where
  /-- The exchange that awaits its body afterwards. -/
  waiting : Option Exchange
  records : List Log.Record
  /-- The answer, given the time. -/
  answer : Option (Int → Reply)
  /-- How an exchange ended, if it did. -/
  outcome : Option Outcome

namespace Turn

def answered (r : Reply) : Turn := ⟨none, [], some fun _ => r, none⟩

def opened (e : Exchange) : Turn :=
  ⟨some e, [Exchange.opening e.request.method e.target], none, none⟩

def quiet (x : Option Exchange) : Turn := ⟨x, [], none, none⟩

def ended (e : Exchange) (o : Outcome) : Turn :=
  ⟨none, o.records e, some (o.reply e.request), some o⟩

end Turn

/-- The turn of a connection on which an exchange may await its body. -/
def turn (cap : Int) (x : Option Exchange) : Event → Turn
  | .request r =>
    match Route.ofPath r.path with
    | .notFound => .answered (.sent .notFound)
    | .redirect path => .answered (redirectReply r path)
    | .exchange =>
      match Exchange.start r with
      | .error u => .answered (.failed (.undecodable u))
      | .ok e => .opened e
  | .message m =>
    match x with
    | none => .quiet none
    | some e =>
      match e.receive cap m with
      | .inl e => .quiet (some e)
      | .inr o => .ended e o

@[simp] theorem Exchange.awaiting_body (r : Request) (target : Text) :
    (awaiting r target).body = .empty := rfl

/-- An exchange begins with its request, and with nothing of its body. -/
theorem start_eq_ok_iff {r : Request} {e : Exchange} :
    Exchange.start r = .ok e ↔ ∃ target, r.target = .ok target ∧ e = .awaiting r target := by
  rw [Exchange.start]
  cases r.target with
  | error u => simp [bind, Except.bind]
  | ok target => simp [bind, Except.bind, eq_comm]

namespace App

/-! ## Exchanges on connections -/

theorem lookup_filter_self {β : Type} (c : Connection) (xs : List (Connection × β)) :
    (xs.filter (·.1 ≠ c)).lookup c = none := by
  rw [List.lookup_eq_none_iff]
  intro x hx
  have hne : x.1 ≠ c := of_decide_eq_true (List.mem_filter.mp hx).2
  exact bne_iff_ne.mpr hne.symm

theorem lookup_filter_of_ne {β : Type} {c d : Connection} (h : d ≠ c)
    (xs : List (Connection × β)) : (xs.filter (·.1 ≠ c)).lookup d = xs.lookup d := by
  induction xs with
  | nil => rfl
  | cons x xs ih =>
      obtain ⟨k, v⟩ := x
      by_cases hk : k = c
      · have hdk : (d == k) = false := by simp [hk, h]
        rw [List.filter_cons_of_neg (by simp [hk]), List.lookup_cons, hdk, ih]
      · rw [List.filter_cons_of_pos (by simp [hk]), List.lookup_cons, List.lookup_cons, ih]

@[simp] theorem exchange?_drop_self (a : App) (c : Connection) :
    (a.drop c).exchange? c = none := lookup_filter_self c a.waiting

/-- Dropping an exchange leaves those of other connections. -/
theorem exchange?_drop_of_ne {c d : Connection} (h : d ≠ c) (a : App) :
    (a.drop c).exchange? d = a.exchange? d := lookup_filter_of_ne h a.waiting

@[simp] theorem exchange?_set_self (a : App) (c : Connection) (e : Exchange) :
    (a.set c e).exchange? c = some e := List.lookup_cons_self

/-- Setting an exchange leaves those of other connections. -/
theorem exchange?_set_of_ne {c d : Connection} (h : d ≠ c) (a : App) (e : Exchange) :
    (a.set c e).exchange? d = a.exchange? d := by
  have hdc : (d == c) = false := beq_false_of_ne h
  show List.lookup d ((c, e) :: a.waiting.filter (·.1 ≠ c)) = a.waiting.lookup d
  rw [List.lookup_cons, hdc]
  exact lookup_filter_of_ne h a.waiting

/-! ## Steps -/

/-- The application `b` is `a` after a turn of a connection. -/
structure TakesTurn (a b : App) (c : Connection) (t : Turn) : Prop where
  cap : b.cap = a.cap
  here : b.exchange? c = t.waiting
  elsewhere : ∀ d, d ≠ c → b.exchange? d = a.exchange? d
  tally : b.tally = t.outcome.elim a.tally fun o => o.count a.tally

theorem drop_takesTurn (a : App) (c : Connection) (r : Reply) :
    a.TakesTurn (a.drop c) c (.answered r) :=
  ⟨rfl, exchange?_drop_self a c, fun _ h => exchange?_drop_of_ne h a, rfl⟩

theorem set_takesTurn (a : App) (c : Connection) (e : Exchange) (records : List Log.Record) :
    a.TakesTurn (a.set c e) c ⟨some e, records, none, none⟩ :=
  ⟨rfl, exchange?_set_self a c e, fun _ h => exchange?_set_of_ne h a e, rfl⟩

theorem finish_takesTurn (a : App) (now : Int) (c : Connection) (e : Exchange) (o : Outcome) :
    a.TakesTurn (a.finish now c e o).1 c (.ended e o) :=
  ⟨rfl, exchange?_drop_self a c, fun _ h => exchange?_drop_of_ne h a, rfl⟩

/-- A step is the turn of its connection. -/
theorem step_turn (a : App) (now : Int) (c : Connection) (e : Event) :
    a.TakesTurn (a.step now c e).1 c (turn a.cap (a.exchange? c) e) ∧
      (a.step now c e).2 = ⟨(turn a.cap (a.exchange? c) e).records,
        ((turn a.cap (a.exchange? c) e).answer.map fun f => (c, f now)).toList⟩ := by
  cases e with
  | request r =>
      show a.TakesTurn (a.accept c r).1 c _ ∧ (a.accept c r).2 = _
      unfold accept turn
      dsimp only
      cases Route.ofPath r.path with
      | notFound => exact ⟨drop_takesTurn a c _, rfl⟩
      | redirect path => exact ⟨drop_takesTurn a c _, rfl⟩
      | exchange =>
          dsimp only
          cases h : Exchange.start r with
          | error u => exact ⟨drop_takesTurn a c _, rfl⟩
          | ok e =>
              obtain ⟨target, -, rfl⟩ := start_eq_ok_iff.mp h
              exact ⟨set_takesTurn a c _ _, rfl⟩
  | message m =>
      show a.TakesTurn (a.receive now c m).1 c _ ∧ (a.receive now c m).2 = _
      unfold receive turn
      dsimp only
      cases hx : a.exchange? c with
      | none =>
          -- nobody awaits the message
          exact ⟨⟨rfl, hx, fun _ _ => rfl, rfl⟩, rfl⟩
      | some e =>
          dsimp only
          cases e.receive a.cap m with
          | inl e' => exact ⟨set_takesTurn a c e' _, rfl⟩
          | inr o => exact ⟨finish_takesTurn a now c e o, rfl⟩

end App

end JsonTap.Web
