import JsonTap.Proofs.Web.Trace
import Mathlib.Data.List.Forall2
import Mathlib.Data.List.Perm.Basic

/-!
# Connections do not see each other

In whatever order the events of several connections come, each connection shows what it shows when
its events come alone, at whatever times: the same records, the same additions to the counts, and
replies that differ at most in the time of a document. So runs in which every connection has the
same events end with the same counts (`each_connection_as_if_alone`).

The counts are the one thing that all connections share. They are determined by the outcomes of the
run in any order, and the outcomes on a connection are determined by its events.
-/

namespace JsonTap.Web

open Metrics

/-! ## Footprints up to the time -/

/-- Footprints that differ at most in the times of documents. -/
structure Footprint.SameButTime (f g : Footprint) : Prop where
  records : f.records = g.records
  replies : List.Forall₂ Reply.SameButTime f.replies g.replies
  increments : f.increments = g.increments

/-- Footprints that are the same but for times stay so when they are put together. -/
theorem Footprint.SameButTime.append {f f' g g' : Footprint} (h : f.SameButTime f')
    (hg : g.SameButTime g') : (f.append g).SameButTime (f'.append g') :=
  ⟨congrArg₂ (· ++ ·) h.records hg.records, List.rel_append h.replies hg.replies,
    congrArg₂ (· ++ ·) h.increments hg.increments⟩

/-- The answer to an event depends on the time only as a reply may. -/
theorem turn_answer (cap : Int) (x : Option Exchange) (e : Event) :
    ∀ f, (turn cap x e).answer = some f → ∀ s t, (f s).SameButTime (f t) := by
  intro f hf s t
  unfold turn at hf
  cases e with
  | request r =>
      dsimp only at hf
      split at hf
      · cases hf; exact .same _
      · cases hf; exact .same _
      · split at hf
        · cases hf; exact .same _
        · cases hf
  | message m =>
      dsimp only at hf
      split at hf
      · cases hf
      · split at hf
        · cases hf
        · next e _ o _ =>
            cases hf
            exact o.reply_sameButTime e.request s t

/-- The time of a turn shows in the time of its reply alone. -/
theorem turn_footprint (cap : Int) (x : Option Exchange) (e : Event) (s t : Int) :
    ((turn cap x e).footprint s).SameButTime ((turn cap x e).footprint t) := by
  refine ⟨rfl, ?_, rfl⟩
  have h := turn_answer cap x e
  rw [Turn.footprint, Turn.footprint]
  cases ha : (turn cap x e).answer with
  | none => exact .nil
  | some f => exact .cons (h f ha s t) .nil

/-- The moments of one connection show the same at other times. -/
theorem alone_sameButTime (cap : Int) (x : Option Exchange) {ms ns : List Moment}
    (h : ms.map (·.event) = ns.map (·.event)) :
    (alone cap x ms).SameButTime (alone cap x ns) := by
  induction ms generalizing x ns with
  | nil =>
      rw [List.map_nil, eq_comm, List.map_eq_nil_iff] at h
      subst h
      exact ⟨rfl, .nil, rfl⟩
  | cons m ms ih =>
      cases ns with
      | nil => cases h
      | cons n ns =>
          have hevent : m.event = n.event := (List.cons.inj h).1
          have hrest := (List.cons.inj h).2
          rw [alone, alone, ← hevent]
          exact (turn_footprint cap x m.event m.now n.now).append (ih _ hrest)

/-! ## Outcomes of a run -/

def App.outcomes (a : App) : List Moment → List (Connection × Outcome)
  | [] => []
  | m :: ms =>
    ((turn a.cap (a.exchange? m.connection) m.event).outcome.map (m.connection, ·)).toList ++
      (a.next m).outcomes ms

def outcomesAlone (cap : Int) (x : Option Exchange) : List Event → List Outcome
  | [] => []
  | e :: es => (turn cap x e).outcome.toList ++ outcomesAlone cap (turn cap x e).waiting es

/-- The outcomes of a connection are those that it has by itself. -/
theorem App.outcomes_filter (a : App) (c : Connection) (run : List Moment) :
    (a.outcomes run).filter (·.1 = c) =
      (outcomesAlone a.cap (a.exchange? c) (script c run)).map (c, ·) := by
  induction run generalizing a with
  | nil => rfl
  | cons m ms ih =>
      have hturn := a.next_takesTurn m
      rw [outcomes, List.filter_append, ih (a.next m), hturn.cap, script, script]
      by_cases hc : m.connection = c
      · subst hc
        rw [List.filter_cons_of_pos (by simp), List.map_cons, outcomesAlone, List.map_append,
          hturn.here]
        cases (turn a.cap (a.exchange? m.connection) m.event).outcome <;> simp
      · rw [List.filter_cons_of_neg (by simp [hc]), hturn.elsewhere c (Ne.symm hc)]
        cases (turn a.cap (a.exchange? m.connection) m.event).outcome <;> simp [hc]

/-- The counts after a run are the outcomes of the run, counted one after the other. -/
theorem App.tally_after (a : App) (run : List Moment) :
    (a.after run).tally = (a.outcomes run).foldl (fun t o => o.2.count t) a.tally := by
  induction run generalizing a with
  | nil => rfl
  | cons m ms ih =>
      have hturn := a.next_takesTurn m
      show ((a.next m).after ms).tally = _
      rw [ih (a.next m), hturn.tally, outcomes, List.foldl_append]
      cases (turn a.cap (a.exchange? m.connection) m.event).outcome <;> rfl

/-- Lists of things on connections that agree on every connection are the same but for the order. -/
theorem perm_of_filter_eq {β : Type} {xs ys : List (Connection × β)}
    (h : ∀ c, xs.filter (·.1 = c) = ys.filter (·.1 = c)) : xs.Perm ys := by
  classical
  rw [List.perm_iff_count]
  intro x
  have hcount : ∀ zs : List (Connection × β), (zs.filter (·.1 = x.1)).count x = zs.count x :=
    fun zs => List.count_filter (by simp)
  rw [← hcount xs, ← hcount ys, h x.1]

/-- The order of outcomes does not matter for what is counted. -/
theorem foldl_count_perm {xs ys : List (Connection × Outcome)} (h : xs.Perm ys) (t : Tally) :
    xs.foldl (fun t o => o.2.count t) t = ys.foldl (fun t o => o.2.count t) t := by
  have : RightCommutative fun (t : Tally) (o : Connection × Outcome) => o.2.count t :=
    ⟨fun t o p => Outcome.count_comm t o.2 p.2⟩
  exact h.foldl_eq t

/-- Each connection shows what it shows when its events come alone, at whatever times, and runs in
which every connection has the same events end with the same counts. -/
theorem App.each_connection_as_if_alone (cap : Int) (run : List Moment) :
    (∀ c solo, (∀ m ∈ solo, m.connection = c) → solo.map (·.event) = script c run →
      ((create cap).footprint c run).SameButTime ((create cap).footprint c solo)) ∧
    ∀ other, (∀ c, script c other = script c run) →
      ((create cap).after other).tally = ((create cap).after run).tally := by
  have hbounds := hasBounds_create cap
  constructor
  · -- a run on one connection is its own filtered run
    intro c solo hsolo hscript
    have hfilter : solo.filter (·.connection = c) = solo := by
      apply List.filter_eq_self.mpr
      intro m hm
      exact decide_eq_true (hsolo m hm)
    rw [footprint_eq_alone _ hbounds, footprint_eq_alone _ hbounds, hfilter]
    exact alone_sameButTime _ _ hscript.symm
  · intro other hother
    -- the outcomes are the same but for their order, in which they do not matter
    rw [tally_after, tally_after]
    refine foldl_count_perm (perm_of_filter_eq fun c => ?_) _
    rw [outcomes_filter, outcomes_filter, hother c]

/-- Two clients that are fed in turn, the first of them alone and later, and one after the other. -/
theorem App.each_connection_as_if_alone_two_clients :
    ((create 8).footprint 1 twoClients).SameButTime ((create 8).footprint 1
      [⟨5, 1, .request letterRequest⟩, ⟨6, 1, .message (.chunk (Utf8.encode "1") true)⟩,
        ⟨7, 1, .message (.chunk (Utf8.encode "2") false)⟩]) ∧
    ((create 8).after [⟨0, 2, .request letterRequest⟩, ⟨1, 2, .message .disconnect⟩,
      ⟨5, 1, .request letterRequest⟩, ⟨6, 1, .message (.chunk (Utf8.encode "1") true)⟩,
      ⟨7, 1, .message (.chunk (Utf8.encode "2") false)⟩]).tally =
        ((create 8).after twoClients).tally := by
  obtain ⟨halone, htally⟩ := each_connection_as_if_alone 8 twoClients
  refine ⟨halone 1 _ (by simp) rfl, htally _ fun c => ?_⟩
  by_cases h1 : c = 1
  · subst h1
    rfl
  · by_cases h2 : c = 2
    · subst h2
      rfl
    · simp [script, twoClients, Ne.symm h1, Ne.symm h2]

end JsonTap.Web
