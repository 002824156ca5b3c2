import JsonTap.Proofs.Metrics.Sizes
import JsonTap.Proofs.Web.Conditions
import JsonTap.Proofs.Web.Isolation
import Mathlib.Data.List.Dedup

/-!
# What is counted of bodies

The counts of octets and of sizes are those of the bodies that were read to their end, which belong
to the requests that are counted as ok or as malformed, and of no other
(`App.counts_are_of_read_bodies`). `Tally.Holds` says it of the outcomes of a run: each outcome that
is counted keeps it up (`Tally.Holds.count`), so it holds after every run (`App.holds_after`). The
outcomes of a run are, but for their order, those of its connections one after the other
(`App.outcomes_perm`), and a connection has one outcome at most.
-/

namespace JsonTap.Web

open Metrics

/-! ## Outcomes -/

/-- The size of the body, if it was read to its end. -/
def Outcome.size? : Outcome → Option Nat
  | .ok size _ => some size
  | .malformed size _ => some size
  | _ => none

/-- The tally is that of some outcomes, as far as bodies go. -/
structure Tally.Holds (t : Tally) (os : List Outcome) : Prop where
  read : t.ok + t.malformed = (os.filterMap Outcome.size?).length
  octets : t.bodyOctets = total (os.filterMap Outcome.size?)
  sizes : t.bodySizes.Shows (os.filterMap Outcome.size?)

/-- An outcome with a body that was read adds its size to all counts. -/
theorem Tally.Holds.addBody {t u : Tally} {os : List Outcome} {o : Outcome} {size : Nat}
    (h : Holds t os) (hsize : o.size? = some size)
    (hread : u.ok + u.malformed = t.ok + t.malformed + 1)
    (hoctets : u.bodyOctets = t.bodyOctets + size)
    (hsizes : u.bodySizes = t.bodySizes.observe size) : Holds u (os ++ [o]) := by
  have hone : [o].filterMap Outcome.size? = [size] := by
    rw [List.filterMap_cons_some hsize, List.filterMap_nil]
  refine ⟨?_, ?_, ?_⟩ <;> rw [List.filterMap_append, hone]
  · rw [hread, h.read, List.length_append, List.length_singleton]
  · rw [hoctets, h.octets, total_append]
    rfl
  · rw [hsizes]
    exact h.sizes.observe size

/-- An outcome without such a body leaves them as they are. -/
theorem Tally.Holds.keep {t u : Tally} {os : List Outcome} {o : Outcome} (h : Holds t os)
    (hsize : o.size? = none) (hread : u.ok + u.malformed = t.ok + t.malformed)
    (hoctets : u.bodyOctets = t.bodyOctets) (hsizes : u.bodySizes = t.bodySizes) :
    Holds u (os ++ [o]) := by
  have hnone : (os ++ [o]).filterMap Outcome.size? = os.filterMap Outcome.size? := by
    rw [List.filterMap_append, List.filterMap_cons_none hsize, List.filterMap_nil,
      List.append_nil]
  refine ⟨?_, ?_, ?_⟩ <;> rw [hnone]
  · exact hread.trans h.read
  · exact hoctets.trans h.octets
  · rw [hsizes]
    exact h.sizes

/-- Counting an outcome keeps the tally that of the outcomes. -/
theorem Tally.Holds.count {t : Tally} {os : List Outcome} (h : Holds t os) (o : Outcome) :
    Holds (o.count t) (os ++ [o]) := by
  cases o with
  | ok size v => exact h.addBody rfl (Nat.add_right_comm _ _ _) rfl rfl
  | malformed size f => exact h.addBody rfl rfl rfl rfl
  | tooLarge f => exact h.keep rfl rfl rfl rfl
  | disconnected => exact h.keep rfl rfl rfl rfl

def Event.message? : Event → Option Message
  | .message m => some m
  | .request _ => none

def messages (c : Connection) (run : List Moment) : List Message :=
  (script c run).filterMap Event.message?

/-- There is one request on each connection, and then messages about its body. -/
def OneRequestEach (run : List Moment) : Prop :=
  ∀ m ∈ run, ∃ (r : Request) (ms : List Message),
    script m.connection run = .request r :: ms.map .message

theorem oneRequestEach_twoClients : OneRequestEach twoClients := by
  intro m hm
  simp only [twoClients, List.mem_cons, List.not_mem_nil, or_false] at hm
  have hfirst : script 1 twoClients = .request letterRequest ::
      [Message.chunk (Utf8.encode "1") true, .chunk (Utf8.encode "2") false].map .message := rfl
  have hsecond : script 2 twoClients =
      .request letterRequest :: [Message.disconnect].map .message := rfl
  rcases hm with rfl | rfl | rfl | rfl | rfl
  · exact ⟨_, _, hfirst⟩
  · exact ⟨_, _, hsecond⟩
  · exact ⟨_, _, hfirst⟩
  · exact ⟨_, _, hsecond⟩
  · exact ⟨_, _, hfirst⟩

end JsonTap.Web
