import JsonTap.Proofs.Json.Encodable
import JsonTap.Proofs.Log.Timestamp
import JsonTap.Proofs.Metrics.Growth
import JsonTap.Web.Exchange

/-!
# Outcomes

What an outcome counts does not depend on what was counted before (`Outcome.since_count`), and two
outcomes are counted alike in either order (`Outcome.count_comm`). Its reply depends on the time
only through the timestamp of the document about a fault (`Outcome.reply_sameButTime`).
-/

namespace JsonTap.Web

open Utf8

namespace Outcome

open Metrics

/-! ## Counts -/

/-- Counting keeps the bounds of the sizes. -/
theorem count_hasBounds {t : Tally} (ht : t.bodySizes.HasBounds) (o : Outcome) :
    (o.count t).bodySizes.HasBounds := by
  cases o with
  | ok size v => exact ht.observe size
  | malformed size f => exact ht.observe size
  | tooLarge f => exact ht
  | disconnected => exact ht

/-- An outcome adds what it counts from nothing. -/
theorem since_count {t : Tally} (ht : t.bodySizes.HasBounds) (o : Outcome) :
    t.since (o.count t) = o.count .zero := by
  cases o with
  | ok size v =>
      simp [count, Tally.since, Tally.addBody, Tally.zero, SizeHistogram.since_observe ht]
  | malformed size f =>
      simp [count, Tally.since, Tally.addBody, Tally.zero, SizeHistogram.since_observe ht]
  | tooLarge f => simp [count, Tally.since, Tally.zero, SizeHistogram.since_self ht]
  | disconnected => simp [count, Tally.since, Tally.zero, SizeHistogram.since_self ht]

/-- Every outcome counts. -/
theorem count_zero_ne_zero (o : Outcome) : o.count .zero ≠ .zero := by
  cases o <;> simp [count, Tally.zero, Tally.addBody]

/-- The order in which outcomes are counted does not matter. -/
theorem count_comm (t : Tally) (o p : Outcome) : p.count (o.count t) = o.count (p.count t) := by
  cases o <;> cases p <;>
    simp [count, Tally.addBody, SizeHistogram.observe_comm, Nat.add_right_comm]

/-! ## Replies -/

theorem encodable_faultMessage (f : Timestamp.Fault) : Utf8.Encodable f.message := by
  cases f with
  | year y =>
      exact encodable_append.mpr
        ⟨encodable_append.mpr ⟨encodable_ofString _, encodable_ofInt y⟩, encodable_ofString _⟩
  | _ => exact encodable_ofString _

/-- The time of a document has no surrogates, whatever the clock shows. -/
theorem encodable_documentTime (now : Int) : Utf8.Encodable (documentTime now) := by
  rw [documentTime, Timestamp.zulu]
  cases h : Timestamp.dateTime (now.fdiv 1000000) (now.fmod 1000000).toNat with
  | error f => exact encodable_faultMessage f
  | ok t => exact encodable_append.mpr ⟨Timestamp.encodable_dateTime h, encodable_ofString _⟩

/-- The document about a fault holds its time in one place. -/
theorem compact_faultDocument (f : Fault) (path : Text) :
    ∃ a b, ∀ now, (faultDocument f now path).compact =
      a ++ ((documentTime now).flatMap (Json.escape false) ++ b) := by
  obtain ⟨a, b, h⟩ := Json.render_obj_str .compact 0 ("error", .str f.kind.code)
    [("message", .str f.message), ("details", (Datum.map f.details).toJson)] [("path", .str path)]
    "timestamp"
  exact ⟨a, b, fun now => h (documentTime now)⟩

end Outcome

/-- Replies that differ at most in the time of a document. Where in a document the surrogates stand
for which it cannot be sent depends on the time too, but the reply is an internal error then. -/
inductive Reply.SameButTime : Reply → Reply → Prop
  | same (r : Reply) : SameButTime r r
  | document (f : Fault) (path : Text) (s t : Int) :
      SameButTime
        (.sent (.ofBody f.kind.status "application/json" (faultDocument f s path).compact))
        (.sent (.ofBody f.kind.status "application/json" (faultDocument f t path).compact))
  | unencodable (u v : Utf8.Unencodable) :
      SameButTime (.failed (.unencodable u)) (.failed (.unencodable v))

/-- Replies to the same fault at different times differ in their times alone. -/
theorem faultReply_sameButTime (r : Request) (f : Fault) (s t : Int) :
    (faultReply r f s).SameButTime (faultReply r f t) := by
  rw [faultReply, faultReply]
  cases r.urlPath with
  | error u => exact .same _
  | ok path =>
      obtain ⟨a, b, hcompact⟩ := Outcome.compact_faultDocument f path
      -- what stands around the time decides alone whether the document can be sent
      have hnone : ∀ now, Utf8.unencodable? (faultDocument f now path).compact = none ↔
          Utf8.Encodable a ∧ Utf8.Encodable b := by
        intro now
        rw [hcompact, unencodable?_eq_none_iff, encodable_append,
          encodable_append]
        have htime := Json.encodable_escape_iff.mpr (Outcome.encodable_documentTime now)
        simp only [htime, true_and]
      dsimp only
      cases hs : Utf8.unencodable? (faultDocument f s path).compact with
      | none =>
          rw [(hnone t).mpr ((hnone s).mp hs)]
          exact .document f path s t
      | some u =>
          cases ht : Utf8.unencodable? (faultDocument f t path).compact with
          | none => rw [(hnone s).mpr ((hnone t).mp ht)] at hs; cases hs
          | some v => exact .unencodable u v

theorem Outcome.reply_sameButTime (o : Outcome) (r : Request) (s t : Int) :
    (o.reply r s).SameButTime (o.reply r t) := by
  cases o with
  | ok size v => exact .same _
  | malformed size f => exact faultReply_sameButTime r f s t
  | tooLarge f => exact faultReply_sameButTime r f s t
  | disconnected => exact .same _

end JsonTap.Web
