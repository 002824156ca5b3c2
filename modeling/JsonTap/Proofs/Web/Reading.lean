import JsonTap.Proofs.Web.Body
import JsonTap.Web.Exchange
import Mathlib.Data.List.Induction

/-!
# How reading a body ends

Reading a body ends with the first message that says that the client is gone, that brings the octets
above the cap, or that says that no more follow (`Ends`). What comes of it is told by this message
and those before it (`EndsWith`), and the messages after it are left (`readBody_at_first_end`). What
is kept of a body while it is read never exceeds the cap.

`Gathering.Keeps` is the invariant: the reader holds the payloads of the messages so far, and their
count is not above the cap.
-/

namespace JsonTap.Web

/-! ## Messages that end a body -/

def Message.octets : Message → List Octet
  | .chunk octets _ => octets
  | .disconnect => []

def arrived (ms : List Message) : Nat := (ms.flatMap (·.octets)).length

/-- The payloads of some messages in their order, but for empty ones. -/
def payloads (ms : List Message) : List (List Octet) := (ms.map (·.octets)).filter (!·.isEmpty)

/-- There is a cap, and the octets of some messages are above it. -/
def Over (cap : Int) (ms : List Message) : Prop := 0 < cap ∧ cap < (arrived ms : Int)

instance (cap : Int) (ms : List Message) : Decidable (Over cap ms) :=
  inferInstanceAs (Decidable (_ ∧ _))

/-- After the messages `before` a message ends the body: the client is gone, the octets are above
the cap now, or no more follow. -/
def Ends (cap : Int) (before : List Message) (m : Message) : Prop :=
  m = .disconnect ∨ Over cap (before ++ [m]) ∨ ∃ octets, m = .chunk octets false

/-- The message `m` is the first of `ms` that ends the body. -/
structure FirstEnd (cap : Int) (ms before : List Message) (m : Message) (after : List Message) :
    Prop where
  split : ms = before ++ m :: after
  ends : Ends cap before m
  first : ∀ earlier x later, before = earlier ++ x :: later → ¬ Ends cap earlier x

/-- What comes of a body that a message ends. One above the cap is refused, with the last message
too; otherwise it is whole if no more follow. -/
inductive EndsWith (cap : Int) (before : List Message) : Message → BodyEnd → Prop
  | gone : EndsWith cap before .disconnect .disconnected
  | tooLarge {octets : List Octet} {more : Bool} : Over cap (before ++ [.chunk octets more]) →
      EndsWith cap before (.chunk octets more)
        (.tooLarge (arrived (before ++ [.chunk octets more])))
  | whole {octets : List Octet} : ¬ Over cap (before ++ [.chunk octets false]) →
      EndsWith cap before (.chunk octets false)
        (.whole ⟨payloads (before ++ [.chunk octets false]),
          arrived (before ++ [.chunk octets false])⟩)

/-- A further message adds the octets that it carries. -/
theorem arrived_concat (ms : List Message) (m : Message) :
    arrived (ms ++ [m]) = arrived ms + m.octets.length := by
  simp [arrived]

/-- A further message adds its octets as one piece, unless it carries none. -/
theorem payloads_concat (ms : List Message) (m : Message) :
    payloads (ms ++ [m]) = payloads ms ++ if m.octets.isEmpty then [] else [m.octets] := by
  rw [payloads, List.map_append, List.filter_append]
  cases h : m.octets.isEmpty <;> simp [payloads, h]

/-- The payloads hold all octets that the messages bring. -/
theorem length_payloads (ms : List Message) : (payloads ms).flatten.length = arrived ms := by
  induction ms using List.reverseRecOn with
  | nil => rfl
  | append_singleton ms m ih =>
    rw [payloads_concat, arrived_concat, List.flatten_append, List.length_append, ih]
    cases m.octets <;> simp

/-! ## One message -/

/-- The reader holds what the messages so far have brought, and this is not above the cap. -/
structure Gathering.Keeps (g : Gathering) (cap : Int) (ms : List Message) : Prop where
  chunks : g.chunks = payloads ms
  received : g.received = arrived ms
  within : ¬ Over cap ms

theorem keeps_empty {cap : Int} : Gathering.empty.Keeps cap [] := by
  refine ⟨rfl, rfl, ?_⟩
  rintro ⟨hpos, hless⟩
  exact absurd hless (Int.not_lt.mpr (Int.le_of_lt hpos))

/-- Gathering the octets of a message keeps what came in step with the messages. -/
theorem Gathering.Keeps.add {g : Gathering} {cap : Int} {ms : List Message} (h : g.Keeps cap ms)
    (octets : List Octet) (more : Bool) :
    (g.add octets).chunks = payloads (ms ++ [.chunk octets more]) ∧
      (g.add octets).received = arrived (ms ++ [.chunk octets more]) := by
  rw [payloads_concat, arrived_concat, ← h.chunks, ← h.received]
  cases octets with
  | nil => exact ⟨(List.append_nil _).symm, rfl⟩
  | cons b bs => exact ⟨rfl, rfl⟩

/-- A message ends the body, or the reader holds what it has brought too. -/
theorem Gathering.Keeps.receive {g : Gathering} {cap : Int} {before : List Message} (hcap : 0 ≤ cap)
    (h : g.Keeps cap before) (m : Message) :
    (∃ e, EndsWith cap before m e ∧ g.receive cap m = .inr e) ∨
      ¬ Ends cap before m ∧ ∃ g', g'.Keeps cap (before ++ [m]) ∧ g.receive cap m = .inl g' := by
  cases m with
  | disconnect => exact .inl ⟨_, .gone, rfl⟩
  | chunk octets more =>
    obtain ⟨hchunks, hreceived⟩ := h.add octets more
    -- an empty chunk cannot bring the octets above the cap
    have hover : (!octets.isEmpty && exceeds cap (g.add octets).received) = true ↔
        Over cap (before ++ [.chunk octets more]) := by
      rw [Bool.and_eq_true, exceeds_iff, hreceived]
      cases octets with
      | nil =>
        refine iff_of_false (fun hfalse => Bool.false_ne_true hfalse.1) ?_
        rintro ⟨hpos, hless⟩
        rw [arrived_concat] at hless
        exact h.within ⟨hpos, hless⟩
      | cons b bs =>
        have hsome : (!(b :: bs).isEmpty) = true := rfl
        rw [and_iff_right hsome, Over]
        omega
    rw [Gathering.receive]
    by_cases htoo : Over cap (before ++ [.chunk octets more])
    · refine .inl ⟨_, .tooLarge htoo, ?_⟩
      rw [if_pos (hover.mpr htoo), hreceived]
    rw [if_neg (mt hover.mp htoo)]
    cases more with
    | false =>
      refine .inl ⟨_, .whole htoo, ?_⟩
      rw [← hchunks, ← hreceived]
      rfl
    | true =>
      refine .inr ⟨?_, _, ⟨hchunks, hreceived, htoo⟩, rfl⟩
      rintro (hgone | hends | ⟨octets, hlast⟩)
      · cases hgone
      · exact htoo hends
      · cases hlast

/-- A message with which a body ends ends it. -/
theorem EndsWith.ends {cap : Int} {before : List Message} {m : Message} {e : BodyEnd}
    (h : EndsWith cap before m e) : Ends cap before m := by
  cases h with
  | gone => exact .inl rfl
  | tooLarge htoo => exact .inr (.inl htoo)
  | whole => exact .inr (.inr ⟨_, rfl⟩)

/-! ## Many messages -/

/-- Messages that do not end the body are read, and what they have brought is held. -/
theorem Gathering.Keeps.readAll {g : Gathering} {cap : Int} {before ms : List Message}
    (hcap : 0 ≤ cap) (h : g.Keeps cap before)
    (hms : ∀ earlier x later, ms = earlier ++ x :: later → ¬ Ends cap (before ++ earlier) x) :
    ∃ g', g.readAll cap ms = .inl g' := by
  induction ms generalizing g before with
  | nil => exact ⟨g, rfl⟩
  | cons m ms ih =>
    rw [Gathering.readAll]
    rcases h.receive hcap m with ⟨e, he, -⟩ | ⟨-, g₁, hg₁, hm⟩
    · have hnot := hms [] m ms rfl
      rw [List.append_nil] at hnot
      exact absurd he.ends hnot
    · rw [hm]
      apply ih hg₁
      rintro earlier x later rfl
      have hnot := hms (m :: earlier) x later rfl
      rw [List.append_assoc]
      exact hnot

/-- What is held after some messages, as long as the body has not ended. -/
theorem Gathering.Keeps.of_readAll {g g' : Gathering} {cap : Int} {before ms : List Message}
    (hcap : 0 ≤ cap) (h : g.Keeps cap before) (hread : g.readAll cap ms = .inl g') :
    g'.Keeps cap (before ++ ms) := by
  induction ms generalizing g before with
  | nil =>
    cases hread
    rw [List.append_nil]
    exact h
  | cons m ms ih =>
    rw [Gathering.readAll] at hread
    rcases h.receive hcap m with ⟨e, -, hm⟩ | ⟨-, g₁, hg₁, hm⟩
    · rw [hm] at hread
      cases hread
    · rw [hm] at hread
      have hkeeps := ih hg₁ hread
      rw [List.append_assoc, List.singleton_append] at hkeeps
      exact hkeeps

/-- Reading goes on where the messages that do not end a body leave it. -/
theorem readBodyFrom_append {cap : Int} {g g' : Gathering} {ms : List Message}
    (h : g.readAll cap ms = .inl g') (later : List Message) :
    readBodyFrom cap g (ms ++ later) = readBodyFrom cap g' later := by
  induction ms generalizing g with
  | nil =>
    cases h
    rfl
  | cons m ms ih =>
    rw [List.cons_append, readBodyFrom]
    rw [Gathering.readAll] at h
    cases hm : g.receive cap m with
    | inl g₁ =>
      rw [hm] at h
      exact ih h
    | inr e =>
      rw [hm] at h
      cases h

/-! ## Whole bodies -/

/-- The first message that ends the body is the last one that is read. -/
theorem FirstEnd.readBody {cap : Int} {ms before after : List Message} {m : Message}
    (h : FirstEnd cap ms before m after) (hcap : 0 ≤ cap) :
    ∃ e, EndsWith cap before m e ∧ readBody cap ms = (e, after) := by
  obtain ⟨rfl, hends, hfirst⟩ := h
  obtain ⟨g, hread⟩ := keeps_empty.readAll hcap hfirst
  have hkeeps := keeps_empty.of_readAll hcap hread
  rw [Web.readBody, readBodyFrom_append hread]
  rcases hkeeps.receive hcap m with ⟨e, he, hm⟩ | ⟨hnot, -⟩
  · refine ⟨e, he, ?_⟩
    rw [readBodyFrom, hm]
  · exact absurd hends hnot

/-- If some message ends the body, there is a first one. -/
theorem exists_firstEnd {cap : Int} {earlier later : List Message} {x : Message}
    (h : Ends cap earlier x) :
    ∃ before m after, FirstEnd cap (earlier ++ x :: later) before m after := by
  induction hn : earlier.length using Nat.strongRecOn generalizing earlier later x with
  | ind n ih =>
    by_cases hfirst : ∃ before m after, earlier = before ++ m :: after ∧ Ends cap before m
    · obtain ⟨before, m, after, rfl, hends⟩ := hfirst
      rw [List.append_assoc, List.cons_append]
      refine ih before.length ?_ hends rfl
      rw [← hn, List.length_append, List.length_cons]
      omega
    · refine ⟨earlier, x, later, rfl, h, ?_⟩
      intro before m after hsplit hends
      exact hfirst ⟨before, m, after, hsplit, hends⟩

/-- Where no message ends the body, all are read. -/
theorem readBody_of_none {cap : Int} {ms : List Message} (hcap : 0 ≤ cap)
    (h : ¬ ∃ before m after, FirstEnd cap ms before m after) :
    readBody cap ms = (.disconnected, []) := by
  have hnone : ∀ earlier x later, ms = earlier ++ x :: later → ¬ Ends cap ([] ++ earlier) x := by
    rintro earlier x later rfl hends
    exact h (exists_firstEnd hends)
  obtain ⟨g, hread⟩ := keeps_empty.readAll hcap hnone
  have hall := readBodyFrom_append hread []
  rw [List.append_nil] at hall
  exact hall

/-- Payloads that are not above the cap are as many octets as it allows. -/
theorem length_le_of_not_over {cap : Int} {ms : List Message} (h : ¬ Over cap ms)
    (hpos : 0 < cap) : ((payloads ms).flatten.length : Int) ≤ cap := by
  rw [length_payloads]
  by_contra hless
  exact h ⟨hpos, Int.not_le.mp hless⟩

/-- **How reading ends.** The first message that ends the body is the last one that is read, and it
and the messages before it tell the result. If no message ends the body, all are read, and the
client is gone. A fault about the size carries the cap and the count of the octets that had come. As
long as messages are read, what is kept is not above the cap, and neither is a whole body. -/
theorem readBody_at_first_end (cap : Int) (hcap : 0 ≤ cap) (ms : List Message) :
    (∀ before m after, FirstEnd cap ms before m after →
      ∃ e, EndsWith cap before m e ∧ readBody cap ms = (e, after)) ∧
      ((¬ ∃ before m after, FirstEnd cap ms before m after) →
        readBody cap ms = (.disconnected, [])) ∧
      (∀ received, (readBody cap ms).1 = .tooLarge received →
        ∃ f, Exchange.conclude cap (readBody cap ms).1 = .tooLarge f ∧ f.kind = .bodyTooLarge ∧
          f.details = ([("max_body_size", .int cap), ("received", .int received)] : Fields)) ∧
      (∀ earlier later g, ms = earlier ++ later → Gathering.empty.readAll cap earlier = .inl g →
        readBody cap ms = readBodyFrom cap g later ∧
          (0 < cap → (g.chunks.flatten.length : Int) ≤ cap)) ∧
      ∀ g, (readBody cap ms).1 = .whole g → 0 < cap → (g.chunks.flatten.length : Int) ≤ cap := by
  refine ⟨?_, readBody_of_none hcap, ?_, ?_, ?_⟩
  · intro before m after hfirst
    exact hfirst.readBody hcap
  · intro received hlarge
    rw [hlarge]
    exact ⟨_, rfl, rfl, rfl⟩
  · rintro earlier later g rfl hread
    have hkeeps := keeps_empty.of_readAll hcap hread
    refine ⟨readBodyFrom_append hread later, ?_⟩
    rw [hkeeps.chunks]
    exact length_le_of_not_over hkeeps.within
  · intro g hwhole
    -- a whole body was ended by a message that does not bring it above the cap
    by_cases hends : ∃ before m after, FirstEnd cap ms before m after
    · obtain ⟨before, m, after, hfirst⟩ := hends
      obtain ⟨e, he, hread⟩ := hfirst.readBody hcap
      rw [hread] at hwhole
      dsimp only at hwhole
      subst hwhole
      cases he with
      | whole hwithin => exact length_le_of_not_over hwithin
    · rw [readBody_of_none hcap hends] at hwhole
      cases hwhole

/-- A body that is brought above the cap by its last chunk, with an empty one before. -/
theorem readBody_at_first_end_last_chunk :
    FirstEnd 4 [.chunk [1, 2] true, .chunk [] true, .chunk [3, 4, 5] false, .chunk [6] true]
        [.chunk [1, 2] true, .chunk [] true] (.chunk [3, 4, 5] false) [.chunk [6] true] ∧
      readBody 4 [.chunk [1, 2] true, .chunk [] true, .chunk [3, 4, 5] false, .chunk [6] true] =
        (.tooLarge 5, [.chunk [6] true]) := by
  have hover : Over 4 [.chunk [1, 2] true, .chunk [] true, .chunk [3, 4, 5] false] := by decide
  have hgoesOn : ∀ before octets, ¬ Over 4 (before ++ [.chunk octets true]) →
      ¬ Ends 4 before (.chunk octets true) := by
    rintro before octets hnot (h | h | ⟨last, h⟩)
    · cases h
    · exact hnot h
    · cases h
  have hfirst : FirstEnd 4
      [.chunk [1, 2] true, .chunk [] true, .chunk [3, 4, 5] false, .chunk [6] true]
      [.chunk [1, 2] true, .chunk [] true] (.chunk [3, 4, 5] false) [.chunk [6] true] := by
    refine ⟨rfl, .inr (.inl hover), ?_⟩
    -- there are two messages before, and neither ends the body
    intro earlier x later hsplit
    obtain _ | ⟨y, earlier⟩ := earlier
    · cases hsplit
      exact hgoesOn _ _ (by decide)
    obtain _ | ⟨z, earlier⟩ := earlier
    · cases hsplit
      exact hgoesOn _ _ (by decide)
    · simp at hsplit
  refine ⟨hfirst, ?_⟩
  obtain ⟨e, he, hread⟩ := (readBody_at_first_end 4 (by decide) _).1 _ _ _ hfirst
  rw [hread]
  cases he with
  | tooLarge => rfl
  | whole hnot => exact absurd hover hnot

end JsonTap.Web
