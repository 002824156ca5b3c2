import JsonTap.Web.Body
import Mathlib.Data.List.Basic

/-!
# Reading a body

`Gathering.readAll` reads all messages that have come, and stays where it is once the body has ended
(`readAll_append`). A body that is read to its end is the octets of its chunks up to the last one
(`readAll_whole`), and their count is right.

`Delivers` tells the messages that bring a whole body, in whatever chunks. Such a body is read to
its end or refused for its size, and which of the two depends on its length alone
(`Delivers.readAll_whole`, `Delivers.readAll_tooLarge`).
-/

namespace JsonTap.Web

/-- The octets of a body up to its last chunk. -/
def payload : List Message → List Octet
  | [] => []
  | .disconnect :: _ => []
  | .chunk octets more :: ms => if more then octets ++ payload ms else octets

namespace Gathering

/-- Reads messages until they run out or the body ends. -/
def readAll (cap : Int) (g : Gathering) : List Message → Gathering ⊕ BodyEnd
  | [] => .inl g
  | m :: ms =>
    match g.receive cap m with
    | .inl g => readAll cap g ms
    | .inr b => .inr b

def Counted (g : Gathering) : Prop := g.received = g.chunks.flatten.length

theorem counted_empty : empty.Counted := rfl

/-- What was gathered is the octets that came, in their order. -/
theorem flatten_add (g : Gathering) (octets : List Octet) :
    (g.add octets).chunks.flatten = g.chunks.flatten ++ octets := by
  rw [add]
  cases octets with
  | nil => simp
  | cons b bs => simp

/-- The count stays that of the octets that were gathered. -/
theorem Counted.add {g : Gathering} (h : g.Counted) (octets : List Octet) :
    (g.add octets).Counted := by
  rw [Counted, flatten_add, List.length_append, ← h, Gathering.add]
  cases octets with
  | nil => rfl
  | cons b bs => rfl

/-- A body that is read to its end is what its chunks hold. -/
theorem readAll_whole {cap : Int} {g g' : Gathering} {ms : List Message} (hg : g.Counted)
    (h : g.readAll cap ms = .inr (.whole g')) :
    g'.chunks.flatten = g.chunks.flatten ++ payload ms ∧ g'.Counted := by
  induction ms generalizing g with
  | nil => cases h
  | cons m ms ih =>
      cases m with
      | disconnect => cases h
      | chunk octets more =>
          -- an empty chunk is left out of the list, and counts nothing
          have hadd := hg.add octets
          rw [readAll, receive] at h
          by_cases hcap : (!octets.isEmpty && exceeds cap (g.add octets).received) = true
          · rw [if_pos hcap] at h
            cases h
          · rw [if_neg hcap] at h
            cases more with
            | true =>
                obtain ⟨hflat, hcount⟩ := ih hadd h
                rw [hflat, flatten_add, payload, if_pos rfl, List.append_assoc]
                exact ⟨rfl, hcount⟩
            | false =>
                cases h
                exact ⟨flatten_add g octets, hadd⟩

end Gathering

/-! ## Bodies that come whole -/

/-- Messages that bring a body: its chunks in order, of which the last one says that no more
follows. What comes after it does not belong to the body. -/
inductive Delivers : List Message → List Octet → Prop
  | last (octets : List Octet) (ms : List Message) : Delivers (.chunk octets false :: ms) octets
  | more {ms : List Message} {body : List Octet} (octets : List Octet) :
      Delivers ms body → Delivers (.chunk octets true :: ms) (octets ++ body)

/-- Messages that deliver a body carry its octets and no others. -/
theorem Delivers.payload {ms : List Message} {body : List Octet} (h : Delivers ms body) :
    payload ms = body := by
  induction h with
  | last octets ms => rfl
  | more octets _ ih => rw [Web.payload, if_pos rfl, ih]

theorem exceeds_iff {cap : Int} {n : Nat} : exceeds cap n = true ↔ cap ≠ 0 ∧ cap < (n : Int) := by
  rw [exceeds, Bool.and_eq_true, bne_iff_ne, decide_eq_true_eq]

/-- A cap that some octets exceed is exceeded by more of them. -/
theorem exceeds_mono {cap : Int} {m n : Nat} (h : exceeds cap m = true) (hmn : m ≤ n) :
    exceeds cap n = true := by
  rw [exceeds_iff] at h ⊢
  exact ⟨h.1, by omega⟩

/-- The body is not above the cap. An empty body never is. -/
def Fits (cap : Int) (body : List Octet) : Prop := body = [] ∨ exceeds cap body.length = false

instance (cap : Int) (body : List Octet) : Decidable (Fits cap body) :=
  inferInstanceAs (Decidable (_ ∨ _))

theorem fits_nil (cap : Int) : Fits cap [] := .inl rfl

theorem fits_of_le {cap : Int} {body : List Octet} (h : cap = 0 ∨ (body.length : Int) ≤ cap) :
    Fits cap body := by
  right
  rw [exceeds, Bool.and_eq_false_iff, decide_eq_false_iff_not]
  rcases h with rfl | h
  · exact .inl rfl
  · exact .inr (by omega)

/-- With a body its beginning fits. -/
theorem Fits.of_append {cap : Int} {body later : List Octet} (h : Fits cap (body ++ later)) :
    Fits cap body := by
  rcases h with h | h
  · exact .inl (List.append_eq_nil_iff.mp h).1
  · right
    rw [← Bool.not_eq_true] at h ⊢
    exact fun hexceeds => h (exceeds_mono hexceeds (by simp))

namespace Gathering

/-- A chunk is refused exactly if it brings the body above the cap. -/
theorem receive_chunk {cap : Int} {g : Gathering} (hg : g.Counted)
    (hfits : Fits cap g.chunks.flatten) (octets : List Octet) (more : Bool) :
    Fits cap (g.chunks.flatten ++ octets) ∧
        g.receive cap (.chunk octets more) =
          (if more then .inl (g.add octets) else .inr (.whole (g.add octets))) ∨
      ¬ Fits cap (g.chunks.flatten ++ octets) ∧
        exceeds cap (g.add octets).received = true ∧
        g.receive cap (.chunk octets more) = .inr (.tooLarge (g.add octets).received) := by
  have hcount := hg.add octets
  rw [Counted, flatten_add] at hcount
  rw [receive]
  cases octets with
  | nil =>
      rw [List.append_nil]
      exact .inl ⟨hfits, rfl⟩
  | cons b bs =>
      cases hexceeds : exceeds cap (g.add (b :: bs)).received with
      | true =>
          refine .inr ⟨?_, rfl, by simp⟩
          rintro (h | h)
          · simp at h
          · rw [← hcount, hexceeds] at h
            cases h
      | false => exact .inl ⟨.inr (hcount ▸ hexceeds), by simp⟩

end Gathering

/-- A body that fits is read to its end, whatever its chunks. -/
theorem Delivers.readAll_whole {cap : Int} {g : Gathering} {ms : List Message} {body : List Octet}
    (h : Delivers ms body) (hg : g.Counted) (hfits : Fits cap (g.chunks.flatten ++ body)) :
    ∃ g', g.readAll cap ms = .inr (.whole g') := by
  induction h generalizing g with
  | last octets ms =>
      rw [Gathering.readAll]
      rcases g.receive_chunk hg hfits.of_append octets false with ⟨-, hr⟩ | ⟨hnot, -⟩
      · rw [hr]
        exact ⟨_, rfl⟩
      · exact absurd hfits hnot
  | more octets _ ih =>
      rw [← List.append_assoc] at hfits
      rw [Gathering.readAll]
      rcases g.receive_chunk hg hfits.of_append.of_append octets true with ⟨-, hr⟩ | ⟨hnot, -⟩
      · rw [hr]
        exact ih (hg.add octets) (by rw [Gathering.flatten_add]; exact hfits)
      · exact absurd hfits.of_append hnot

/-- A body that does not fit is refused, as soon as what has come is above the cap. -/
theorem Delivers.readAll_tooLarge {cap : Int} {g : Gathering} {ms : List Message}
    {body : List Octet} (h : Delivers ms body) (hg : g.Counted)
    (hfits : Fits cap g.chunks.flatten) (hnot : ¬ Fits cap (g.chunks.flatten ++ body)) :
    ∃ received, g.readAll cap ms = .inr (.tooLarge received) ∧ exceeds cap received = true ∧
      received ≤ (g.chunks.flatten ++ body).length := by
  induction h generalizing g with
  | last octets ms =>
      have hcount := hg.add octets
      rw [Gathering.Counted, Gathering.flatten_add] at hcount
      rw [Gathering.readAll]
      rcases g.receive_chunk hg hfits octets false with ⟨h, -⟩ | ⟨-, hexceeds, hr⟩
      · exact absurd h hnot
      · rw [hr]
        exact ⟨_, rfl, hexceeds, Nat.le_of_eq hcount⟩
  | @more ms body octets _ ih =>
      have hcount := hg.add octets
      rw [← List.append_assoc, ← Gathering.flatten_add] at hnot ⊢
      rw [Gathering.readAll]
      rcases g.receive_chunk hg hfits octets true with ⟨h, hr⟩ | ⟨-, hexceeds, hr⟩
      · rw [← Gathering.flatten_add] at h
        rw [hr]
        exact ih hcount h hnot
      · rw [hr]
        refine ⟨_, rfl, hexceeds, ?_⟩
        rw [hcount, List.length_append]
        exact Nat.le_add_right _ _

end JsonTap.Web
