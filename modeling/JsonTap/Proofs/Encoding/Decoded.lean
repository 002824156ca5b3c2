import JsonTap.Proofs.Encoding.Utf8

/-!
# What is decoded has no surrogates

Whatever octets come, a decoded text is one that UTF-8 can hold (`encodable_decode`): the bounds of
the second octet keep the characters of three octets away from the surrogates, and those of four
octets lie above them. `Pending.Clear` is what this comes to inside a character.
-/

namespace JsonTap.Utf8

/-- No octets that the reader takes lead from here to a surrogate. With one octet to come the number
lies outside the range 0x360 to 0x37F of the surrogates without their last six bits. -/
structure Pending.Clear (p : Pending) : Prop where
  few : p.owed ≤ 3
  high : p.high ≤ 0xBF
  one : p.owed ≤ 1 → p.value < 0x360 ∨ 0x37F < p.value
  two : p.owed = 2 → ∀ n, p.low ≤ n → n ≤ p.high →
    p.value * 64 + (n - 0x80) < 0x360 ∨ 0x37F < p.value * 64 + (n - 0x80)
  three : p.owed = 3 → ∀ n, p.low ≤ n → n ≤ p.high → 0x10 ≤ p.value * 64 + (n - 0x80)

def State.Clear : State → Prop
  | .between => True
  | .inside p => p.Clear

/-- Pieces that become no surrogates, and a state that leads to none. -/
structure Clear (step : List Piece × State) : Prop where
  pieces : ∀ piece ∈ step.1, piece.toCodePoint.isSurrogate = false
  state : step.2.Clear

theorem not_isSurrogate_of_val {c : CodePoint} (h : c.val < 0xD800 ∨ 0xDFFF < c.val) :
    c.isSurrogate = false := by
  simp [CodePoint.isSurrogate]
  omega

theorem isSurrogate_codePoint {n : Nat} (h : n < 0xD800 ∨ 0xDFFF < n) :
    (codePoint n).isSurrogate = false := by
  unfold codePoint
  split
  · exact not_isSurrogate_of_val h
  · decide

theorem begin_clear (b : Octet) : Clear (begin b) := by
  have hdamaged : Clear ([.damaged [b] .invalidStart], .between) :=
    ⟨List.forall_mem_singleton.mpr rfl, trivial⟩
  unfold begin
  dsimp only
  split
  · next hb =>
      -- a character of one octet
      refine ⟨List.forall_mem_singleton.mpr (not_isSurrogate_of_val (.inl ?_)), trivial⟩
      show b.val < 0xD800
      omega
  split
  · exact hdamaged
  split
  · -- the first octet of two, of three and of four
    refine ⟨nofun, ⟨(by omega : 1 ≤ 3), (by omega : 0xBF ≤ 0xBF), ?_, nofun, nofun⟩⟩
    intro _
    left
    show b.val - 0xC0 < 0x360
    omega
  split
  · refine ⟨nofun, ⟨(by omega : 2 ≤ 3), ?_, nofun, ?_, nofun⟩⟩
    · show (if b.val = 0xED then 0x9F else 0xBF) ≤ 0xBF
      split <;> omega
    · intro _ n hlow hhigh
      dsimp only at hlow hhigh ⊢
      split at hlow <;> split at hhigh <;> omega
  split
  · refine ⟨nofun, ⟨(by omega : 3 ≤ 3), ?_, nofun, nofun, ?_⟩⟩
    · show (if b.val = 0xF4 then 0x8F else 0xBF) ≤ 0xBF
      split <;> omega
    · intro _ n hlow hhigh
      dsimp only at hlow hhigh ⊢
      split at hlow <;> split at hhigh <;> omega
  · exact hdamaged

theorem advance_clear {p : Pending} (hp : p.Clear) (b : Octet) : Clear (advance p b) := by
  unfold advance
  split
  · next hb =>
      dsimp only
      split
      · next howed =>
          -- the last octet gives six bits more
          refine ⟨List.forall_mem_singleton.mpr (isSurrogate_codePoint ?_), trivial⟩
          have hrange := hp.one howed
          have hhigh := hp.high
          omega
      · next howed =>
          have hfew := hp.few
          refine ⟨nofun, ⟨(by omega : p.owed - 1 ≤ 3), (by omega : 0xBF ≤ 0xBF), ?_, ?_, ?_⟩⟩
          · intro (h : p.owed - 1 ≤ 1)
            exact hp.two (by omega) b.val hb.1 hb.2
          · intro (h : p.owed - 1 = 2) n _ _
            right
            have hthree := hp.three (by omega) b.val hb.1 hb.2
            show 0x37F < (p.value * 64 + (b.val - 0x80)) * 64 + (n - 0x80)
            omega
          · intro (h : p.owed - 1 = 3)
            omega
  · obtain ⟨hpieces, hstate⟩ := begin_clear b
    exact ⟨List.forall_mem_cons.mpr ⟨rfl, hpieces⟩, hstate⟩

theorem step_clear {s : State} (hs : s.Clear) (b : Octet) : Clear (step s b) := by
  cases s with
  | between => exact begin_clear b
  | inside p => exact advance_clear hs b

theorem run_clear {s : State} (hs : s.Clear) (bs : List Octet) : Clear (run s bs) := by
  induction bs generalizing s with
  | nil => exact ⟨nofun, hs⟩
  | cons b bs ih =>
      have hnow := step_clear hs b
      have hlater := ih hnow.state
      exact ⟨List.forall_mem_append.mpr ⟨hnow.pieces, hlater.pieces⟩, hlater.state⟩

/-- What is decoded can be encoded. -/
theorem encodable_decode (bs : List Octet) : Encodable (decode bs) := by
  have hrun := run_clear (s := .between) trivial bs
  have hpieces : ∀ piece ∈ pieces bs, piece.toCodePoint.isSurrogate = false := by
    unfold pieces
    refine List.forall_mem_append.mpr ⟨hrun.pieces, ?_⟩
    cases (run .between bs).2 with
    | between => exact nofun
    | inside p => exact List.forall_mem_singleton.mpr rfl
  intro c hc
  obtain ⟨piece, hpiece, rfl⟩ := List.mem_map.mp hc
  exact hpieces piece hpiece

end JsonTap.Utf8
