import JsonTap.Proofs.Encoding.WellFormed

/-!
# Reading in parts

A run over two parts is a run over the first and one over the second from where the first ended
(`run_append`). What has been seen of a character leads from between characters to the same place
(`run_reached`), so a reader may stop inside a character, put what it has seen in front of what
comes next, and begin again (`pieces_of_inside`).
-/

namespace JsonTap.Utf8

theorem run_append (s : State) (xs ys : List Octet) :
    run s (xs ++ ys) =
      ((run s xs).1 ++ (run (run s xs).2 ys).1, (run (run s xs).2 ys).2) := by
  induction xs generalizing s with
  | nil => rfl
  | cons x xs ih =>
      show ((step s x).1 ++ (run (step s x).2 (xs ++ ys)).1, (run (step s x).2 (xs ++ ys)).2) = _
      rw [ih, ← List.append_assoc]
      rfl

theorem pieces_append (xs ys : List Octet) :
    pieces (xs ++ ys) =
      (run .between xs).1 ++
        ((run (run .between xs).2 ys).1 ++ finish (run (run .between xs).2 ys).2) := by
  show (run .between (xs ++ ys)).1 ++ finish (run .between (xs ++ ys)).2 = _
  rw [run_append, List.append_assoc]

/-! ## Stopping inside a character -/

/-- The octets seen lead to the state. -/
def State.Reached (s : State) : Prop := run .between s.seen = ([], s)

theorem begin_reached (b : Octet) : (begin b).2.Reached := by
  rcases begin_cases b with ⟨-, hbegin⟩ | ⟨p, hbegin, hseen, -⟩ | hbegin
  · rw [hbegin]
    rfl
  · rw [hbegin]
    show run .between p.seen = ([], .inside p)
    rw [hseen]
    show ((begin b).1 ++ [], (begin b).2) = _
    rw [hbegin]
    rfl
  · rw [hbegin]
    rfl

theorem step_reached {s : State} (hs : s.Reached) (b : Octet) : (step s b).2.Reached := by
  cases s with
  | between => exact begin_reached b
  | inside p =>
    show (advance p b).2.Reached
    unfold advance
    split
    · next hb =>
      dsimp only
      split
      · rfl
      · next howed =>
        show run .between (p.seen ++ [b]) = _
        have hp : run .between p.seen = ([], .inside p) := hs
        rw [run_append, hp]
        show run (.inside p) [b] = _
        rw [run_next hb (Nat.not_le.mp howed)]
        rfl
    · exact begin_reached b

theorem run_reached {s : State} (hs : s.Reached) (bs : List Octet) : (run s bs).2.Reached := by
  induction bs generalizing s with
  | nil => exact hs
  | cons b bs ih => exact ih (step_reached hs b)

/-- Reading on from inside a character is reading what has been seen of it and what follows. -/
theorem pieces_of_inside {xs : List Octet} {p : Pending} (h : (run .between xs).2 = .inside p)
    (ys : List Octet) :
    pieces (xs ++ ys) = (run .between xs).1 ++ pieces (p.seen ++ ys) := by
  have hreached : run .between p.seen = ([], .inside p) := by
    have hstate := run_reached (s := .between) rfl xs
    rw [h] at hstate
    exact hstate
  rw [pieces_append, h, pieces_append p.seen, hreached]
  rfl

/-- Reading on from between characters is reading anew. -/
theorem pieces_of_between {xs : List Octet} (h : (run .between xs).2 = .between)
    (ys : List Octet) : pieces (xs ++ ys) = (run .between xs).1 ++ pieces ys := by
  rw [pieces_append, h]
  rfl

/-! ## The end of the input -/

/-- Only the end of the input is an unexpected end. -/
theorem reason_of_mem_run {s : State} {bs octets : List Octet} {r : Damage}
    (h : .damaged octets r ∈ (run s bs).1) : r ≠ .unexpectedEnd := by
  have hbegin : ∀ b, .damaged octets r ∈ (begin b).1 → r ≠ .unexpectedEnd := by
    intro b hmem
    rcases begin_cases b with ⟨-, hb⟩ | ⟨p, hb, -⟩ | hb
    all_goals
      rw [hb] at hmem
      simp at hmem
    rw [hmem.2]
    nofun
  induction bs generalizing s with
  | nil => cases h
  | cons b bs ih =>
    obtain hnow | hlater := List.mem_append.mp h
    · cases s with
      | between => exact hbegin b hnow
      | inside p =>
        have hadvance : .damaged octets r ∈ (advance p b).1 := hnow
        unfold advance at hadvance
        dsimp only at hadvance
        repeat' split at hadvance
        · simp at hadvance
        · simp at hadvance
        · obtain hfirst | hrest := List.mem_cons.mp hadvance
          · cases hfirst
            nofun
          · exact hbegin b hrest
    · exact ih hlater

end JsonTap.Utf8
