import JsonTap.Web.Route
import Mathlib.Data.List.Basic

/-!
# Which paths lead to an exchange

A path leads to an exchange exactly if it begins with a slash and is one line, which may end with
its line feed (`ofPath_eq_exchange_iff`). A request with such a path begins an exchange if its
target can be told, and a query that is text is no obstacle to that.
-/

namespace JsonTap.Web

/-- The path begins with a slash and is one line, with or without its line feed. -/
def OneLine (path : Text) : Prop :=
  ∃ line, ('\n' : CodePoint) ∉ line ∧
    (path = ('/' : CodePoint) :: line ∨ path = ('/' : CodePoint) :: (line ++ [('\n' : CodePoint)]))

/-- The open route takes the paths of one line. -/
theorem isOpen_iff {path : Text} : isOpen path = true ↔ OneLine path := by
  cases path with
  | nil =>
      refine iff_of_false nofun ?_
      rintro ⟨line, -, h | h⟩ <;> cases h
  | cons c rest =>
      rw [isOpen, Bool.and_eq_true, decide_eq_true_eq, Bool.not_eq_true', List.contains_eq_mem,
        decide_eq_false_iff_not]
      constructor
      · rintro ⟨rfl, hline⟩
        split at hline
        · next hlast =>
            have hrest := List.dropLast_append_getLast? _ hlast
            exact ⟨rest.dropLast, hline, .inr (by rw [hrest])⟩
        · exact ⟨rest, hline, .inl rfl⟩
      · rintro ⟨line, hline, h | h⟩
        · obtain ⟨hc, rfl⟩ := List.cons.inj h
          have hlast : rest.getLast? ≠ some ('\n' : CodePoint) :=
            fun hl => hline (List.mem_of_getLast? hl)
          rw [if_neg hlast]
          exact ⟨hc, hline⟩
        · obtain ⟨hc, rfl⟩ := List.cons.inj h
          rw [if_pos List.getLast?_concat, List.dropLast_concat]
          exact ⟨hc, hline⟩

/-- Exactly the paths of one line begin an exchange. -/
theorem ofPath_eq_exchange_iff {path : Text} : Route.ofPath path = .exchange ↔ OneLine path := by
  rw [← isOpen_iff, Route.ofPath]
  split
  · next h => exact iff_of_true rfl h
  · next h => split <;> exact iff_of_false nofun h

/-- A query that is text is no obstacle to the target. -/
theorem Request.target_of_query {r : Request} {query : Text} (h : r.queryText = .ok query) :
    ∃ target, r.target = .ok target := by
  rw [target, targetPath]
  split
  · exact ⟨_, rfl⟩
  · rw [urlPath, h]
    exact ⟨_, rfl⟩

end JsonTap.Web
