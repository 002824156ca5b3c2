import JsonTap.Proofs.Json.Line

/-!
# Values on several lines

A value that is shown indented takes several lines. No string in it begins one: a line feed inside a
string is escaped, and each line feed of the layout is followed by the blanks of the next line, or
by the bracket that closes the whole (`Value.continued_indented`).
-/

namespace JsonTap

namespace Text

/-- What the later lines of a shown value begin with. -/
def continuing : List CodePoint := [' ', '}', ']']

/-- Every line feed is followed by a code point with which a line goes on from the one before. -/
def Continued (t : Text) : Prop :=
  ∀ before after, t = before ++ ('\n' : CodePoint) :: after →
    ∃ c rest, after = c :: rest ∧ c ∈ continuing

theorem continued_of_not_mem {t : Text} (h : ('\n' : CodePoint) ∉ t) : t.Continued := by
  rintro before after rfl
  exact absurd (List.mem_append_right before List.mem_cons_self) h

theorem AsciiLine.continued {t : Text} (h : t.AsciiLine) : t.Continued :=
  continued_of_not_mem h.no_lineFeed

/-- Texts that continue the line do so together. -/
theorem Continued.append {s t : Text} (hs : s.Continued) (ht : t.Continued) :
    (s ++ t).Continued := by
  intro before after h
  rcases List.append_eq_append_iff.mp h with ⟨between, -, hsplit⟩ | ⟨tail, hsplit, hafter⟩
  · exact ht between after hsplit
  · cases tail with
    | nil => exact ht [] after hafter.symm
    | cons x tail =>
        -- the line feed is in the first text, where something follows it already
        obtain ⟨rfl, rfl⟩ := List.cons.inj hafter
        obtain ⟨c, rest, rfl, hc⟩ := hs before tail hsplit
        exact ⟨c, rest ++ t, rfl, hc⟩

/-- A line feed in front of a line that goes on. -/
theorem continued_lineFeed {c : CodePoint} {t : Text} (hc : c ∈ continuing)
    (h : ('\n' : CodePoint) ∉ c :: t) : Continued (('\n' : CodePoint) :: c :: t) := by
  intro before after hsplit
  cases before with
  | nil =>
      obtain ⟨-, rfl⟩ := List.cons.inj hsplit
      exact ⟨c, t, rfl, hc⟩
  | cons b before =>
      have hlater := (List.cons.inj hsplit).2
      rw [hlater] at h
      exact absurd (List.mem_append_right before List.mem_cons_self) h

end Text

namespace Json

open Text

/-- A string in quotes has no line feed. -/
theorem not_mem_quote (t : Text) : ('\n' : CodePoint) ∉ quote false t := by
  intro hmem
  rcases List.mem_cons.mp hmem with h | hmem
  · cases h
  rcases List.mem_append.mp hmem with hmem | hmem
  · obtain ⟨c, -, hc⟩ := List.mem_flatMap.mp hmem
    have h := escaped_escape false c
    generalize escape false c = s at h hc
    cases h with
    | letter s hs =>
        simp only [List.mem_cons, List.not_mem_nil, or_false] at hs
        have hascii : (ofString s).AsciiLine := by
          rcases hs with rfl | rfl | rfl | rfl | rfl | rfl | rfl <;>
            exact asciiLine_ofString (by decide)
        exact hascii.no_lineFeed hc
    | unit => exact (asciiLine_unitEscape c.val).no_lineFeed hc
    | pair _ _ hascii => cases hascii
    | plain hlow _ =>
        rw [← List.mem_singleton.mp hc] at hlow
        exact absurd hlow (by decide)
  · cases List.mem_singleton.mp hmem

theorem blanks_no_lineFeed (n : Nat) :
    ('\n' : CodePoint) ∉ List.replicate n (' ' : CodePoint) := by
  intro hmem
  cases List.eq_of_mem_replicate hmem

/-- Every piece of an indented value continues the line. -/
theorem builds_continued : Layout.indented.Builds Continued fun _ => True where
  append := Continued.append
  nothing := continued_of_not_mem List.not_mem_nil
  word s hs := by
    simp only [List.mem_cons, List.not_mem_nil, or_false] at hs
    rcases hs with rfl | rfl | rfl | rfl | rfl | rfl | rfl <;>
      exact (asciiLine_ofString (by decide)).continued
  comma := (asciiLine_ofString (s := ",") (by decide)).continued
  colon := (asciiLine_ofString (s := ": ") (by decide)).continued
  newline depth hdepth := by
    obtain ⟨d, rfl⟩ : ∃ d, depth = d + 1 := ⟨depth - 1, by omega⟩
    exact continued_lineFeed (by decide) (blanks_no_lineFeed (2 * (d + 1)))
  closing depth s hs := by
    have hbracket : ∃ c : CodePoint, ofString s = [c] ∧ c ∈ continuing ∧ c ≠ '\n' := by
      simp only [List.mem_cons, List.not_mem_nil, or_false] at hs
      rcases hs with rfl | rfl <;> exact ⟨_, rfl, by decide, by decide⟩
    obtain ⟨c, hs, hc, hne⟩ := hbracket
    have hone : ('\n' : CodePoint) ∉ [c] := fun h => hne (List.mem_singleton.mp h).symm
    rw [hs]
    cases depth with
    | zero => exact continued_lineFeed hc hone
    | succ d =>
        have hbegin : Continued (Layout.indented.newline (d + 1)) :=
          continued_lineFeed (by decide) (blanks_no_lineFeed (2 * (d + 1)))
        exact hbegin.append (continued_of_not_mem hone)
  int n := (asciiLine_ofInt n).continued
  num x := (asciiLine_render x).continued
  str t _ := continued_of_not_mem (not_mem_quote t)

theorem Value.continued_indented (v : Value) : v.indented.Continued :=
  builds_continued.render 0 v (v.texts_of_forall fun _ => trivial)

end Json

end JsonTap
