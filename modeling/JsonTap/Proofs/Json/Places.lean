import JsonTap.Proofs.Json.Offences
import JsonTap.Proofs.Json.Viable

/-!
# Where and why a text is refused

The place of a syntax fault is in the text that is refused, line and column count from the line
feeds in front of it, and no other place has the same line and column (`Place.In.unique`). A text
with the form of JSON is refused for an offence, and the details of the refusal say what that is
about. `Payload.refusal_points_or_names` has both.
-/

namespace JsonTap.Json

open Grammar

/-! ## Places -/

/-- The index of the last line feed of a text, which is -1 if there is none. -/
def LastLineFeed (s : Text) (i : Int) : Prop :=
  i = -1 ∧ ('\n' : CodePoint) ∉ s ∨
    ∃ a b, s = a ++ ('\n' : CodePoint) :: b ∧ ('\n' : CodePoint) ∉ b ∧ i = a.length

/-- Text without a line feed leaves the last one where it is. -/
theorem LastLineFeed.append {s m : Text} {i : Int} (h : LastLineFeed s i)
    (hm : ('\n' : CodePoint) ∉ m) : LastLineFeed (s ++ m) i := by
  rcases h with ⟨hi, hs⟩ | ⟨a, b, rfl, hb, hi⟩
  · exact .inl ⟨hi, List.not_mem_append hs hm⟩
  · refine .inr ⟨a, b ++ m, ?_, List.not_mem_append hb hm, hi⟩
    rw [List.append_assoc, List.cons_append]

/-- Every text has a last line feed, or none. -/
theorem exists_lastLineFeed (s : Text) : ∃ i, LastLineFeed s i := by
  induction s using List.reverseRecOn with
  | nil => exact ⟨-1, .inl ⟨rfl, List.not_mem_nil⟩⟩
  | append_singleton s c ih =>
      by_cases hc : c = '\n'
      · subst hc
        exact ⟨s.length, .inr ⟨s, [], rfl, List.not_mem_nil, rfl⟩⟩
      · obtain ⟨i, hi⟩ := ih
        exact ⟨i, hi.append (by simpa using Ne.symm hc)⟩

theorem takeWhile_of_no_lineFeed {s r : Text} (hs : ('\n' : CodePoint) ∉ s) :
    (s ++ r).takeWhile (· != ('\n' : CodePoint)) =
      s ++ r.takeWhile (· != ('\n' : CodePoint)) := by
  refine List.takeWhile_append_of_pos ?_
  intro c hc
  rw [bne_iff_ne]
  rintro rfl
  exact hs hc

/-- The column counts from the last line feed. -/
theorem column_after {s : Text} {i : Int} (h : LastLineFeed s i) :
    ((Place.after s).column : Int) = s.length - i := by
  rcases h with ⟨rfl, hs⟩ | ⟨a, b, rfl, hb, rfl⟩
  · have hall := takeWhile_of_no_lineFeed (r := []) (mt List.mem_reverse.mp hs)
    rw [List.append_nil, List.takeWhile_nil, List.append_nil] at hall
    simp only [Place.after, hall, List.length_reverse]
    omega
  · have hlast : ((a ++ ('\n' : CodePoint) :: b).reverse.takeWhile
        (· != ('\n' : CodePoint))) = b.reverse := by
      rw [List.reverse_append, List.reverse_cons, List.append_assoc, List.singleton_append,
        takeWhile_of_no_lineFeed (mt List.mem_reverse.mp hb), List.takeWhile_cons_of_neg (by simp),
        List.append_nil]
    simp only [Place.after, hlast, List.length_reverse, List.length_append, List.length_cons]
    omega

/-- A place of a text: line and column count from the line feeds in front of it. -/
structure Place.In (p : Place) (t : Text) : Prop where
  pos_le : p.pos ≤ t.length
  line : p.line = (t.take p.pos).count ('\n' : CodePoint) + 1
  column : ∃ i, LastLineFeed (t.take p.pos) i ∧ (p.column : Int) = p.pos - i

/-- A place after some text is in the whole of it. -/
theorem Place.after_in (before rest : Text) : (Place.after before).In (before ++ rest) := by
  have htake : (before ++ rest).take (Place.after before).pos = before := List.take_left
  obtain ⟨i, hi⟩ := exists_lastLineFeed before
  refine ⟨?_, ?_, i, ?_, ?_⟩
  · rw [List.length_append]
    exact Nat.le_add_right _ _
  · rw [htake]
    rfl
  · rw [htake]
    exact hi
  · exact column_after hi

/-- Behind no line feed, the column grows with the place. -/
theorem Place.In.pos_eq {p q : Place} {t : Text} (hp : p.In t) (hq : q.In t)
    (hline : p.line = q.line) (hcolumn : p.column = q.column) (hle : p.pos ≤ q.pos) :
    p.pos = q.pos := by
  obtain ⟨m, hm⟩ : ∃ m, t.take q.pos = t.take p.pos ++ m := by
    obtain ⟨m, hm⟩ := List.take_prefix_take_left (l := t) hle
    exact ⟨m, hm.symm⟩
  have hnone : ('\n' : CodePoint) ∉ m := by
    have hcount := hp.line.symm.trans (hline.trans hq.line)
    rw [hm, List.count_append] at hcount
    exact List.count_eq_zero.mp (by omega)
  -- with no line feed in between, both columns count from the one behind which `p` is
  obtain ⟨i, hi, hpi⟩ := hp.column
  obtain ⟨j, hj, hqj⟩ := hq.column
  have hpq := column_after (hi.append hnone)
  rw [← hm, column_after hj] at hpq
  omega

/-- No two places of a text have the same line and column. -/
theorem Place.In.unique {p q : Place} {t : Text} (hp : p.In t) (hq : q.In t)
    (hline : p.line = q.line) (hcolumn : p.column = q.column) : p = q := by
  have hpos : p.pos = q.pos := by
    rcases Nat.le_total p.pos q.pos with hle | hle
    · exact hp.pos_eq hq hline hcolumn hle
    · exact (hq.pos_eq hp hline.symm hcolumn.symm hle).symm
  cases p
  cases q
  cases hline
  cases hcolumn
  cases hpos
  rfl

end JsonTap.Json

namespace JsonTap.Payload

open Json Json.Grammar

def placeDetails (p : Place) : Fields :=
  [("line", .int p.line), ("column", .int p.column), ("pos", .int p.pos)]

def breachDetails : Breach → Fields
  | .constant name => [("constant", .str name)]
  | .duplicateKey key => [("key", .str key)]
  | .outOfRange literal => [("number", .str literal)]

/-- A body is refused as its text is. -/
theorem parse_eq_error_iff {t : Text} {f : Fault} :
    parse t = .error f ↔ ∃ r, Json.parse t = .error r ∧ f = Fault.malformedBody r := by
  rw [parse]
  cases Json.parse t with
  | ok v => simp
  | error r => simp [eq_comm]

/-- The details of a refusal hold a place up to which the text begins one that the syntax of JSON
allows, told by its line and its column; of a text with the form of JSON they name what the offence
is about that ends before all others. -/
theorem refusal_points_or_names {t : Text} {f : Fault} (h : parse t = .error f) :
    (f.details.has "pos" = true →
      ∃ p : Place, f.details = placeDetails p ∧ p.In t ∧
        (∀ q : Place, q.In t → q.line = p.line → q.column = p.column → q = p) ∧
          ∃ rest, Syntactic (t.take p.pos ++ rest)) ∧
      ∀ os, DocumentForm t os → ∃ o ∈ os, f.details = breachDetails o.breach ∧
        ∀ o' ∈ os, o' ≠ o → o.stop < o'.stop := by
  obtain ⟨r, hr, rfl⟩ := parse_eq_error_iff.mp h
  constructor
  · intro hpos
    cases r with
    | malformed fault place =>
        obtain ⟨before, rest, rfl, rfl, tail, htail⟩ := parse_viable hr
        have hin := Place.after_in before rest
        refine ⟨_, rfl, hin, fun q hq hline hcolumn => hq.unique hin hline hcolumn, tail, ?_⟩
        have htake : (before ++ rest).take (Place.after before).pos = before := List.take_left
        rwa [htake]
    | constant name => cases hpos
    | duplicateKey key => cases hpos
    | outOfRange literal => cases hpos
  · intro os hos
    obtain ⟨o, ho, rfl, hfirst⟩ := parse_first_offence hos hr
    refine ⟨o, ho, ?_, hfirst⟩
    cases o.breach <;> rfl

/-- A bracket that nothing opens is at the start of the second line. An object that repeats a key is
refused for the constant inside it. -/
theorem refusal_points_or_names_bracket_and_constant :
    (∃ f : Fault, parse (Text.ofString "\n]") = .error f ∧ f.details = placeDetails ⟨2, 1, 1⟩ ∧
      ∃ rest, Syntactic (Text.ofString "\n" ++ rest)) ∧
    ∃ f : Fault, parse (Text.ofString "\x7b\"\":NaN,\"\":null\x7d") = .error f ∧
      f.details = breachDetails (.constant "NaN") := by
  constructor
  · have hstop : bare (value (skipBlanks (Text.ofString "\n]"))) =
        .error (.syntaxFault .expectingValue "]") :=
      bare_value_scalar (by decide) (by decide) (by decide)
    have h : parse (Text.ofString "\n]") =
        .error (Fault.malformedBody (.malformed .expectingValue ⟨2, 1, 1⟩)) :=
      parse_eq_error_iff.mpr ⟨_, parse_of_stop hstop, rfl⟩
    obtain ⟨p, hp, -, -, htail⟩ := (refusal_points_or_names h).1 rfl
    cases p
    cases hp
    exact ⟨_, h, rfl, htail⟩
  · have hform : DocumentForm (Text.ofString "\x7b\"\":NaN,\"\":null\x7d")
        [⟨7, .constant "NaN"⟩, ⟨16, .duplicateKey []⟩] := by
      refine ⟨[], _, [], _, .nil, .repeating (.cons (.mk .nil .nil .nil .nil (.foreign .nan) .nil)
        (.one (.mk .nil .nil .nil .nil .nullWord .nil))) ?_, .nil, rfl, rfl⟩
      exact ⟨[[]], [], rfl, List.nodup_singleton _, List.mem_singleton_self _⟩
    have h := parse_eq_error_iff.mpr ⟨_, parse_of_offence hform, rfl⟩
    refine ⟨_, h, ?_⟩
    obtain ⟨o, ho, hdetails, hfirst⟩ := (refusal_points_or_names h).2 _ hform
    rcases List.mem_cons.mp ho with rfl | ho
    · exact hdetails
    · -- the object is closed behind the constant
      rw [List.mem_singleton.mp ho] at hfirst
      exact absurd (hfirst _ List.mem_cons_self nofun) (by decide)

end JsonTap.Payload
