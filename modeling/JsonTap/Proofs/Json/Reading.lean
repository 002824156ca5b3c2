import JsonTap.Json.Parser

/-!
# The parser as equations

The parser's functions return their rest with a proof that it is shorter, and the proof is in the
way of every rewrite. `bare` drops it. The equations below say what one call reads in terms of the
bare results of the calls inside it; they say the whole of it, so that neither direction of the
correspondence with the grammar unfolds the parser again.
-/

namespace JsonTap.Json

/-- A result without the proof that its rest is shorter. -/
def bare {α : Type} {s : Text} (r : Except Stop (Parsed α s)) : Except Stop (α × Text) :=
  r.map fun p => (p.value, p.rest)

@[simp] theorem bare_ok {α : Type} {s : Text} (p : Parsed α s) :
    bare (.ok p) = .ok (p.value, p.rest) := rfl

@[simp] theorem bare_error {α : Type} {s : Text} (e : Stop) :
    bare (.error e : Except Stop (Parsed α s)) = .error e := rfl

/-- What is read leaves less than there was. -/
theorem bare_shorter {α : Type} {s r : Text} {x : α} {p : Except Stop (Parsed α s)}
    (h : bare p = .ok (x, r)) : r.length < s.length := by
  cases p with
  | error e => cases h
  | ok p =>
      cases h
      exact p.shorter

/-! ## Strings and colons -/

/-- Reads a string after its opening quote; `opening` is the text from the quote on. -/
def afterQuote (opening r : Text) : Except Stop (Text × Text) :=
  match scanString r [] with
  | .ok (ps, rest) => .ok (joinPieces ps, rest)
  | .error e => .error (e.toStop opening)

/-- A string is read from its opening quote on. -/
theorem bare_string_cons (fault : SyntaxFault) (c : CodePoint) (r : Text) :
    bare (string fault (c :: r)) =
      if c = '"' then afterQuote (c :: r) r else .error (.syntaxFault fault (c :: r)) := by
  rw [string, afterQuote]
  split
  · split
    · next h => simp [h]
    · next h => simp [h]
  · rfl

/-- A colon is read with the blanks around it. -/
theorem bare_colon (s : Text) :
    bare (colon s) =
      match skipBlanks s with
      | [] => .error (.syntaxFault .expectingColon [])
      | c :: r =>
        if c = ':' then .ok ((), skipBlanks r)
        else .error (.syntaxFault .expectingColon (c :: r)) := by
  rw [colon]
  split
  · next h => simp [h]
  · next c r h =>
      simp only [h]
      split <;> rfl

/-! ## Values -/

theorem bare_value_nil : bare (value []) = .error (.syntaxFault .expectingValue []) := by
  rw [value]
  rfl

/-- A quote begins a string. -/
theorem bare_value_quote (r : Text) :
    bare (value (('"' : CodePoint) :: r)) =
      (afterQuote (('"' : CodePoint) :: r) r).map fun x => (.str x.1, x.2) := by
  have h := bare_string_cons .expectingValue '"' r
  rw [if_pos rfl] at h
  rw [value, if_pos rfl, ← h]
  cases string .expectingValue (('"' : CodePoint) :: r) <;> rfl

/-- A bracket begins an array. -/
theorem bare_value_bracket (r : Text) :
    bare (value (('[' : CodePoint) :: r)) =
      if (skipBlanks r).head? = some (']' : CodePoint) then .ok (.arr [], (skipBlanks r).tail)
      else (bare (items (skipBlanks r))).map fun x => (.arr x.1, x.2) := by
  rw [value, if_neg (by decide), if_pos rfl]
  split
  · rfl
  · cases items (skipBlanks r) <;> rfl

/-- A brace begins an object, which is closed when its members are read. -/
theorem bare_value_brace (r : Text) :
    bare (value (('{' : CodePoint) :: r)) =
      if (skipBlanks r).head? = some ('}' : CodePoint) then .ok (.obj [], (skipBlanks r).tail)
      else (bare (members (skipBlanks r))).bind fun x =>
        (closeObject x.1).map fun v => (v, x.2) := by
  rw [value, if_neg (by decide), if_neg (by decide), if_pos rfl]
  split
  · rfl
  · cases members (skipBlanks r) with
    | error e => rfl
    | ok p => cases hv : closeObject p.value <;> simp [hv, Except.bind, Except.map]

/-- Anything else begins a word or a number. -/
theorem bare_value_scalar {c : CodePoint} {r : Text} (h1 : c ≠ '"') (h2 : c ≠ '[') (h3 : c ≠ '{') :
    bare (value (c :: r)) = scalar (c :: r) := by
  rw [value, if_neg h1, if_neg h2, if_neg h3]
  split
  · next h => exact h.symm
  · next h => exact h.symm

/-! ## Items and members -/

/-- What follows an item or a member: the closing mark, or a comma and what `more` reads. -/
def afterOne {α : Type} (close : CodePoint) (more : Text → Except Stop (List α × Text)) (x : α)
    (rest : Text) : Except Stop (List α × Text) :=
  match skipBlanks rest with
  | [] => .error (.syntaxFault .expectingComma [])
  | c :: r =>
    if c = close then .ok ([x], r)
    else if c = ',' then (more (skipBlanks r)).map fun y => (x :: y.1, y.2)
    else .error (.syntaxFault .expectingComma (c :: r))

/-- Items are read one by one. -/
theorem bare_items (s : Text) :
    bare (items s) =
      (bare (value s)).bind fun x => afterOne ']' (fun t => bare (items t)) x.1 x.2 := by
  rw [items]
  cases value s with
  | error e => rfl
  | ok p =>
      simp only [bare_ok, Except.bind, afterOne]
      split
      · next h => simp [h]
      · next c r h =>
          simp only [h]
          split
          · rfl
          · split
            · cases items (skipBlanks r) <;> rfl
            · rfl

/-- Members are read one by one, each with its name and its colon. -/
theorem bare_members (s : Text) :
    bare (members s) =
      (bare (string .expectingName s)).bind fun k => (bare (colon k.2)).bind fun d =>
        (bare (value d.2)).bind fun x =>
          afterOne '}' (fun t => bare (members t)) (k.1, x.1) x.2 := by
  rw [members]
  cases string .expectingName s with
  | error e => rfl
  | ok k =>
      simp only [bare_ok, Except.bind]
      cases colon k.rest with
      | error e => rfl
      | ok d =>
          simp only [bare_ok]
          cases value d.rest with
          | error e => rfl
          | ok p =>
              simp only [bare_ok, afterOne]
              split
              · next h => simp [h]
              · next c r h =>
                  simp only [h]
                  split
                  · rfl
                  · split
                    · cases members (skipBlanks r) <;> rfl
                    · rfl

/-! ## Keys -/

theorem duplicate?_eq_none_iff {seen : List Text} {ms : List (Text × Value)} :
    duplicate? seen ms = none ↔ (ms.map (·.1)).Nodup ∧ ∀ k ∈ ms.map (·.1), k ∉ seen := by
  induction ms generalizing seen with
  | nil => simp [duplicate?]
  | cons m ms ih =>
      obtain ⟨k, v⟩ := m
      rw [duplicate?, List.map_cons, List.nodup_cons]
      by_cases hk : k ∈ seen
      · simp [hk]
      · rw [if_neg (by simpa using hk), ih]
        constructor
        · rintro ⟨hn, hs⟩
          refine ⟨⟨fun hm => hs k hm (by simp), hn⟩, ?_⟩
          intro x hx
          rcases List.mem_cons.mp hx with rfl | hx
          · exact hk
          · exact fun h => hs x hx (List.mem_cons_of_mem k h)
        · rintro ⟨⟨hm, hn⟩, hs⟩
          refine ⟨hn, ?_⟩
          intro x hx h
          rcases List.mem_cons.mp h with rfl | h
          · exact hm hx
          · exact hs x (List.mem_cons_of_mem k hx) h

theorem closeObject_eq_ok_iff {ms : List (Text × Value)} {v : Value} :
    closeObject ms = .ok v ↔ (ms.map (·.1)).Nodup ∧ v = .obj ms := by
  have hd := @duplicate?_eq_none_iff [] ms
  rw [closeObject]
  cases h : duplicate? [] ms with
  | some k => simp_all
  | none =>
      have hn := (hd.mp h).1
      simp only [Except.ok.injEq, hn, true_and]
      exact eq_comm

/-! ## The whole text -/

theorem parse_eq_ok_iff {s : Text} {v : Value} :
    parse s = .ok v ↔ ∃ r, bare (value (skipBlanks s)) = .ok (v, r) ∧ skipBlanks r = [] := by
  rw [parse]
  cases value (skipBlanks s) with
  | error e => simp
  | ok p =>
      simp only [bare_ok, Except.ok.injEq, Prod.mk.injEq]
      split
      · next h =>
          constructor
          · intro hv
            cases hv
            exact ⟨p.rest, ⟨rfl, rfl⟩, h⟩
          · rintro ⟨r, ⟨hv, rfl⟩, -⟩
            rw [hv]
      · next h =>
          constructor
          · intro hv
            cases hv
          · rintro ⟨r, ⟨-, rfl⟩, hr⟩
            exact absurd hr h

end JsonTap.Json
