import JsonTap.Json.Literal
import JsonTap.Json.Refusal

/-!
# Reading strict JSON

`Json.parse` reads exactly one value with blanks around it. Below it, three functions recurse on
the text that is left: `value` reads a value, `items` the rest of an array, `members` the rest of
an object. Each returns what it read and a shorter rest, which is why the recursion ends. A syntax
fault carries the text from the offending place on; its place is what the whole text has before
that.

An array or an object is refused at its first fault from the left. A key that is there twice is
noticed when its object closes.
-/

namespace JsonTap.Json

def isBlank (c : CodePoint) : Bool := c = ' ' || c = '\t' || c = '\n' || c = '\r'

def skipBlanks (s : Text) : Text := s.dropWhile isBlank

theorem skipBlanks_length (s : Text) : (skipBlanks s).length ≤ s.length :=
  (List.dropWhile_suffix isBlank).length_le

inductive Stop where
  /-- A syntax fault, with the text from the offending place on. -/
  | syntaxFault (fault : SyntaxFault) (rest : Text)
  | constant (name : Text)
  | duplicateKey (key : Text)
  | outOfRange (literal : Text)

/-- Something read from the front of `s`, and the shorter rest. -/
structure Parsed (α : Type) (s : Text) where
  value : α
  rest : Text
  shorter : rest.length < s.length

/-- The place of a string fault; `opening` is the text from the opening quote on. -/
def StringFault.toStop (opening : Text) : StringFault → Stop
  | .unterminated => .syntaxFault .unterminatedString opening
  | .controlCharacter rest => .syntaxFault .controlCharacter rest
  | .invalidEscape rest => .syntaxFault .invalidEscape rest
  | .invalidUnit rest => .syntaxFault .invalidUnit rest

/-- A string at the front of a text; `fault` is what its absence means. -/
def string (fault : SyntaxFault) : (s : Text) → Except Stop (Parsed Text s)
  | [] => .error (.syntaxFault fault [])
  | c :: r =>
    if c = '"' then
      match h : scanString r [] with
      | .ok (ps, rest) =>
        .ok ⟨joinPieces ps, rest, Nat.lt_succ_of_lt (scanString_length h)⟩
      | .error e => .error (e.toStop (c :: r))
    else .error (.syntaxFault fault (c :: r))

/-- The colon between a key and its value, with the blanks around it. -/
def colon (s : Text) : Except Stop (Parsed Unit s) :=
  match h : skipBlanks s with
  | [] => .error (.syntaxFault .expectingColon [])
  | c :: r =>
    if c = ':' then
      .ok ⟨(), skipBlanks r, by
        have h1 := skipBlanks_length s
        have h2 := skipBlanks_length r
        rw [h, List.length_cons] at h1
        omega⟩
    else .error (.syntaxFault .expectingColon (c :: r))

/-- A constant that JSON has, or one that it must not have. -/
inductive Word where
  | known (v : Value)
  | foreign

def words : List (Text × Word) :=
  [("null", .known .null), ("true", .known (.bool true)), ("false", .known (.bool false)),
    ("NaN", .foreign), ("Infinity", .foreign), ("-Infinity", .foreign)]

def number (s : Text) : Except Stop (Value × Text) :=
  match Numeral.scan? s with
  | none => .error (.syntaxFault .expectingValue s)
  | some (n, rest) =>
    if n.isInteger then .ok (.int n.integer, rest)
    else if n.double.isInfinite then .error (.outOfRange n.text)
    else .ok (.num n.double, rest)

def scalar (s : Text) : Except Stop (Value × Text) :=
  match words.find? (fun w => w.1.isPrefixOf s) with
  | some (name, .known v) => .ok (v, s.drop name.length)
  | some (name, .foreign) => .error (.constant name)
  | none => number s

theorem dropDigits_length (s : Text) : (s.dropWhile CodePoint.isDigit).length ≤ s.length :=
  (List.dropWhile_suffix CodePoint.isDigit).length_le

theorem scanWhole_length {s w r : Text} (h : Numeral.scanWhole? s = some (w, r)) :
    r.length < s.length := by
  cases s with
  | nil => simp [Numeral.scanWhole?] at h
  | cons c t =>
    have hd := dropDigits_length t
    simp only [Numeral.scanWhole?] at h
    split at h
    · simp only [Option.some.injEq, Prod.mk.injEq] at h
      obtain ⟨-, rfl⟩ := h
      simp
    · split at h
      · simp only [Option.some.injEq, Prod.mk.injEq] at h
        obtain ⟨-, rfl⟩ := h
        simp only [List.length_cons]
        omega
      · simp at h

theorem scanMinus_length (s : Text) : (Numeral.scanMinus s).2.length ≤ s.length := by
  unfold Numeral.scanMinus
  split
  · split <;> simp
  · exact Nat.le_refl _

theorem scanFraction_length (s : Text) : (Numeral.scanFraction s).2.length ≤ s.length := by
  unfold Numeral.scanFraction
  split
  · next p d r =>
    have hd := dropDigits_length r
    split
    · simp only [List.length_cons]
      omega
    · exact Nat.le_refl _
  · exact Nat.le_refl _

theorem scanSign_length (s : Text) : (Numeral.scanSign s).2.length ≤ s.length := by
  unfold Numeral.scanSign
  split
  · split <;> simp
  · exact Nat.le_refl _

theorem scanExponent_length (s : Text) : (Numeral.scanExponent s).2.length ≤ s.length := by
  unfold Numeral.scanExponent
  split
  · exact Nat.le_refl _
  · next c r =>
    split
    · have hs := scanSign_length r
      have hd := dropDigits_length (Numeral.scanSign r).2
      simp only
      split
      · exact Nat.le_refl _
      · simp only [List.length_cons]
        omega
    · exact Nat.le_refl _

theorem scanNumeral_length {s r : Text} {n : Numeral} (h : Numeral.scan? s = some (n, r)) :
    r.length < s.length := by
  unfold Numeral.scan? at h
  simp only at h
  split at h
  · simp at h
  · next w r' hw =>
    simp only [Option.some.injEq, Prod.mk.injEq] at h
    obtain ⟨-, rfl⟩ := h
    have h1 := scanWhole_length hw
    have h2 := scanFraction_length r'
    have h3 := scanExponent_length (Numeral.scanFraction r').2
    have h4 := scanMinus_length s
    omega

theorem words_ne_nil : ∀ w ∈ words, w.1 ≠ [] := by decide

theorem scalar_length {s r : Text} {v : Value} (h : scalar s = .ok (v, r)) :
    r.length < s.length := by
  unfold scalar at h
  split at h
  · next name w hf =>
    simp only [Except.ok.injEq, Prod.mk.injEq] at h
    obtain ⟨-, rfl⟩ := h
    have hp : name.isPrefixOf s = true :=
      List.find?_some (p := fun w : Text × Word => w.1.isPrefixOf s) hf
    have hl := (List.isPrefixOf_iff_prefix.1 hp).length_le
    have hne : name ≠ [] := words_ne_nil _ (List.mem_of_find?_eq_some hf)
    have := List.length_pos_iff.2 hne
    rw [List.length_drop]
    omega
  · simp at h
  · unfold number at h
    split at h
    · simp at h
    · next n rest hn =>
      have := scanNumeral_length hn
      split at h
      · simp only [Except.ok.injEq, Prod.mk.injEq] at h
        obtain ⟨-, rfl⟩ := h
        exact this
      · split at h
        · simp at h
        · simp only [Except.ok.injEq, Prod.mk.injEq] at h
          obtain ⟨-, rfl⟩ := h
          exact this

/-- The first key of an object that a member before it has. -/
def duplicate? (seen : List Text) : List (Text × Value) → Option Text
  | [] => none
  | (k, _) :: ms => if seen.contains k then some k else duplicate? (k :: seen) ms

/-- An object of the members read, unless a key is there twice. -/
def closeObject (ms : List (Text × Value)) : Except Stop Value :=
  match duplicate? [] ms with
  | some k => .error (.duplicateKey k)
  | none => .ok (.obj ms)

mutual

def value : (s : Text) → Except Stop (Parsed Value s)
  | [] => .error (.syntaxFault .expectingValue [])
  | c :: r =>
    have hr := skipBlanks_length r
    if c = '"' then
      match string .expectingValue (c :: r) with
      | .ok p => .ok ⟨.str p.value, p.rest, p.shorter⟩
      | .error e => .error e
    else if c = '[' then
      if (skipBlanks r).head? = some (']' : CodePoint) then
        .ok ⟨.arr [], (skipBlanks r).tail, by simp; omega⟩
      else match items (skipBlanks r) with
        | .ok p => .ok ⟨.arr p.value, p.rest, by have := p.shorter; simp; omega⟩
        | .error e => .error e
    else if c = '{' then
      if (skipBlanks r).head? = some ('}' : CodePoint) then
        .ok ⟨.obj [], (skipBlanks r).tail, by simp; omega⟩
      else match members (skipBlanks r) with
        | .ok p =>
          match closeObject p.value with
          | .ok v => .ok ⟨v, p.rest, by have := p.shorter; simp; omega⟩
          | .error e => .error e
        | .error e => .error e
    else match h : scalar (c :: r) with
      | .ok (v, rest) => .ok ⟨v, rest, scalar_length h⟩
      | .error e => .error e
termination_by s => (s.length, 0)

/-- The items of an array that is not empty, from the first one to the closing bracket. -/
def items (s : Text) : Except Stop (Parsed (List Value) s) :=
  match value s with
  | .error e => .error e
  | .ok p =>
    have hp := p.shorter
    match h : skipBlanks p.rest with
    | [] => .error (.syntaxFault .expectingComma [])
    | c :: r =>
      have hb := skipBlanks_length p.rest
      have hr := skipBlanks_length r
      have hc : r.length + 1 ≤ p.rest.length := by rw [h] at hb; simpa using hb
      if c = ']' then .ok ⟨[p.value], r, by omega⟩
      else if c = ',' then
        match items (skipBlanks r) with
        | .ok q => .ok ⟨p.value :: q.value, q.rest, by have := q.shorter; omega⟩
        | .error e => .error e
      else .error (.syntaxFault .expectingComma (c :: r))
termination_by (s.length, 1)

/-- The members of an object that is not empty, from the first key to the closing brace. -/
def members (s : Text) : Except Stop (Parsed (List (Text × Value)) s) :=
  match string .expectingName s with
  | .error e => .error e
  | .ok k =>
    have hk := k.shorter
    match colon k.rest with
    | .error e => .error e
    | .ok d =>
      have hd := d.shorter
      match value d.rest with
      | .error e => .error e
      | .ok p =>
        have hp := p.shorter
        match h : skipBlanks p.rest with
        | [] => .error (.syntaxFault .expectingComma [])
        | c :: r =>
          have hb := skipBlanks_length p.rest
          have hr := skipBlanks_length r
          have hc : r.length + 1 ≤ p.rest.length := by rw [h] at hb; simpa using hb
          if c = '}' then .ok ⟨[(k.value, p.value)], r, by omega⟩
          else if c = ',' then
            match members (skipBlanks r) with
            | .ok q => .ok ⟨(k.value, p.value) :: q.value, q.rest, by have := q.shorter; omega⟩
            | .error e => .error e
          else .error (.syntaxFault .expectingComma (c :: r))
termination_by (s.length, 1)

end

def Stop.toRefusal (whole : Text) : Stop → Refusal
  | .syntaxFault fault rest =>
    .malformed fault (Place.after (whole.take (whole.length - rest.length)))
  | .constant name => .constant name
  | .duplicateKey key => .duplicateKey key
  | .outOfRange literal => .outOfRange literal

/-- The one value that a text denotes, or why it is no strict JSON. -/
def parse (s : Text) : Except Refusal Value :=
  match value (skipBlanks s) with
  | .error e => .error (e.toRefusal s)
  | .ok p =>
    match skipBlanks p.rest with
    | [] => .ok p.value
    | r => .error ((Stop.syntaxFault .extraData r).toRefusal s)

end JsonTap.Json
