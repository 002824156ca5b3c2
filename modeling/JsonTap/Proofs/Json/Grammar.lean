import JsonTap.Json.Parser
import JsonTap.Proofs.Number.Rounding

/-!
# The grammar of strict JSON

`Grammar.Document s v` says that the text `s` derives the value `v`: one value with blanks around
it. The relation is written after the productions of JSON and knows nothing of the parser or of its
arithmetic, and it keeps what strictness adds: a key occurs once in an object, and the binary64
number that is nearest to a number with a fraction or an exponent is finite.

Each relation comes with the facts that both directions need: blanks in front of items and members
belong to them, and a value begins with no blank.
-/

namespace JsonTap.Json.Grammar

/-! ## Blanks -/

/-- A run of white space, which may be empty. -/
def Blanks (w : Text) : Prop := ∀ c ∈ w, c = ' ' ∨ c = '\t' ∨ c = '\n' ∨ c = '\r'

theorem isBlank_iff {c : CodePoint} :
    isBlank c = true ↔ c = ' ' ∨ c = '\t' ∨ c = '\n' ∨ c = '\r' := by
  simp [isBlank, or_assoc]

theorem Blanks.nil : Blanks [] := by
  intro c hc
  cases hc

theorem Blanks.append {a b : Text} (ha : Blanks a) (hb : Blanks b) : Blanks (a ++ b) := by
  intro c hc
  rcases List.mem_append.mp hc with hc | hc
  · exact ha c hc
  · exact hb c hc

/-! ## Strings -/

/-- The letter after a backslash, and the code point that the two denote. -/
inductive SimpleEscape : CodePoint → CodePoint → Prop
  | quote : SimpleEscape '"' '"'
  | backslash : SimpleEscape '\\' '\\'
  | slash : SimpleEscape '/' '/'
  | backspace : SimpleEscape 'b' '\x08'
  | formFeed : SimpleEscape 'f' '\x0c'
  | lineFeed : SimpleEscape 'n' '\n'
  | carriageReturn : SimpleEscape 'r' '\r'
  | tab : SimpleEscape 't' '\t'

/-- An escape by number: four hexadecimal digits after a backslash and `u`. -/
inductive UnitEscape : Text → CodePoint → Prop
  | mk {a b c d : CodePoint} {x y z w : Nat} {u : CodePoint} :
      a.hexValue? = some x → b.hexValue? = some y → c.hexValue? = some z → d.hexValue? = some w →
      u.val = ((x * 16 + y) * 16 + z) * 16 + w →
      UnitEscape [('\\' : CodePoint), ('u' : CodePoint), a, b, c, d] u

/-- What stands between the quotes of a string, and the text that it denotes. Two escaped halves of
a surrogate pair, one directly after the other, denote one code point; every other escape by number
denotes its own. -/
inductive Chars : Text → Text → Prop
  | nil : Chars [] []
  | plain {c : CodePoint} {s t : Text} :
      0x20 ≤ c.val → c ≠ '"' → c ≠ '\\' → Chars s t → Chars (c :: s) (c :: t)
  | simple {e x : CodePoint} {s t : Text} :
      SimpleEscape e x → Chars s t → Chars (('\\' : CodePoint) :: e :: s) (x :: t)
  | pair {e f : Text} {h l c : CodePoint} {s t : Text} :
      UnitEscape e h → h.isHighSurrogate = true → UnitEscape f l → l.isLowSurrogate = true →
      c.val = 0x10000 + (h.val - 0xD800) * 0x400 + (l.val - 0xDC00) →
      Chars s t → Chars (e ++ (f ++ s)) (c :: t)
  | unit {e : Text} {u : CodePoint} {s t : Text} :
      UnitEscape e u →
      (u.isHighSurrogate = true → ∀ f l r, UnitEscape f l → l.isLowSurrogate = true → s ≠ f ++ r) →
      Chars s t → Chars (e ++ s) (u :: t)

/-! ## Numbers -/

def Digits (ds : Text) : Prop := ds ≠ [] ∧ ∀ c ∈ ds, c.isDigit = true

/-- The exponent of a number: a letter, an optional sign, digits. -/
structure IsExponent (e : Exponent) : Prop where
  mark : e.mark = 'e' ∨ e.mark = 'E'
  sign : ∀ c, e.sign = some c → c = '-' ∨ c = '+'
  digits : Digits e.digits

/-- The form of a number. The whole part is a zero, or digits of which the first is none; digits
follow a point if there is one. -/
structure IsNumber (n : Numeral) : Prop where
  whole : n.whole = [('0' : CodePoint)] ∨ Digits n.whole ∧ n.whole.head? ≠ some ('0' : CodePoint)
  fraction : ∀ c ∈ n.fraction, c.isDigit = true
  exponent : ∀ e, n.exponent = some e → IsExponent e

/-- The digits of a number without its point. -/
def significand (n : Numeral) : Nat := Text.digitsValue (n.whole ++ n.fraction)

/-- The power of ten that the digits of a number are multiplied by. -/
def scale (n : Numeral) : Int := Numeral.exponentValue n.exponent - n.fraction.length

/-- The binary64 number that a number denotes: it has the sign, and of all magnitudes its own is
nearest. -/
def Denotes (n : Numeral) (x : Double) : Prop :=
  ∃ code, x = .signed n.negative (Double.clamp code) ∧
    Double.Nearest (significand n * 10 ^ (scale n).toNat) (10 ^ (-scale n).toNat) code

/-- The reader's arithmetic finds the number that is denoted. -/
theorem denotes_iff {n : Numeral} {x : Double} : Denotes n x ↔ x = n.double := by
  have hden : 0 < 10 ^ (-scale n).toNat := pow_pos (by decide) _
  rw [Numeral.double, Double.ofDecimal_eq, Double.ofRatio]
  constructor
  · rintro ⟨code, rfl, hnear⟩
    rw [(Double.nearest_iff hden).mp hnear]
    rfl
  · rintro rfl
    exact ⟨_, rfl, Double.roundRatio_nearest _ hden⟩

/-- Every number denotes something. -/
theorem Denotes.ne_nan {n : Numeral} {x : Double} (h : Denotes n x) : x ≠ .nan := by
  obtain ⟨code, rfl, -⟩ := h
  exact nofun

/-! ## Values -/

mutual

/-- A text that derives a value. -/
inductive Derives : Text → Value → Prop
  | nullWord : Derives "null" .null
  | trueWord : Derives "true" (.bool true)
  | falseWord : Derives "false" (.bool false)
  | integer {n : Numeral} : IsNumber n → n.isInteger = true → Derives n.text (.int n.integer)
  | double {n : Numeral} {x : Double} :
      IsNumber n → n.isInteger = false → Denotes n x → x.isFinite = true → Derives n.text (.num x)
  | string {s t : Text} :
      Chars s t → Derives (('"' : CodePoint) :: (s ++ [('"' : CodePoint)])) (.str t)
  | emptyArray {w : Text} :
      Blanks w → Derives (('[' : CodePoint) :: (w ++ [(']' : CodePoint)])) (.arr [])
  | array {s : Text} {vs : List Value} :
      Items s vs → Derives (('[' : CodePoint) :: (s ++ [(']' : CodePoint)])) (.arr vs)
  | emptyObject {w : Text} :
      Blanks w → Derives (('{' : CodePoint) :: (w ++ [('}' : CodePoint)])) (.obj [])
  | object {s : Text} {ms : List (Text × Value)} :
      Members s ms → (ms.map (·.1)).Nodup →
      Derives (('{' : CodePoint) :: (s ++ [('}' : CodePoint)])) (.obj ms)

inductive Items : Text → List Value → Prop
  | one {a s b : Text} {v : Value} :
      Blanks a → Derives s v → Blanks b → Items (a ++ (s ++ b)) [v]
  | cons {a s b r : Text} {v : Value} {vs : List Value} :
      Blanks a → Derives s v → Blanks b → Items r vs →
      Items (a ++ (s ++ (b ++ (',' : CodePoint) :: r))) (v :: vs)

inductive Members : Text → List (Text × Value) → Prop
  | one {s : Text} {m : Text × Value} : Member s m → Members s [m]
  | cons {s r : Text} {m : Text × Value} {ms : List (Text × Value)} :
      Member s m → Members r ms → Members (s ++ (',' : CodePoint) :: r) (m :: ms)

/-- A key in quotes, a colon and a value. -/
inductive Member : Text → Text × Value → Prop
  | mk {a k b c s d : Text} {key : Text} {v : Value} :
      Blanks a → Chars k key → Blanks b → Blanks c → Derives s v → Blanks d →
      Member (a ++ ('"' : CodePoint) :: (k ++ ('"' : CodePoint) ::
        (b ++ (':' : CodePoint) :: (c ++ (s ++ d))))) (key, v)

end

def Document (s : Text) (v : Value) : Prop :=
  ∃ a t b, Blanks a ∧ Derives t v ∧ Blanks b ∧ s = a ++ (t ++ b)

/-! ## Blanks at the front -/

/-- Blanks may stand before items. -/
theorem Items.blanks {w s : Text} {vs : List Value} (hw : Blanks w) (h : Items s vs) :
    Items (w ++ s) vs := by
  cases h with
  | one ha hv hb =>
      rw [← List.append_assoc]
      exact .one (hw.append ha) hv hb
  | cons ha hv hb hr =>
      rw [← List.append_assoc]
      exact .cons (hw.append ha) hv hb hr

theorem Member.blanks {w s : Text} {m : Text × Value} (hw : Blanks w) (h : Member s m) :
    Member (w ++ s) m := by
  cases h with
  | mk ha hk hb hc hv hd =>
      rw [← List.append_assoc]
      exact .mk (hw.append ha) hk hb hc hv hd

theorem Members.blanks {w s : Text} {ms : List (Text × Value)} (hw : Blanks w)
    (h : Members s ms) : Members (w ++ s) ms := by
  cases h with
  | one hm => exact .one (hm.blanks hw)
  | cons hm hr =>
      rw [← List.append_assoc]
      exact .cons (hm.blanks hw) hr

/-! ## Strictness -/

mutual

/-- Only strict values are derived. -/
theorem Derives.strict {t : Text} {v : Value} (h : Derives t v) : v.Strict := by
  match h with
  | .nullWord | .trueWord | .falseWord | .integer _ _ | .string _ => exact trivial
  | .double _ _ _ hx => exact hx
  | .emptyArray _ | .emptyObject _ => exact trivial
  | .array hi => exact Items.strict hi
  | .object hm hn => exact Members.strict hm hn

theorem Items.strict {t : Text} {vs : List Value} (h : Items t vs) : Value.AllStrict vs := by
  match h with
  | .one _ hv _ => exact ⟨Derives.strict hv, trivial⟩
  | .cons _ hv _ hr => exact ⟨Derives.strict hv, Items.strict hr⟩

theorem Members.strict {t : Text} {ms : List (Text × Value)} (h : Members t ms)
    (hn : (ms.map (·.1)).Nodup) : Value.MembersStrict ms := by
  match h with
  | .one (.mk _ _ _ _ hv _) => exact ⟨Derives.strict hv, nofun, trivial⟩
  | .cons (.mk _ _ _ _ hv _) hr =>
      rw [List.map_cons, List.nodup_cons] at hn
      refine ⟨Derives.strict hv, ?_, Members.strict hr hn.2⟩
      -- a later member with this key would be in the keys that follow
      intro m hm hkey
      exact hn.1 (List.mem_map.mpr ⟨m, hm, hkey⟩)

end

/-- A document is of a strict value. -/
theorem Document.strict {s : Text} {v : Value} (h : Document s v) : v.Strict := by
  obtain ⟨a, t, b, -, ht, -, -⟩ := h
  exact ht.strict

end JsonTap.Json.Grammar
