import JsonTap.Proofs.Json.Surrogates

/-!
# Values on one line

What is written of a value on one line has no code points but those from the space to the tilde
(`Value.asciiLine_line`), and reads back as the value if no string in it has a surrogate pair
(`Value.line_document`): escapes would make one code point of the pair.
-/

namespace JsonTap

/-- Every code point is one of ASCII and no control character, so none ends the line. -/
def Text.AsciiLine (t : Text) : Prop := ∀ c ∈ t, 0x20 ≤ c.val ∧ c.val < 0x7F

namespace Text

theorem asciiLine_append {s t : Text} : (s ++ t).AsciiLine ↔ s.AsciiLine ∧ t.AsciiLine :=
  List.forall_mem_append

theorem asciiLine_cons {c : CodePoint} {t : Text} :
    AsciiLine (c :: t) ↔ (0x20 ≤ c.val ∧ c.val < 0x7F) ∧ t.AsciiLine :=
  List.forall_mem_cons

theorem asciiLine_char {c : Char} (h : 0x20 ≤ c.toNat ∧ c.toNat < 0x7F) :
    0x20 ≤ (CodePoint.ofChar c).val ∧ (CodePoint.ofChar c).val < 0x7F := h

/-- A literal of printable ASCII is one line. -/
theorem asciiLine_ofString {s : String}
    (h : s.toList.all (fun c => decide (0x20 ≤ c.toNat ∧ c.toNat < 0x7F)) = true) :
    (ofString s).AsciiLine := by
  intro c hc
  obtain ⟨x, hx, rfl⟩ := List.mem_map.mp hc
  exact of_decide_eq_true (List.all_eq_true.mp h x hx)

theorem asciiLine_digits {t : Text} (h : ∀ c ∈ t, c.isDigit = true) : t.AsciiLine := by
  intro c hc
  have hd := val_of_isDigit (h c hc)
  omega

/-- Hexadecimal digits are one line of ASCII. -/
theorem asciiLine_hex (w n : Nat) : (hex w n).AsciiLine := by
  induction w generalizing n with
  | zero => exact List.forall_mem_nil _
  | succ w ih =>
      refine asciiLine_append.mpr ⟨ih (n / 16), List.forall_mem_singleton.mpr ?_⟩
      unfold CodePoint.hexDigit
      split
      · show 0x20 ≤ 0x30 + n % 16 ∧ 0x30 + n % 16 < 0x7F
        omega
      · show 0x20 ≤ 0x57 + n % 16 ∧ 0x57 + n % 16 < 0x7F
        omega

/-- There is no line feed in it. -/
theorem AsciiLine.no_lineFeed {t : Text} (h : t.AsciiLine) : ('\n' : CodePoint) ∉ t := by
  intro hmem
  have hrange : 0x20 ≤ '\n'.toNat := (h _ hmem).1
  exact absurd hrange (by decide)

/-- A line of ASCII can be written. -/
theorem AsciiLine.encodable {t : Text} (h : t.AsciiLine) : Utf8.Encodable t := by
  intro c hc
  have hrange := (h c hc).2
  simp [CodePoint.isSurrogate]
  omega

end Text

namespace Json

open Grammar Numeral Text

/-! ## Numbers and strings -/

/-- A number is one line of ASCII. -/
theorem Numeral.asciiLine_text {n : Numeral} (h : IsNumber n) : n.text.AsciiLine := by
  have hminus : (minusText n.negative).AsciiLine := by
    cases n.negative with
    | true => exact asciiLine_ofString (s := "-") (by decide)
    | false => exact List.forall_mem_nil _
  have hfraction : (fractionText n.fraction).AsciiLine := by
    unfold fractionText
    split
    · exact List.forall_mem_nil _
    · exact asciiLine_cons.mpr ⟨asciiLine_char (by decide), asciiLine_digits h.fraction⟩
  have hexponent : (exponentText n.exponent).AsciiLine := by
    cases hx : n.exponent with
    | none => exact List.forall_mem_nil _
    | some x =>
        obtain ⟨hmark, hsign, hdigits⟩ := h.exponent x hx
        refine asciiLine_cons.mpr ⟨?_, asciiLine_append.mpr ⟨?_, asciiLine_digits hdigits.2⟩⟩
        · rcases hmark with hmark | hmark <;> rw [hmark] <;> exact asciiLine_char (by decide)
        · intro c hc
          rcases hsign c (Option.mem_toList.mp hc) with rfl | rfl <;>
            exact asciiLine_char (by decide)
  rw [text_eq]
  simp only [asciiLine_append]
  exact ⟨hminus, asciiLine_digits (digits_whole h).2, hfraction, hexponent⟩

theorem asciiLine_ofInt (i : Int) : (ofInt i).AsciiLine := by
  obtain ⟨n, hn, -, htext, -⟩ := integer_numeral i
  rw [← htext]
  exact asciiLine_text hn

/-- A number is written as a numeral or, if it is not finite, as one of three words. -/
theorem asciiLine_render (x : Double) : (x.render .json).AsciiLine := by
  by_cases hx : x.isFinite = true
  · obtain ⟨n, hn, -, htext, -⟩ := double_numeral (l := .json) rfl hx
    rw [← htext]
    exact asciiLine_text hn
  · cases x with
    | nan => exact asciiLine_ofString (s := "NaN") (by decide)
    | signed negative c =>
        have hcode : c.val = infinityCode := by
          have hlow : ¬ c.val < infinityCode := fun h => hx (decide_eq_true h)
          omega
        have hbody : (ofString "Infinity").AsciiLine := asciiLine_ofString (by decide)
        rw [Double.render, if_pos hcode]
        cases negative with
        | false => exact hbody
        | true => exact asciiLine_cons.mpr ⟨asciiLine_char (by decide), hbody⟩

theorem asciiLine_unitEscape (n : Nat) : (unitEscape n).AsciiLine := by
  unfold unitEscape
  exact asciiLine_cons.mpr ⟨asciiLine_char (by decide),
    asciiLine_cons.mpr ⟨asciiLine_char (by decide), asciiLine_hex 4 n⟩⟩

/-- Everything that is not ASCII, and every control character, is escaped. -/
theorem asciiLine_escape (c : CodePoint) : (escape true c).AsciiLine := by
  have h := escaped_escape true c
  generalize escape true c = t at h ⊢
  cases h with
  | letter s hs =>
      simp only [List.mem_cons, List.not_mem_nil, or_false] at hs
      rcases hs with rfl | rfl | rfl | rfl | rfl | rfl | rfl <;>
        exact asciiLine_ofString (by decide)
  | unit => exact asciiLine_unitEscape c.val
  | pair n m _ => exact asciiLine_append.mpr ⟨asciiLine_unitEscape n, asciiLine_unitEscape m⟩
  | plain hlow hhigh => exact List.forall_mem_singleton.mpr ⟨hlow, hhigh rfl⟩

/-- A string with everything else escaped is one line of ASCII. -/
theorem asciiLine_quote (t : Text) : (quote true t).AsciiLine := by
  unfold quote
  refine asciiLine_cons.mpr ⟨asciiLine_char (by decide), asciiLine_append.mpr
    ⟨?_, asciiLine_ofString (s := "\"") (by decide)⟩⟩
  intro c hc
  obtain ⟨d, -, hc⟩ := List.mem_flatMap.mp hc
  exact asciiLine_escape d c hc

/-! ## Values -/

/-- Every piece of a value on one line is in ASCII. -/
theorem builds_asciiLine : Layout.line.Builds AsciiLine fun _ => True where
  append hs ht := asciiLine_append.mpr ⟨hs, ht⟩
  nothing := List.forall_mem_nil _
  word s hs := by
    simp only [List.mem_cons, List.not_mem_nil, or_false] at hs
    rcases hs with rfl | rfl | rfl | rfl | rfl | rfl | rfl <;>
      exact asciiLine_ofString (by decide)
  comma := asciiLine_ofString (s := ", ") (by decide)
  colon := asciiLine_ofString (s := ": ") (by decide)
  newline _ _ := List.forall_mem_nil _
  closing _ s hs := by
    simp only [List.mem_cons, List.not_mem_nil, or_false] at hs
    rcases hs with rfl | rfl <;> exact asciiLine_ofString (by decide)
  int := asciiLine_ofInt
  num := asciiLine_render
  str t _ := asciiLine_quote t

theorem Value.asciiLine_line (v : Value) : v.line.AsciiLine :=
  builds_asciiLine.render 0 v (v.texts_of_forall fun _ => trivial)

theorem separates_line : Layout.line.Separates :=
  ⟨⟨[' '], fun _ hc => .inl (List.mem_singleton.mp hc), rfl⟩,
    ⟨[' '], fun _ hc => .inl (List.mem_singleton.mp hc), rfl⟩⟩

/-- On one line every value reads back that has no surrogate pairs. -/
theorem Value.line_document {v : Value} (hv : v.Strict) (ht : v.Texts Unpaired) :
    Document v.line v :=
  ⟨[], v.line, [], .nil,
    render_derives separates_line 0 v hv (ht.imp fun _ => chars_of_unpaired), .nil, by simp⟩

end Json

/-- A value on one line reads back, unless a text of it holds both halves of a pair. -/
theorem Payload.parse_line {v : Json.Value} (hv : v.Strict) (ht : v.Texts Unpaired) :
    Payload.parse v.line = .ok v :=
  parse_eq_ok_iff.mpr (v.line_document hv ht)

end JsonTap
