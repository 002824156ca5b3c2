import JsonTap.Proofs.Json.Encodable
import JsonTap.Proofs.Json.Soundness

/-!
# What a refusal names

The parser stops at a constant that JSON does not have, at a number that it read, or at a key
(`parse_named`). The constants and the numbers are ASCII, and a message quotes what it names, so a
refusal can be told in UTF-8 unless the key that is there twice has surrogates
(`encodable_refusalDetails_iff`).
-/

namespace JsonTap

open Utf8

/-! ## Quoted texts -/

namespace Unicode

/-- The range of the code points that are no characters, with the surrogates in it. -/
theorem surrogates_unprintable : ((0xD7FC, 0xF8FF) : Nat × Nat) ∈ unprintable := by
  decide +kernel

theorem not_isSurrogate_of_isPrintable {c : CodePoint} (h : isPrintable c = true) :
    c.isSurrogate = false := by
  by_contra hc
  rw [Bool.not_eq_false, CodePoint.isSurrogate, Bool.and_eq_true, decide_eq_true_eq,
    decide_eq_true_eq] at hc
  have hin : unprintable.contains c = true := by
    refine List.any_eq_true.mpr ⟨_, surrogates_unprintable, ?_⟩
    rw [Bool.and_eq_true, decide_eq_true_eq, decide_eq_true_eq]
    dsimp only
    omega
  rw [isPrintable, if_neg (by omega), hin] at h
  cases h

end Unicode

namespace Text

theorem encodable_numberEscape (letter : Char) (w n : Nat) :
    Encodable (numberEscape letter w n) :=
  encodable_cons.mpr ⟨rfl, encodable_cons.mpr ⟨isSurrogate_ofChar letter, encodable_hex w n⟩⟩

theorem encodable_quotedCodePoint {mark : CodePoint} (hm : mark.isSurrogate = false)
    (c : CodePoint) : Encodable (quotedCodePoint mark c) := by
  rw [quotedCodePoint]
  by_cases hmark : (decide (c = mark) || decide (c = '\\')) = true
  · rw [if_pos hmark]
    have hc : c.isSurrogate = false := by
      rcases Bool.or_eq_true_iff.mp hmark with h | h
      · rw [of_decide_eq_true h]
        exact hm
      · rw [of_decide_eq_true h]
        rfl
    exact encodable_cons.mpr ⟨rfl, encodable_cons.mpr ⟨hc, encodable_nil⟩⟩
  rw [if_neg hmark]
  iterate 3 refine encodable_ite (encodable_ofString _) ?_
  by_cases hprint : Unicode.isPrintable c = true
  · rw [if_pos hprint]
    exact encodable_cons.mpr ⟨Unicode.not_isSurrogate_of_isPrintable hprint, encodable_nil⟩
  · rw [if_neg hprint]
    exact encodable_ite (encodable_numberEscape _ _ _)
      (encodable_ite (encodable_numberEscape _ _ _) (encodable_numberEscape _ _ _))

/-- Whatever a text holds, it is quoted without surrogates. -/
theorem encodable_quoted (t : Text) : Encodable (quoted t) := by
  have hm : (quoteMark t).isSurrogate = false := by
    rw [quoteMark]
    split <;> rfl
  refine encodable_cons.mpr ⟨hm, encodable_append.mpr ⟨?_, encodable_cons.mpr ⟨hm, encodable_nil⟩⟩⟩
  intro x hx
  obtain ⟨c, -, hxc⟩ := List.mem_flatMap.mp hx
  exact encodable_quotedCodePoint hm c x hxc

end Text

namespace Json

open Grammar Numeral

/-! ## What a stop names -/

/-- What a refusal names apart from keys: a constant that JSON does not have, or a number with a
fraction or an exponent that is too great. -/
def Refusal.Named : Refusal → Prop
  | .constant name => (name, Word.foreign) ∈ words
  | .outOfRange literal =>
    ∃ n : Numeral, IsNumber n ∧ n.isInteger = false ∧ n.double.isInfinite = true ∧
      literal = n.text
  | _ => True

/-- `Refusal.Named` for what ends the reading early. -/
def Stop.Named (e : Stop) : Prop := ∀ whole, (e.toRefusal whole).Named

theorem named_syntaxFault (fault : SyntaxFault) (rest : Text) :
    (Stop.syntaxFault fault rest).Named := fun _ => trivial

theorem bind_eq_error {α β : Type} {x : Except Stop α} {f : α → Except Stop β} {e : Stop}
    (h : x.bind f = .error e) : x = .error e ∨ ∃ a, x = .ok a ∧ f a = .error e := by
  cases x with
  | error e' =>
      cases h
      exact .inl rfl
  | ok a => exact .inr ⟨a, rfl, h⟩

theorem map_eq_error {α β : Type} {x : Except Stop α} {f : α → β} {e : Stop}
    (h : x.map f = .error e) : x = .error e := by
  cases x with
  | error e' =>
      cases h
      rfl
  | ok a => cases h

theorem named_afterQuote {opening r : Text} {e : Stop} (h : afterQuote opening r = .error e) :
    e.Named := by
  rw [afterQuote] at h
  split at h
  · cases h
  · next fault _ =>
      cases h
      cases fault <;> exact named_syntaxFault _ _

theorem named_string {fault : SyntaxFault} {s : Text} {e : Stop}
    (h : bare (string fault s) = .error e) : e.Named := by
  cases s with
  | nil =>
      cases h
      exact named_syntaxFault _ _
  | cons c s =>
      rw [bare_string_cons] at h
      split at h
      · exact named_afterQuote h
      · cases h
        exact named_syntaxFault _ _

theorem named_colon {s : Text} {e : Stop} (h : bare (colon s) = .error e) : e.Named := by
  rw [bare_colon] at h
  split at h
  · cases h
    exact named_syntaxFault _ _
  · split at h
    · cases h
    · cases h
      exact named_syntaxFault _ _

theorem named_number {s : Text} {e : Stop} (h : number s = .error e) : e.Named := by
  rw [number] at h
  split at h
  · cases h
    exact named_syntaxFault _ _
  · next n rest hn =>
      split at h
      · cases h
      · next hi =>
          split at h
          · next hd =>
              cases h
              exact fun _ => ⟨n, (scan?_sound hn).2, Bool.not_eq_true _ ▸ hi, hd, rfl⟩
          · cases h

theorem named_scalar {s : Text} {e : Stop} (h : scalar s = .error e) : e.Named := by
  rw [scalar] at h
  split at h
  · cases h
  · next name hf =>
      cases h
      exact fun _ => List.mem_of_find?_eq_some hf
  · exact named_number h

theorem named_closeObject {ms : List (Text × Value)} {e : Stop}
    (h : closeObject ms = .error e) : e.Named := by
  rw [closeObject] at h
  split at h
  · cases h
    exact fun _ => trivial
  · cases h

/-- What follows an item or a member stops by itself, or where more of the same does. -/
theorem afterOne_stop {α : Type} {close : CodePoint} {more : Text → Except Stop (List α × Text)}
    {x : α} {rest : Text} {e : Stop} (h : afterOne close more x rest = .error e) :
    e.Named ∨ ∃ u, u.length < rest.length ∧ more u = .error e := by
  rw [afterOne] at h
  split at h
  · cases h
    exact .inl (named_syntaxFault _ _)
  · next c t hc =>
      have hrest := skipBlanks_length rest
      have ht := skipBlanks_length t
      rw [hc, List.length_cons] at hrest
      split at h
      · cases h
      · split at h
        · exact .inr ⟨skipBlanks t, by omega, map_eq_error h⟩
        · cases h
          exact .inl (named_syntaxFault _ _)

mutual

theorem value_named {s : Text} {e : Stop} (h : bare (value s) = .error e) : e.Named := by
  match s with
  | [] =>
      rw [bare_value_nil] at h
      cases h
      exact named_syntaxFault _ _
  | c :: s =>
      have hle := skipBlanks_length s
      by_cases hquote : c = '"'
      · subst hquote
        rw [bare_value_quote] at h
        exact named_afterQuote (map_eq_error h)
      by_cases hbracket : c = '['
      · subst hbracket
        rw [bare_value_bracket] at h
        split at h
        · cases h
        · exact items_named (map_eq_error h)
      by_cases hbrace : c = '{'
      · subst hbrace
        rw [bare_value_brace] at h
        split at h
        · cases h
        · rcases bind_eq_error h with hm | ⟨x, -, hx⟩
          · exact members_named hm
          · exact named_closeObject (map_eq_error hx)
      rw [bare_value_scalar hquote hbracket hbrace] at h
      exact named_scalar h
termination_by (s.length, 0)

theorem items_named {s : Text} {e : Stop} (h : bare (items s) = .error e) : e.Named := by
  rw [bare_items] at h
  rcases bind_eq_error h with hv | ⟨⟨v, rest⟩, hv, ho⟩
  · exact value_named hv
  · have hlt : rest.length < s.length := bare_shorter hv
    rcases afterOne_stop ho with hstop | ⟨u, hu, hmore⟩
    · exact hstop
    · exact items_named hmore
termination_by (s.length, 1)
decreasing_by
  · exact Prod.Lex.right _ (by omega)
  · exact Prod.Lex.left _ _ (Nat.lt_trans hu hlt)

theorem members_named {s : Text} {e : Stop} (h : bare (members s) = .error e) : e.Named := by
  rw [bare_members] at h
  rcases bind_eq_error h with hk | ⟨⟨k, r1⟩, hk, h⟩
  · exact named_string hk
  rcases bind_eq_error h with hc | ⟨⟨d, r2⟩, hc, h⟩
  · exact named_colon hc
  have h1 : r1.length < s.length := bare_shorter hk
  have h2 : r2.length < r1.length := bare_shorter hc
  rcases bind_eq_error h with hv | ⟨⟨v, rest⟩, hv, ho⟩
  · exact value_named hv
  · have h3 : rest.length < r2.length := bare_shorter hv
    rcases afterOne_stop ho with hstop | ⟨u, hu, hmore⟩
    · exact hstop
    · exact members_named hmore
termination_by (s.length, 1)
decreasing_by
  · exact Prod.Lex.left _ _ (Nat.lt_trans h2 h1)
  · exact Prod.Lex.left _ _ (Nat.lt_trans hu (Nat.lt_trans h3 (Nat.lt_trans h2 h1)))

end

/-- A text is refused for a constant that JSON does not have, for a number that is too great, for a
key, or for its syntax. -/
theorem parse_named {s : Text} {r : Refusal} (h : parse s = .error r) : r.Named := by
  rw [parse] at h
  split at h
  · next e hv =>
      cases h
      exact value_named (congrArg bare hv) s
  · split at h
    · cases h
    · cases h
      exact trivial

theorem parse_of_stop {s : Text} {e : Stop} (h : bare (value (skipBlanks s)) = .error e) :
    parse s = .error (e.toRefusal s) := by
  rw [parse]
  cases hv : value (skipBlanks s) with
  | error e' =>
      rw [hv] at h
      cases h
      rfl
  | ok p =>
      rw [hv] at h
      cases h

/-- An object of the grammar but for its keys is refused for the first key that is there twice. -/
theorem parse_duplicateKey {t : Text} {ms : List (Text × Value)} {k : Text} (hm : Members t ms)
    (hk : duplicate? [] ms = some k) :
    parse (('{' : CodePoint) :: (t ++ [('}' : CodePoint)])) = .error (.duplicateKey k) := by
  refine parse_of_stop (e := .duplicateKey k) ?_
  rw [skipBlanks_cons (by decide), bare_value_brace, if_neg hm.form.front, Members.read hm]
  simp only [Except.bind, closeObject, hk]
  rfl

/-! ## What a refusal says -/

theorem Numeral.encodable_text {n : Numeral} (h : IsNumber n) : Encodable n.text := by
  rw [text_eq]
  refine encodable_append.mpr ⟨encodable_ite (encodable_ofString "-") encodable_nil,
    encodable_append.mpr ⟨.of_digits (digits_whole h).2, encodable_append.mpr
      ⟨encodable_ite encodable_nil (encodable_cons.mpr ⟨rfl, .of_digits h.fraction⟩), ?_⟩⟩⟩
  cases hx : n.exponent with
  | none => exact encodable_nil
  | some x =>
      obtain ⟨hmark, hsign, hdigits⟩ := h.exponent x hx
      refine encodable_cons.mpr ⟨?_, encodable_append.mpr ⟨?_, .of_digits hdigits.2⟩⟩
      · rcases hmark with hmark | hmark <;> rw [hmark] <;> rfl
      · intro c hc
        rcases hsign c (Option.mem_toList.mp hc) with rfl | rfl <;> rfl

theorem encodable_foreign {name : Text} (h : (name, Word.foreign) ∈ words) : Encodable name := by
  simp only [words, List.mem_cons, List.not_mem_nil, or_false, Prod.mk.injEq, reduceCtorEq,
    and_false, and_true, false_or] at h
  rcases h with rfl | rfl | rfl <;> exact encodable_ofString _

theorem SyntaxFault.encodable_message (fault : SyntaxFault) : Encodable fault.message := by
  cases fault <;> exact encodable_ofString _

/-- The message of a refusal quotes what it names. -/
theorem Refusal.encodable_message (r : Refusal) : Encodable r.message := by
  cases r with
  | malformed fault place => exact fault.encodable_message
  | constant name =>
      exact encodable_append.mpr ⟨encodable_ofString _, Text.encodable_quoted name⟩
  | duplicateKey key =>
      exact encodable_append.mpr ⟨encodable_ofString _, Text.encodable_quoted key⟩
  | outOfRange literal =>
      exact encodable_append.mpr ⟨encodable_append.mpr
        ⟨encodable_ofString _, Text.encodable_quoted literal⟩, encodable_ofString _⟩

end Json

end JsonTap
