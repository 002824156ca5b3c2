import JsonTap.Payload
import JsonTap.Proofs.Json.Form
import JsonTap.Proofs.Json.Soundness

/-!
# What is in the grammar is read by the parser

A text that derives a value is read as it, in front of anything that can follow a value
(`Derives.read`). What follows matters for numbers only, which the parser reads as far as they go.
The proof is by recursion on the length of the text that is derived.

With soundness this gives `parse_iff_document`: the parser returns exactly what the grammar
derives, and refuses everything else.
-/

namespace JsonTap.Json

open Grammar

/-! ## What can follow a value -/

/-- The text is at its end, or goes on with a blank, a comma or a closing mark. -/
def CanFollow (r : Text) : Prop :=
  ∀ c t, r = c :: t → isBlank c = true ∨ c = ',' ∨ c = ']' ∨ c = '}'

/-- What can follow a value does not continue a number. -/
theorem CanFollow.cannotContinue {r : Text} (h : CanFollow r) : Numeral.CannotContinue r := by
  intro c t hr
  rcases h c t hr with hb | rfl | rfl | rfl
  · rcases isBlank_iff.mp hb with rfl | rfl | rfl | rfl <;> decide
  · decide
  · decide
  · decide

theorem CanFollow.blanks_append {d r : Text} (hd : Blanks d) (hr : CanFollow r) :
    CanFollow (d ++ r) := by
  intro c t h
  cases d with
  | nil => exact hr c t h
  | cons x d =>
      rw [← (List.cons.inj h).1]
      exact .inl (isBlank_iff.mpr (hd x List.mem_cons_self))

theorem CanFollow.blanks {b : Text} (hb : Blanks b) : CanFollow b := by
  intro c t h
  exact .inl (isBlank_iff.mpr (hb c (by rw [h]; exact List.mem_cons_self)))

theorem CanFollow.comma (r : Text) : CanFollow ((',' : CodePoint) :: r) := by
  intro c t h
  exact .inr (.inl (List.cons.inj h).1.symm)

theorem CanFollow.bracket (r : Text) : CanFollow ((']' : CodePoint) :: r) := by
  intro c t h
  exact .inr (.inr (.inl (List.cons.inj h).1.symm))

theorem CanFollow.brace (r : Text) : CanFollow (('}' : CodePoint) :: r) := by
  intro c t h
  exact .inr (.inr (.inr (List.cons.inj h).1.symm))

/-! ## How a value begins -/

/-- A number begins with a digit, or with a minus and a digit. -/
theorem Grammar.IsNumber.front {n : Numeral} (h : IsNumber n) :
    ∃ d t, d.isDigit = true ∧ (n.text = d :: t ∨ n.text = ('-' : CodePoint) :: d :: t) := by
  obtain ⟨hne, hd⟩ := Numeral.digits_whole h
  obtain ⟨d, w, hw⟩ := List.exists_cons_of_ne_nil hne
  have hdigit := hd d (by rw [hw]; exact List.mem_cons_self)
  rw [Numeral.text_eq, hw]
  cases n.negative with
  | false => exact ⟨d, _, hdigit, .inl rfl⟩
  | true => exact ⟨d, _, hdigit, .inr rfl⟩

/-- A value begins with something that is no blank and no closing mark. -/
theorem Grammar.Form.front {t : Text} {os : List Offence} (h : Form t os) :
    ∃ c s, t = c :: s ∧ isBlank c = false ∧ c ≠ ']' := by
  have number : ∀ {n : Numeral}, IsNumber n →
      ∃ c s, n.text = c :: s ∧ isBlank c = false ∧ c ≠ ']' := by
    intro n hn
    obtain ⟨d, t, hd, ht | ht⟩ := hn.front
    · refine ⟨d, t, ht, ?_, ?_⟩
      · rw [Bool.eq_false_iff]
        intro hb
        rcases isBlank_iff.mp hb with rfl | rfl | rfl | rfl <;> exact absurd hd (by decide)
      · rintro rfl
        exact absurd hd (by decide)
    · exact ⟨_, _, ht, by decide, by decide⟩
  cases h with
  | nullWord => exact ⟨_, _, rfl, by decide, by decide⟩
  | trueWord => exact ⟨_, _, rfl, by decide, by decide⟩
  | falseWord => exact ⟨_, _, rfl, by decide, by decide⟩
  | foreign hname => cases hname <;> exact ⟨_, _, rfl, by decide, by decide⟩
  | integer hn _ => exact number hn
  | double hn _ _ _ => exact number hn
  | overflow hn _ _ _ => exact number hn
  | string _ => exact ⟨_, _, rfl, by decide, by decide⟩
  | emptyArray _ => exact ⟨_, _, rfl, by decide, by decide⟩
  | array _ => exact ⟨_, _, rfl, by decide, by decide⟩
  | emptyObject _ => exact ⟨_, _, rfl, by decide, by decide⟩
  | object _ _ => exact ⟨_, _, rfl, by decide, by decide⟩
  | repeating _ _ => exact ⟨_, _, rfl, by decide, by decide⟩

/-- Blanks in front of a value are skipped, and nothing else. -/
theorem skipBlanks_form {w t r : Text} {os : List Offence} (hw : Blanks w) (h : Form t os) :
    skipBlanks (w ++ (t ++ r)) = t ++ r := by
  obtain ⟨c, s, rfl, hc, -⟩ := h.front
  rw [skipBlanks_append hw, List.cons_append, skipBlanks_cons hc]

theorem skipBlanks_derives {w t r : Text} {v : Value} (hw : Blanks w) (h : Derives t v) :
    skipBlanks (w ++ (t ++ r)) = t ++ r :=
  skipBlanks_form hw h.form

/-- Items do not begin with the bracket that ends them. -/
theorem Grammar.ItemForms.front {t r : Text} {os : List Offence} (h : ItemForms t os) :
    (skipBlanks (t ++ r)).head? ≠ some (']' : CodePoint) := by
  cases h with
  | one ha hv hb =>
      rw [List.append_assoc, List.append_assoc, skipBlanks_form ha hv]
      obtain ⟨c, s, rfl, -, hc⟩ := hv.front
      simpa using hc
  | cons ha hv hb _ =>
      rw [List.append_assoc, List.append_assoc, skipBlanks_form ha hv]
      obtain ⟨c, s, rfl, -, hc⟩ := hv.front
      simpa using hc

/-- Members do not begin with the brace that ends them. -/
theorem Grammar.MemberForms.front {t r : Text} {ks : List Text} {os : List Offence}
    (h : MemberForms t ks os) : (skipBlanks (t ++ r)).head? ≠ some ('}' : CodePoint) := by
  cases h with
  | one hm =>
      obtain ⟨ha, -, -, -, -, -⟩ := hm
      rw [List.append_assoc, skipBlanks_append ha, List.cons_append, skipBlanks_cons (by decide)]
      exact mt Option.some.inj (by decide)
  | cons hm _ =>
      obtain ⟨ha, -, -, -, -, -⟩ := hm
      rw [List.append_assoc, List.append_assoc, skipBlanks_append ha, List.cons_append,
        skipBlanks_cons (by decide)]
      exact mt Option.some.inj (by decide)

/-! ## Scalars -/

/-- The first code point of a word, a minus sign apart, is no digit. -/
theorem words_front : ∀ w ∈ words,
    (w.1.find? (· != ('-' : CodePoint))).any (fun c => !c.isDigit) = true := by
  decide

/-- No word is at the front of a text that begins as a number does. -/
theorem scalar_eq_number {s t : Text} {d : CodePoint} (hd : d.isDigit = true)
    (hs : s = d :: t ∨ s = ('-' : CodePoint) :: d :: t) : scalar s = number s := by
  have hfirst : s.find? (· != ('-' : CodePoint)) = some d := by
    have hminus := (Numeral.ne_of_isDigit hd).1
    rcases hs with rfl | rfl <;> simp [hminus]
  have hw : words.find? (fun w => w.1.isPrefixOf s) = none := by
    rw [List.find?_eq_none]
    intro w hw hp
    -- after a minus sign a word goes on with a letter, and the text with a digit
    obtain ⟨c, hc, hn⟩ := (Option.any_eq_true _ _).mp (words_front w hw)
    rw [(List.isPrefixOf_iff_prefix.mp hp).find?_eq_some hc] at hfirst
    cases hfirst
    simp [hd] at hn
  rw [scalar, hw]

/-- A number is read to its end, and then sorted by its form and size. -/
theorem scalar_complete {n : Numeral} {r : Text} (hn : IsNumber n) (hr : CanFollow r) :
    scalar (n.text ++ r) =
      if n.isInteger then .ok (.int n.integer, r)
      else if n.double.isInfinite then .error (.outOfRange n.text)
      else .ok (.num n.double, r) := by
  obtain ⟨d, t, hd, ht⟩ := hn.front
  have hs : n.text ++ r = d :: (t ++ r) ∨ n.text ++ r = ('-' : CodePoint) :: d :: (t ++ r) := by
    rcases ht with ht | ht <;> rw [ht]
    · exact .inl rfl
    · exact .inr rfl
  rw [scalar_eq_number hd hs, number, Numeral.scan?_complete hn hr.cannotContinue]

/-- A number is not taken for a string, an array or an object. -/
theorem bare_value_number {n : Numeral} {r : Text} (hn : IsNumber n) :
    bare (value (n.text ++ r)) = scalar (n.text ++ r) := by
  obtain ⟨d, t, hd, ht | ht⟩ := hn.front
  · rw [ht, List.cons_append]
    refine bare_value_scalar ?_ ?_ ?_ <;>
      · rintro rfl
        exact absurd hd (by decide)
  · rw [ht, List.cons_append]
    exact bare_value_scalar (by decide) (by decide) (by decide)

theorem isInfinite_of_isFinite {x : Double} (h : x.isFinite = true) : x.isInfinite = false := by
  cases x with
  | nan => rfl
  | signed negative c =>
      simp only [Double.isFinite, Double.isInfinite, decide_eq_true_eq,
        decide_eq_false_iff_not] at h ⊢
      omega

/-! ## Values -/

/-- With the closing bracket a list ends. -/
theorem afterOne_close {α : Type} {close : CodePoint} {more : Text → Except Stop (List α × Text)}
    {x : α} {b r : Text} (hb : Blanks b) (hc : isBlank close = false) :
    afterOne close more x (b ++ close :: r) = .ok ([x], r) := by
  rw [afterOne, skipBlanks_append hb, skipBlanks_cons hc]
  exact if_pos rfl

/-- After a comma a list goes on. -/
theorem afterOne_comma {α : Type} {close : CodePoint} {more : Text → Except Stop (List α × Text)}
    {x : α} {b u : Text} (hb : Blanks b) (hc : close ≠ ',') :
    afterOne close more x (b ++ (',' : CodePoint) :: u) =
      (more (skipBlanks u)).map fun y => (x :: y.1, y.2) := by
  rw [afterOne, skipBlanks_append hb, skipBlanks_cons (by decide)]
  simp only
  rw [if_neg (Ne.symm hc), if_pos True.intro]

theorem bare_colon_complete {b c r : Text} (hb : Blanks b) :
    bare (colon (b ++ (':' : CodePoint) :: (c ++ r))) = .ok ((), skipBlanks (c ++ r)) := by
  rw [bare_colon, skipBlanks_append hb, skipBlanks_cons (by decide)]
  exact if_pos rfl

/-- A key and its colon are read up to the value behind them. -/
theorem bare_members_key {a k b c u key : Text} (ha : Blanks a) (hk : Chars k key)
    (hb : Blanks b) :
    bare (members (skipBlanks (a ++ ('"' : CodePoint) :: (k ++ ('"' : CodePoint) ::
        (b ++ (':' : CodePoint) :: (c ++ u)))))) =
      (bare (value (skipBlanks (c ++ u)))).bind fun x =>
        afterOne '}' (fun t => bare (members t)) (key, x.1) x.2 := by
  rw [skipBlanks_append ha, skipBlanks_cons (by decide), bare_members, bare_string_cons,
    if_pos rfl, afterQuote_eq_ok_iff.mpr ⟨_, hk, rfl⟩]
  simp only [Except.bind]
  rw [bare_colon_complete hb]

mutual

/-- Every value of the grammar is read. -/
theorem Grammar.Derives.read {t r : Text} {v : Value} (h : Derives t v) (hr : CanFollow r) :
    bare (value (t ++ r)) = .ok (v, r) := by
  match h with
  | .nullWord => exact bare_value_scalar (by decide) (by decide) (by decide)
  | .trueWord => exact bare_value_scalar (by decide) (by decide) (by decide)
  | .falseWord => exact bare_value_scalar (by decide) (by decide) (by decide)
  | .integer hn hi =>
      rw [bare_value_number hn, scalar_complete hn hr, if_pos hi]
  | .double hn hi hx hd =>
      obtain rfl := denotes_iff.mp hx
      rw [bare_value_number hn, scalar_complete hn hr, if_neg (by simp [hi]),
        if_neg (by simp [isInfinite_of_isFinite hd])]
  | .string hs =>
      rw [List.cons_append, List.append_assoc, List.singleton_append, bare_value_quote,
        afterQuote_eq_ok_iff.mpr ⟨_, hs, rfl⟩]
      rfl
  | .emptyArray hw =>
      rw [List.cons_append, List.append_assoc, List.singleton_append, bare_value_bracket,
        skipBlanks_append hw, skipBlanks_cons (by decide)]
      rfl
  -- what begins the items is no closing bracket
  | .array hi =>
      rw [List.cons_append, List.append_assoc, List.singleton_append, bare_value_bracket,
        if_neg hi.form.front, Items.read hi]
      rfl
  | .emptyObject hw =>
      rw [List.cons_append, List.append_assoc, List.singleton_append, bare_value_brace,
        skipBlanks_append hw, skipBlanks_cons (by decide)]
      rfl
  | .object hm hn =>
      rw [List.cons_append, List.append_assoc, List.singleton_append, bare_value_brace,
        if_neg hm.form.front, Members.read hm]
      simp only [Except.bind]
      rw [closeObject_eq_ok_iff.mpr ⟨hn, rfl⟩]
      rfl
termination_by 3 * t.length
decreasing_by all_goals (simp only [List.length_append, List.length_cons]; omega)

theorem Grammar.Items.read {t r : Text} {vs : List Value} (h : Items t vs) :
    bare (items (skipBlanks (t ++ (']' : CodePoint) :: r))) = .ok (vs, r) := by
  match h with
  | .one ha hv hb =>
      rw [List.append_assoc, List.append_assoc, skipBlanks_derives ha hv, bare_items,
        Derives.read hv (.blanks_append hb (.bracket r))]
      simp only [Except.bind]
      exact afterOne_close hb (by decide)
  | .cons ha hv hb hrest =>
      rw [List.append_assoc, List.append_assoc, List.append_assoc, List.cons_append,
        skipBlanks_derives ha hv, bare_items, Derives.read hv (.blanks_append hb (.comma _))]
      simp only [Except.bind]
      rw [afterOne_comma hb (by decide), Items.read hrest]
      rfl
termination_by 3 * t.length + 1
decreasing_by all_goals (simp only [List.length_append, List.length_cons]; omega)

theorem Grammar.Members.read {t r : Text} {ms : List (Text × Value)} (h : Members t ms) :
    bare (members (skipBlanks (t ++ ('}' : CodePoint) :: r))) = .ok (ms, r) := by
  match h with
  | .one hm =>
      obtain ⟨d, hd, hread⟩ := Member.read hm (.brace r)
      rw [hread]
      exact afterOne_close hd (by decide)
  | .cons hm hrest =>
      obtain ⟨d, hd, hread⟩ := Member.read hm (.comma _)
      rw [List.append_assoc, List.cons_append, hread, afterOne_comma hd (by decide),
        Members.read hrest]
      rfl
termination_by 3 * t.length + 2
decreasing_by
  · omega
  · simp only [List.length_append]
    omega
  · simp only [List.length_append, List.length_cons]
    omega

/-- A member is read up to the blanks behind its value. -/
theorem Grammar.Member.read {t r : Text} {m : Text × Value} (h : Member t m) (hr : CanFollow r) :
    ∃ d, Blanks d ∧ bare (members (skipBlanks (t ++ r))) =
      afterOne '}' (fun t => bare (members t)) m (d ++ r) := by
  match h with
  | @Member.mk a k b c s d key v ha hk hb hc hv hd =>
      refine ⟨d, hd, ?_⟩
      rw [List.append_assoc, List.cons_append, List.append_assoc, List.cons_append,
        List.append_assoc, List.cons_append, List.append_assoc, List.append_assoc,
        bare_members_key ha hk hb, skipBlanks_derives hc hv,
        Derives.read hv (.blanks_append hd hr)]
      rfl
termination_by 3 * t.length + 1
decreasing_by all_goals (simp only [List.length_append, List.length_cons]; omega)

end

/-! ## Documents -/

/-- A text is read as a value exactly if it is a document of it. -/
theorem parse_iff_document {s : Text} {v : Value} : parse s = .ok v ↔ Document s v := by
  rw [parse_eq_ok_iff]
  constructor
  · rintro ⟨r, hv, hr⟩
    obtain ⟨a, ha, hs⟩ := skipBlanks_sound s
    obtain ⟨b, hb, hrb⟩ := skipBlanks_sound r
    obtain ⟨t, ht, hst⟩ := value_sound hv
    rw [hr, List.append_nil] at hrb
    exact ⟨a, t, b, ha, ht, hb, by rw [← hrb, ← hst]; exact hs⟩
  · rintro ⟨a, t, b, ha, ht, hb, rfl⟩
    rw [skipBlanks_derives ha ht]
    exact ⟨b, ht.read (.blanks hb), skipBlanks_eq_nil hb⟩

end JsonTap.Json

namespace JsonTap.Payload

open Json.Grammar

theorem parse_eq_ok_iff_json {t : Text} {v : Json.Value} :
    parse t = .ok v ↔ Json.parse t = .ok v := by
  rw [parse]
  cases Json.parse t <;> simp

theorem parse_eq_ok_iff {t : Text} {v : Json.Value} : parse t = .ok v ↔ Document t v :=
  parse_eq_ok_iff_json.trans Json.parse_iff_document

/-- The value of a text is the one that the grammar of strict JSON derives from it. A text from
which it derives none is refused as a malformed body. -/
theorem parse_reads_exactly_the_grammar (t : Text) :
    (∀ v, parse t = .ok v ↔ Document t v) ∧
      ((∃ v, Document t v) ∨ ∃ r, parse t = .error (Fault.malformedBody r)) := by
  refine ⟨fun v => parse_eq_ok_iff, ?_⟩
  cases h : Json.parse t with
  | ok v => exact .inl ⟨v, Json.parse_iff_document.mp h⟩
  | error r => exact .inr ⟨r, by rw [parse, h]⟩

end JsonTap.Payload
