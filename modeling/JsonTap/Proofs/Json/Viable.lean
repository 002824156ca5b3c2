import JsonTap.Proofs.Json.Refusals

/-!
# What is read before a syntax fault

The parser has no need to look back: up to the place of a syntax fault, a text can be gone on with
to one that JSON's syntax allows (`parse_viable`). A missing value can be `null`, a missing member
can be one with an empty key, a string can be ended with a quote and whatever is open can be closed.
It may be that a key is then there twice, or that a number is too great, but these are no matters of
syntax.
-/

namespace JsonTap.Json

open Grammar

/-! ## Texts that can be gone on with -/

/-- What `s` has in front of `rest` can be gone on with to a text that is `P`. -/
def Viable (P : Text → Prop) (s rest : Text) : Prop :=
  ∃ before tail, s = before ++ rest ∧ P (before ++ tail)

theorem Viable.here {P : Text → Prop} {tail rest : Text} (h : P tail) : Viable P rest rest :=
  ⟨[], tail, rfl, h⟩

/-- A part of a text is gone on with as the text is, if something can stand around it. -/
theorem Viable.after {P Q : Text → Prop} {s rest : Text} (a b : Text)
    (hPQ : ∀ t, P t → Q (a ++ (t ++ b))) (h : Viable P s rest) : Viable Q (a ++ s) rest := by
  obtain ⟨before, tail, rfl, ht⟩ := h
  refine ⟨a ++ before, tail ++ b, by rw [List.append_assoc], ?_⟩
  have hQ := hPQ _ ht
  rwa [List.append_assoc, ← List.append_assoc] at hQ

/-! ## Texts that the syntax allows -/

namespace Grammar

theorem Plain.nil : Plain [] := nofun

theorem plain_behind_iff {n : Nat} {os : List Offence} : Plain (behind n os) ↔ Plain os :=
  List.forall_mem_map

theorem plain_append_iff {os os' : List Offence} :
    Plain (os ++ os') ↔ Plain os ∧ Plain os' :=
  List.forall_mem_append

/-- A value that the syntax allows. -/
def PlainForm (t : Text) : Prop := ∃ os, Form t os ∧ Plain os

/-- The items of an array, each of which the syntax allows. -/
def PlainItems (t : Text) : Prop := ∃ os, ItemForms t os ∧ Plain os

/-- A member that the syntax allows. -/
def PlainMember (t : Text) : Prop := ∃ key os, MemberForm t key os ∧ Plain os

/-- The members of an object, each of which the syntax allows. -/
def PlainMembers (t : Text) : Prop := ∃ ks os, MemberForms t ks os ∧ Plain os

theorem Derives.plainForm {t : Text} {v : Value} (h : Derives t v) : PlainForm t :=
  ⟨[], h.form, .nil⟩

theorem PlainForm.array {s : Text} (h : PlainItems s) :
    PlainForm (('[' : CodePoint) :: (s ++ [(']' : CodePoint)])) := by
  obtain ⟨os, hs, hos⟩ := h
  exact ⟨_, .array hs, plain_behind_iff.mpr hos⟩

theorem PlainForm.object {s : Text} (h : PlainMembers s) :
    PlainForm (('{' : CodePoint) :: (s ++ [('}' : CodePoint)])) := by
  obtain ⟨ks, os, hs, hos⟩ := h
  rcases nodup_or_firstRepeat ks with hn | ⟨k, hk⟩
  · exact ⟨_, .object hs hn, plain_behind_iff.mpr hos⟩
  · refine ⟨_, .repeating hs hk, plain_append_iff.mpr ⟨plain_behind_iff.mpr hos, ?_⟩⟩
    intro o ho name
    rw [List.mem_singleton.mp ho]
    exact nofun

theorem PlainItems.one {a s b : Text} (ha : Blanks a) (hs : PlainForm s) (hb : Blanks b) :
    PlainItems (a ++ (s ++ b)) := by
  obtain ⟨os, hs, hos⟩ := hs
  exact ⟨_, .one ha hs hb, plain_behind_iff.mpr hos⟩

theorem PlainItems.cons {a s b r : Text} (ha : Blanks a) (hs : PlainForm s) (hb : Blanks b)
    (hr : PlainItems r) : PlainItems (a ++ (s ++ (b ++ (',' : CodePoint) :: r))) := by
  obtain ⟨os, hs, hos⟩ := hs
  obtain ⟨os', hr, hos'⟩ := hr
  refine ⟨_, .cons ha hs hb hr, plain_append_iff.mpr ?_⟩
  exact ⟨plain_behind_iff.mpr hos, plain_behind_iff.mpr hos'⟩

theorem PlainItems.blanks {w s : Text} (hw : Blanks w) (h : PlainItems s) :
    PlainItems (w ++ s) := by
  obtain ⟨os, hs, hos⟩ := h
  cases hs with
  | one ha hv hb =>
      rw [← List.append_assoc]
      exact .one (hw.append ha) ⟨_, hv, plain_behind_iff.mp hos⟩ hb
  | cons ha hv hb hr =>
      obtain ⟨hv', hr'⟩ := plain_append_iff.mp hos
      rw [← List.append_assoc]
      exact .cons (hw.append ha) ⟨_, hv, plain_behind_iff.mp hv'⟩ hb
        ⟨_, hr, plain_behind_iff.mp hr'⟩

theorem PlainMember.mk {a k b c s d key : Text} (ha : Blanks a) (hk : Chars k key)
    (hb : Blanks b) (hc : Blanks c) (hs : PlainForm s) (hd : Blanks d) :
    PlainMember (a ++ ('"' : CodePoint) :: (k ++ ('"' : CodePoint) ::
      (b ++ (':' : CodePoint) :: (c ++ (s ++ d))))) := by
  obtain ⟨os, hs, hos⟩ := hs
  exact ⟨_, _, .mk ha hk hb hc hs hd, plain_behind_iff.mpr hos⟩

theorem PlainMember.blanks {w s : Text} (hw : Blanks w) (h : PlainMember s) :
    PlainMember (w ++ s) := by
  obtain ⟨key, os, hs, hos⟩ := h
  cases hs with
  | mk ha hk hb hc hv hd =>
      rw [← List.append_assoc]
      exact .mk (hw.append ha) hk hb hc ⟨_, hv, plain_behind_iff.mp hos⟩ hd

theorem PlainMembers.one {s : Text} (h : PlainMember s) : PlainMembers s := by
  obtain ⟨key, os, hs, hos⟩ := h
  exact ⟨_, _, .one hs, hos⟩

theorem PlainMembers.cons {s r : Text} (h : PlainMember s) (hr : PlainMembers r) :
    PlainMembers (s ++ (',' : CodePoint) :: r) := by
  obtain ⟨key, os, hs, hos⟩ := h
  obtain ⟨ks, os', hr, hos'⟩ := hr
  exact ⟨_, _, .cons hs hr, plain_append_iff.mpr ⟨hos, plain_behind_iff.mpr hos'⟩⟩

theorem PlainMembers.blanks {w s : Text} (hw : Blanks w) (h : PlainMembers s) :
    PlainMembers (w ++ s) := by
  obtain ⟨ks, os, hs, hos⟩ := h
  cases hs with
  | one hm => exact .one (.blanks hw ⟨_, _, hm, hos⟩)
  | cons hm hr =>
      obtain ⟨hm', hr'⟩ := plain_append_iff.mp hos
      rw [← List.append_assoc]
      exact .cons (.blanks hw ⟨_, _, hm, hm'⟩) ⟨_, _, hr, plain_behind_iff.mp hr'⟩

end Grammar

/-! ## Strings -/

/-- What stands behind the opening quote of a string, with the quote that ends it. -/
def Ended (t : Text) : Prop := ∃ b ps, Spelled b ps ∧ t = b ++ [('"' : CodePoint)]

theorem Ended.nil : Ended [('"' : CodePoint)] := ⟨[], [], .nil, rfl⟩

/-- A backslash alone goes on with a quote that does not end the string. -/
theorem Ended.escaped : Ended [('\\' : CodePoint), ('"' : CodePoint), ('"' : CodePoint)] :=
  ⟨_, _, .simple .quote .nil, rfl⟩

theorem Ended.plainForm {t : Text} (h : Ended t) : PlainForm (('"' : CodePoint) :: t) := by
  obtain ⟨b, ps, hs, rfl⟩ := h
  exact (Derives.string hs.chars).plainForm

/-- A string that is ended is the key of a member. -/
theorem Ended.member {t : Text} (h : Ended t) :
    PlainMember (('"' : CodePoint) :: (t ++ Text.ofString ":null")) := by
  obtain ⟨b, ps, hs, rfl⟩ := h
  rw [List.append_assoc]
  exact .mk .nil hs.chars .nil .nil Derives.nullWord.plainForm .nil

/-- A fault of a string is in front of what cannot go on, or, if the string does not end, at its
opening quote. -/
theorem scanString_viable {opening s rest : Text} {acc : List Piece} {e : StringFault}
    {fault : SyntaxFault} (h : scanString s acc = .error e)
    (he : e.toStop opening = .syntaxFault fault rest) :
    rest = opening ∨ Viable Ended s rest := by
  fun_induction scanString s acc with
  | case1 | case3 =>
      cases h
      cases he
      exact .inl rfl
  | case2 => cases h
  | case4 acc x y z w q more u hu _ ih =>
      refine (ih h).imp_right (.after [_, _, _, _, _, _] [] ?_)
      rintro t ⟨b, ps, hs, rfl⟩
      refine ⟨_, _, .unit (unit?_eq_some_iff.mp hu) hs, ?_⟩
      rw [List.append_nil, List.append_assoc]
  | case5 | case6 =>
      -- the fault is at the letter, so that the backslash is kept
      cases h
      cases he
      exact .inr ⟨[('\\' : CodePoint)], _, rfl, .escaped⟩
  | case7 acc e' r' _ x hx _ ih =>
      refine (ih h).imp_right (.after [_, _] [] ?_)
      rintro t ⟨b, ps, hs, rfl⟩
      exact ⟨_, _, .simple (simpleEscape?_eq_some_iff.mp hx) hs, by simp⟩
  | case8 | case9 =>
      cases h
      cases he
      exact .inr (.here .nil)
  | case10 c r' acc hq hb hc ih =>
      refine (ih h).imp_right (.after [c] [] ?_)
      rintro t ⟨b, ps, hs, rfl⟩
      exact ⟨_, _, .plain (Nat.le_of_not_lt hc) hq hb hs, by simp⟩

theorem afterQuote_viable {r rest : Text} {fault : SyntaxFault}
    (h : afterQuote (('"' : CodePoint) :: r) r = .error (.syntaxFault fault rest)) :
    rest = ('"' : CodePoint) :: r ∨ Viable Ended r rest := by
  rw [afterQuote] at h
  split at h
  · cases h
  · next e he => exact scanString_viable he (Except.error.inj h)

/-! ## Keys and colons -/

theorem key_viable {fault fault' : SyntaxFault} {s rest : Text}
    (h : bare (string fault s) = .error (.syntaxFault fault' rest)) :
    Viable PlainMember s rest := by
  have missing : Viable PlainMember rest rest := .here Ended.nil.member
  cases s with
  | nil =>
      cases h
      exact missing
  | cons c s =>
      rw [bare_string_cons] at h
      split at h
      · next hc =>
          subst hc
          rcases afterQuote_viable h with rfl | hv
          · exact missing
          · exact hv.after [('"' : CodePoint)] (Text.ofString ":null") fun t ht => ht.member
      · cases h
        exact missing

theorem colon_viable {fault fault' : SyntaxFault} {s key r rest : Text}
    (hk : bare (string fault s) = .ok (key, r))
    (h : bare (colon r) = .error (.syntaxFault fault' rest)) : Viable PlainMember s rest := by
  obtain ⟨k, hkey, hs⟩ := bare_string_sound hk
  obtain ⟨b, hb, hr⟩ := skipBlanks_sound r
  have hrest : rest = skipBlanks r := by
    rw [bare_colon] at h
    split at h
    · next hnil =>
        cases h
        exact hnil.symm
    · next c t hc =>
        split at h
        · cases h
        · cases h
          exact hc.symm
  refine ⟨('"' : CodePoint) :: (k ++ ('"' : CodePoint) :: b), Text.ofString ":null", ?_, ?_⟩
  · rw [List.cons_append, List.append_assoc, List.cons_append, hrest, ← hr]
    exact hs
  · rw [List.cons_append, List.append_assoc, List.cons_append]
    exact .mk .nil hkey hb .nil Derives.nullWord.plainForm .nil

/-- What is read in front of a value makes a member of every value. -/
theorem key_and_colon_sound {fault : SyntaxFault} {s key r r' : Text} {x : Unit}
    (hk : bare (string fault s) = .ok (key, r)) (hc : bare (colon r) = .ok (x, r')) :
    ∃ m, s = m ++ r' ∧ ∀ t e, PlainForm t → Blanks e → PlainMember (m ++ (t ++ e)) := by
  obtain ⟨k, hkey, hs⟩ := bare_string_sound hk
  obtain ⟨b, c, hb, hcb, hr⟩ := bare_colon_sound hc
  refine ⟨('"' : CodePoint) :: (k ++ ('"' : CodePoint) :: (b ++ (':' : CodePoint) :: c)), ?_, ?_⟩
  · rw [List.cons_append, List.append_assoc, List.cons_append, List.append_assoc,
      List.cons_append, ← hr]
    exact hs
  · intro t e ht he
    rw [List.cons_append, List.append_assoc, List.cons_append, List.append_assoc,
      List.cons_append]
    exact .mk .nil hkey hb hcb ht he

/-! ## Values -/

theorem scalar_fault {s rest : Text} {fault : SyntaxFault}
    (h : scalar s = .error (.syntaxFault fault rest)) : rest = s := by
  rw [scalar] at h
  split at h
  · cases h
  · cases h
  · rw [number] at h
    split at h
    · cases h
      rfl
    · split at h
      · cases h
      · split at h <;> cases h

theorem closeObject_ne_fault {ms : List (Text × Value)} {rest : Text} {fault : SyntaxFault} :
    closeObject ms ≠ .error (.syntaxFault fault rest) := by
  intro h
  rw [closeObject] at h
  split at h <;> cases h

/-- What follows an item or a member `t` has a fault behind its blanks, or where more of the same
does. -/
theorem afterOne_viable {α : Type} {close : CodePoint}
    {more : Text → Except Stop (List α × Text)} {x : α} {t s rest : Text} {fault : SyntaxFault}
    {P : Text → Prop} (h : afterOne close more x s = .error (.syntaxFault fault rest))
    (hend : ∀ b, Blanks b → P (t ++ b))
    (hcomma : ∀ b a t', Blanks b → Blanks a → P t' →
      P (t ++ (b ++ (',' : CodePoint) :: (a ++ t'))))
    (hmore : ∀ u, u.length < s.length → more u = .error (.syntaxFault fault rest) →
      Viable P u rest) :
    Viable P (t ++ s) rest := by
  obtain ⟨b, hb, hs⟩ := skipBlanks_sound s
  have behindBlanks : s = b ++ rest → Viable P (t ++ s) rest := by
    intro hrest
    refine ⟨t ++ b, [], by rw [hrest, List.append_assoc], ?_⟩
    rw [List.append_nil]
    exact hend b hb
  rw [afterOne] at h
  split at h
  · next hnil =>
      cases h
      exact behindBlanks (by rw [← hnil]; exact hs)
  · next c r hc =>
      rw [hc] at hs
      split at h
      · cases h
      · split at h
        · next hcm =>
            obtain ⟨a, ha, hr⟩ := skipBlanks_sound r
            have hlt : (skipBlanks r).length < s.length := by
              have hle := skipBlanks_length r
              rw [hs, List.length_append, List.length_cons]
              omega
            have hsplit : t ++ s =
                (t ++ (b ++ (',' : CodePoint) :: a)) ++ skipBlanks r := by
              rw [List.append_assoc, List.append_assoc, List.cons_append, ← hr, ← hcm, ← hs]
            rw [hsplit]
            -- behind a comma something has to follow, which `more` was about to read
            refine (hmore _ hlt (map_eq_error h)).after _ [] ?_
            intro t' ht'
            rw [List.append_nil, List.append_assoc, List.append_assoc, List.cons_append]
            exact hcomma b a t' hb ha ht'
        · cases h
          exact behindBlanks hs

mutual

theorem value_viable {s rest : Text} {fault : SyntaxFault}
    (h : bare (value s) = .error (.syntaxFault fault rest)) : Viable PlainForm s rest := by
  -- where a value is missing, a word can stand
  have missing : Viable PlainForm rest rest := .here Derives.nullWord.plainForm
  match s with
  | [] =>
      rw [bare_value_nil] at h
      cases h
      exact missing
  | c :: s =>
      obtain ⟨w, hw, hs⟩ := skipBlanks_sound s
      have hle := skipBlanks_length s
      by_cases hquote : c = '"'
      · subst hquote
        rw [bare_value_quote] at h
        rcases afterQuote_viable (map_eq_error h) with rfl | hv
        · exact missing
        · refine hv.after [('"' : CodePoint)] [] ?_
          intro t ht
          rw [List.append_nil]
          exact ht.plainForm
      by_cases hbracket : c = '['
      · subst hbracket
        rw [bare_value_bracket] at h
        split at h
        · cases h
        · have hv := items_viable (map_eq_error h)
          rw [hs]
          refine hv.after (('[' : CodePoint) :: w) [(']' : CodePoint)] ?_
          intro t ht
          rw [List.cons_append, ← List.append_assoc]
          exact .array (ht.blanks hw)
      by_cases hbrace : c = '{'
      · subst hbrace
        rw [bare_value_brace] at h
        split at h
        · cases h
        · rcases bind_eq_error h with hm | ⟨x, -, hx⟩
          · have hv := members_viable hm
            rw [hs]
            refine hv.after (('{' : CodePoint) :: w) [('}' : CodePoint)] ?_
            intro t ht
            rw [List.cons_append, ← List.append_assoc]
            exact .object (ht.blanks hw)
          · exact absurd (map_eq_error hx) closeObject_ne_fault
      rw [bare_value_scalar hquote hbracket hbrace] at h
      obtain rfl := scalar_fault h
      exact missing
termination_by (s.length, 0)

theorem items_viable {s rest : Text} {fault : SyntaxFault}
    (h : bare (items s) = .error (.syntaxFault fault rest)) : Viable PlainItems s rest := by
  rw [bare_items] at h
  rcases bind_eq_error h with hv | ⟨⟨v, r⟩, hv, ho⟩
  · -- the item with the fault can be the last one
    refine (value_viable hv).after [] [] ?_
    intro t ht
    exact .one .nil ht .nil
  · have hlt : r.length < s.length := bare_shorter hv
    obtain ⟨t, ht, hs⟩ := value_sound hv
    rw [hs]
    refine afterOne_viable ho ?_ ?_ ?_
    · intro b hb
      exact .one .nil ht.plainForm hb
    · intro b a t' hb ha ht'
      exact .cons .nil ht.plainForm hb (ht'.blanks ha)
    · intro u hu hmore
      exact items_viable hmore
termination_by (s.length, 1)
decreasing_by
  · exact Prod.Lex.right _ (by omega)
  · exact Prod.Lex.left _ _ (Nat.lt_trans hu hlt)

theorem members_viable {s rest : Text} {fault : SyntaxFault}
    (h : bare (members s) = .error (.syntaxFault fault rest)) : Viable PlainMembers s rest := by
  have alone : Viable PlainMember s rest → Viable PlainMembers s rest := by
    refine Viable.after [] [] ?_
    intro t ht
    rw [List.append_nil]
    exact .one ht
  rw [bare_members] at h
  rcases bind_eq_error h with hk | ⟨⟨key, r1⟩, hk, h⟩
  · exact alone (key_viable hk)
  rcases bind_eq_error h with hc | ⟨⟨d, r2⟩, hc, h⟩
  · exact alone (colon_viable hk hc)
  have h1 : r1.length < s.length := bare_shorter hk
  have h2 : r2.length < r1.length := bare_shorter hc
  obtain ⟨m, hs, member⟩ := key_and_colon_sound hk hc
  rw [hs]
  -- the value is at fault, or what follows it
  rcases bind_eq_error h with hv | ⟨⟨v, r⟩, hv, ho⟩
  · refine (value_viable hv).after m [] ?_
    intro t ht
    exact .one (member t [] ht .nil)
  · have h3 : r.length < r2.length := bare_shorter hv
    obtain ⟨t, ht, hr2⟩ := value_sound hv
    dsimp only at hr2
    rw [hr2, ← List.append_assoc]
    refine afterOne_viable ho ?_ ?_ ?_
    · intro e he
      rw [List.append_assoc]
      exact .one (member t e ht.plainForm he)
    · intro e a t' he ha ht'
      have hcons := PlainMembers.cons (member t e ht.plainForm he) (ht'.blanks ha)
      rwa [← List.append_assoc, List.append_assoc (m ++ t)] at hcons
    · intro u hu hmore
      exact members_viable hmore
termination_by (s.length, 1)
decreasing_by
  · exact Prod.Lex.left _ _ (Nat.lt_trans h2 h1)
  · exact Prod.Lex.left _ _ (Nat.lt_trans hu (Nat.lt_trans h3 (Nat.lt_trans h2 h1)))

end

/-! ## Documents -/

theorem Grammar.PlainForm.syntactic {a t b : Text} (ha : Blanks a) (h : PlainForm t)
    (hb : Blanks b) : Syntactic (a ++ (t ++ b)) := by
  obtain ⟨os, ht, hos⟩ := h
  exact ⟨_, ⟨a, t, b, os, ha, ht, hb, rfl, rfl⟩, plain_behind_iff.mpr hos⟩

theorem toRefusal_syntaxFault {s before rest : Text} (hs : s = before ++ rest)
    (fault : SyntaxFault) :
    (Stop.syntaxFault fault rest).toRefusal s = .malformed fault (Place.after before) := by
  rw [hs, Stop.toRefusal, List.length_append, Nat.add_sub_cancel, List.take_left]

/-- A syntax fault is told with its place, up to which the text begins one that the syntax
allows. -/
theorem parse_viable {s : Text} {fault : SyntaxFault} {place : Place}
    (h : parse s = .error (.malformed fault place)) :
    ∃ before rest, s = before ++ rest ∧ place = Place.after before ∧
      ∃ tail, Syntactic (before ++ tail) := by
  obtain ⟨w, hw, hs⟩ := skipBlanks_sound s
  rw [parse] at h
  split at h
  · next e hv =>
      have he := Except.error.inj h
      cases e with
      | syntaxFault fault' rest =>
          obtain ⟨before, tail, hsplit, ht⟩ := value_viable (congrArg bare hv)
          rw [hsplit, ← List.append_assoc] at hs
          rw [toRefusal_syntaxFault hs] at he
          cases he
          refine ⟨w ++ before, rest, hs, rfl, tail, ?_⟩
          have hdocument := ht.syntactic hw .nil
          rwa [List.append_nil, ← List.append_assoc] at hdocument
      | constant name => cases he
      | duplicateKey key => cases he
      | outOfRange literal => cases he
  · -- a value was read, so the fault is the text behind it
    next p hv =>
      split at h
      · cases h
      · obtain ⟨t, ht, hst⟩ := value_sound (congrArg bare hv)
        obtain ⟨b, hb, hrest⟩ := skipBlanks_sound p.rest
        rw [hst, hrest, ← List.append_assoc, ← List.append_assoc] at hs
        have he := Except.error.inj h
        rw [toRefusal_syntaxFault hs] at he
        cases he
        refine ⟨w ++ t ++ b, _, hs, rfl, [], ?_⟩
        rw [List.append_nil, List.append_assoc]
        exact ht.plainForm.syntactic hw hb

end JsonTap.Json
