import JsonTap.Proofs.Json.Reading
import JsonTap.Proofs.Json.Number
import JsonTap.Proofs.Json.Strings

/-!
# What the parser reads is in the grammar

What the parser reads as a value stands at the front of the text and derives that value
(`value_sound`), and likewise for the items of an array and the members of an object. The three
are proved together by recursion on the length of the text, as the parser itself goes.
-/

namespace JsonTap.Json

open Grammar

/-! ## Blanks -/

theorem skipBlanks_sound (s : Text) : ∃ w, Blanks w ∧ s = w ++ skipBlanks s := by
  refine ⟨s.takeWhile isBlank, ?_, List.takeWhile_append_dropWhile.symm⟩
  intro c hc
  exact isBlank_iff.mp (List.all_eq_true.mp List.all_takeWhile c hc)

theorem skipBlanks_append {w s : Text} (hw : Blanks w) : skipBlanks (w ++ s) = skipBlanks s :=
  List.dropWhile_append_of_pos fun c hc => isBlank_iff.mpr (hw c hc)

theorem skipBlanks_cons {c : CodePoint} {s : Text} (h : isBlank c = false) :
    skipBlanks (c :: s) = c :: s := by
  rw [skipBlanks, List.dropWhile_cons_of_neg (by simp [h])]

theorem skipBlanks_eq_nil {w : Text} (hw : Blanks w) : skipBlanks w = [] := by
  have h := skipBlanks_append (s := []) hw
  rwa [List.append_nil] at h

/-! ## Soundness -/

theorem afterQuote_eq_ok_iff {o r t rest : Text} :
    afterQuote o r = .ok (t, rest) ↔ ∃ b, Chars b t ∧ r = b ++ ('"' : CodePoint) :: rest := by
  rw [afterQuote]
  constructor
  · intro h
    split at h
    · next ps rest' hs =>
        cases h
        obtain ⟨b, qs, hb, hr, hps⟩ := scanString_sound hs
        rw [List.reverse_nil, List.nil_append] at hps
        exact ⟨b, hps ▸ hb.chars, hr⟩
    · cases h
  · rintro ⟨b, hb, rfl⟩
    obtain ⟨ps, hs, rfl⟩ := hb.spelled
    rw [scanString_complete hs]
    rfl

theorem word_sound : ∀ w ∈ words, ∀ v, w.2 = .known v → Derives w.1 v := by
  intro w hw v hv
  simp only [words, List.mem_cons, List.not_mem_nil, or_false] at hw
  rcases hw with rfl | rfl | rfl | rfl | rfl | rfl <;> cases hv
  · exact .nullWord
  · exact .trueWord
  · exact .falseWord

theorem isFinite_of_denotes {n : Numeral} {x : Double} (hx : Denotes n x)
    (h : x.isInfinite = false) : x.isFinite = true := by
  cases x with
  | nan => exact absurd rfl hx.ne_nan
  | signed negative c =>
      have hc := of_decide_eq_false h
      exact decide_eq_true (by omega)

theorem scalar_sound {s r : Text} {v : Value} (h : scalar s = .ok (v, r)) :
    ∃ t, Derives t v ∧ s = t ++ r := by
  unfold scalar at h
  split at h
  · next name v' hf =>
      cases h
      have hp : name.isPrefixOf s = true :=
        List.find?_some (p := fun w : Text × Word => w.1.isPrefixOf s) hf
      obtain ⟨t, rfl⟩ := List.isPrefixOf_iff_prefix.mp hp
      refine ⟨name, word_sound _ (List.mem_of_find?_eq_some hf) _ rfl, ?_⟩
      rw [List.drop_left]
  · cases h
  · unfold number at h
    split at h
    · cases h
    · next n rest hn =>
        obtain ⟨hs, hnum⟩ := Numeral.scan?_sound hn
        split at h
        · next hi =>
            cases h
            exact ⟨n.text, .integer hnum hi, hs⟩
        · next hi =>
            split at h
            · cases h
            · next hd =>
                cases h
                rw [Bool.not_eq_true] at hi hd
                have hx : Denotes n n.double := denotes_iff.mpr rfl
                exact ⟨n.text, .double hnum hi hx (isFinite_of_denotes hx hd), hs⟩

/-- What follows an item or a member: the closing mark, or a comma and more of the same. -/
theorem afterOne_sound {α : Type} {close : CodePoint} {more : Text → Except Stop (List α × Text)}
    {x : α} {rest r : Text} {ys : List α} (h : afterOne close more x rest = .ok (ys, r)) :
    ∃ b, Blanks b ∧
      (ys = [x] ∧ rest = b ++ close :: r ∨
        ∃ a u zs, Blanks a ∧ rest = b ++ (',' : CodePoint) :: (a ++ u) ∧
          more u = .ok (zs, r) ∧ ys = x :: zs) := by
  obtain ⟨b, hb, hrest⟩ := skipBlanks_sound rest
  refine ⟨b, hb, ?_⟩
  unfold afterOne at h
  split at h
  · cases h
  · next c t hc =>
      rw [hc] at hrest
      split at h
      · next hclose =>
          cases h
          exact .inl ⟨rfl, by rw [← hclose]; exact hrest⟩
      · split at h
        · -- behind a comma `more` has read the rest of the list
          next hcomma =>
            obtain ⟨a, ha, ht⟩ := skipBlanks_sound t
            cases hm : more (skipBlanks t) with
            | error e =>
                rw [hm] at h
                cases h
            | ok p =>
                rw [hm] at h
                cases h
                exact .inr ⟨a, skipBlanks t, p.1, ha, by rw [← hcomma, ← ht]; exact hrest, hm, rfl⟩
        · cases h

/-- An object is closed with the members that were read, whose keys are distinct. -/
theorem closed_sound {ms : List (Text × Value)} {r' r : Text} {v : Value}
    (h : ((closeObject ms).map fun v => (v, r')) = .ok (v, r)) :
    (ms.map (·.1)).Nodup ∧ v = .obj ms ∧ r' = r := by
  cases hc : closeObject ms with
  | error e =>
      rw [hc] at h
      cases h
  | ok v' =>
      rw [hc] at h
      cases h
      obtain ⟨hn, hv⟩ := closeObject_eq_ok_iff.mp hc
      exact ⟨hn, hv, rfl⟩

theorem bind_eq_ok {α β : Type} {x : Except Stop α} {f : α → Except Stop β} {b : β}
    (h : x.bind f = .ok b) : ∃ a, x = .ok a ∧ f a = .ok b := by
  cases x with
  | error e => cases h
  | ok a => exact ⟨a, rfl, h⟩

theorem map_eq_ok {α β : Type} {x : Except Stop α} {f : α → β} {b : β}
    (h : x.map f = .ok b) : ∃ a, x = .ok a ∧ f a = b := by
  cases x with
  | error e => cases h
  | ok a =>
      cases h
      exact ⟨a, rfl, rfl⟩

theorem bare_string_sound {fault : SyntaxFault} {s k r : Text}
    (h : bare (string fault s) = .ok (k, r)) :
    ∃ b, Chars b k ∧ s = ('"' : CodePoint) :: (b ++ ('"' : CodePoint) :: r) := by
  cases s with
  | nil => cases h
  | cons c s =>
      rw [bare_string_cons] at h
      split at h
      · next hc =>
          obtain ⟨b, hb, hs⟩ := afterQuote_eq_ok_iff.mp h
          exact ⟨b, hb, by rw [hc, hs]⟩
      · cases h

theorem bare_colon_sound {s r : Text} {x : Unit} (h : bare (colon s) = .ok (x, r)) :
    ∃ b c, Blanks b ∧ Blanks c ∧ s = b ++ (':' : CodePoint) :: (c ++ r) := by
  obtain ⟨b, hb, hs⟩ := skipBlanks_sound s
  rw [bare_colon] at h
  split at h
  · cases h
  · next c t hc =>
      rw [hc] at hs
      split at h
      · next hcolon =>
          cases h
          obtain ⟨w, hw, ht⟩ := skipBlanks_sound t
          exact ⟨b, w, hb, hw, by rw [← hcolon, ← ht]; exact hs⟩
      · cases h

mutual

theorem value_sound {s r : Text} {v : Value} (h : bare (value s) = .ok (v, r)) :
    ∃ t, Derives t v ∧ s = t ++ r := by
  match s with
  | [] =>
      rw [bare_value_nil] at h
      cases h
  | c :: s =>
      obtain ⟨w, hw, hs⟩ := skipBlanks_sound s
      have hle := skipBlanks_length s
      by_cases hquote : c = '"'
      · subst hquote
        rw [bare_value_quote] at h
        obtain ⟨⟨t, rest⟩, hq, hx⟩ := map_eq_ok h
        cases hx
        obtain ⟨b, hb, rfl⟩ := afterQuote_eq_ok_iff.mp hq
        exact ⟨_, .string hb, by simp⟩
      by_cases hbracket : c = '['
      · subst hbracket
        rw [bare_value_bracket] at h
        split at h
        · next hh =>
            obtain ⟨u, hu⟩ := List.head?_eq_some_iff.mp hh
            rw [hu] at h hs
            cases h
            exact ⟨_, .emptyArray hw, by simp [hs]⟩
        · obtain ⟨⟨vs, rest⟩, hi, hx⟩ := map_eq_ok h
          cases hx
          obtain ⟨t, ht, hst⟩ := items_sound hi
          refine ⟨_, .array (ht.blanks hw), ?_⟩
          rw [List.cons_append, List.append_assoc, List.append_assoc, List.singleton_append,
            ← hst, ← hs]
      by_cases hbrace : c = '{'
      · subst hbrace
        rw [bare_value_brace] at h
        split at h
        · next hh =>
            obtain ⟨u, hu⟩ := List.head?_eq_some_iff.mp hh
            rw [hu] at h hs
            cases h
            exact ⟨_, .emptyObject hw, by simp [hs]⟩
        · obtain ⟨⟨ms, rest⟩, hm, hx⟩ := bind_eq_ok h
          obtain ⟨hn, rfl, rfl⟩ := closed_sound hx
          obtain ⟨t, ht, hst⟩ := members_sound hm
          refine ⟨_, .object (ht.blanks hw) hn, ?_⟩
          dsimp only at hst ⊢
          rw [List.cons_append, List.append_assoc, List.append_assoc, List.singleton_append,
            ← hst, ← hs]
      -- what is left is a word or a number, without a value inside
      rw [bare_value_scalar hquote hbracket hbrace] at h
      exact scalar_sound h
termination_by (s.length, 0)

theorem items_sound {s r : Text} {vs : List Value} (h : bare (items s) = .ok (vs, r)) :
    ∃ t, Items t vs ∧ s = t ++ (']' : CodePoint) :: r := by
  rw [bare_items] at h
  obtain ⟨⟨v, rest⟩, hv, ho⟩ := bind_eq_ok h
  dsimp only at ho
  -- the value leaves less, so that the items after a comma are in a shorter text
  have hlt := bare_shorter hv
  obtain ⟨t, ht, hs⟩ := value_sound hv
  obtain ⟨b, hb, ⟨rfl, hrest⟩ | ⟨a, u, zs, ha, hrest, hu, rfl⟩⟩ := afterOne_sound ho
  · exact ⟨_, .one .nil ht hb, by simp [hs, hrest]⟩
  · obtain ⟨t', ht', rfl⟩ := items_sound hu
    exact ⟨_, .cons .nil ht hb (ht'.blanks ha), by simp [hs, hrest]⟩
termination_by (s.length, 1)
decreasing_by
  · exact Prod.Lex.right _ (by omega)
  · have hl : u.length < rest.length := by
      rw [hrest]
      simp
      omega
    exact Prod.Lex.left _ _ (by omega)

theorem members_sound {s r : Text} {ms : List (Text × Value)}
    (h : bare (members s) = .ok (ms, r)) :
    ∃ t, Members t ms ∧ s = t ++ ('}' : CodePoint) :: r := by
  rw [bare_members] at h
  obtain ⟨⟨k, r1⟩, hk, h⟩ := bind_eq_ok h
  dsimp only at h
  obtain ⟨⟨_, r2⟩, hc, h⟩ := bind_eq_ok h
  dsimp only at h
  obtain ⟨⟨v, rest⟩, hv, ho⟩ := bind_eq_ok h
  dsimp only at ho
  have h1 := bare_shorter hk
  have h2 := bare_shorter hc
  have h3 := bare_shorter hv
  obtain ⟨kt, hkt, rfl⟩ := bare_string_sound hk
  obtain ⟨b, c, hb, hcb, hr1⟩ := bare_colon_sound hc
  obtain ⟨t, ht, hr2⟩ := value_sound hv
  obtain ⟨d, hd, ⟨rfl, hrest⟩ | ⟨a, u, zs, ha, hrest, hu, rfl⟩⟩ := afterOne_sound ho
  · exact ⟨_, .one (.mk .nil hkt hb hcb ht hd), by simp [hr1, hr2, hrest]⟩
  · obtain ⟨t', ht', rfl⟩ := members_sound hu
    exact ⟨_, .cons (.mk .nil hkt hb hcb ht hd) (ht'.blanks ha), by simp [hr1, hr2, hrest]⟩
termination_by (s.length, 1)
decreasing_by
  · exact Prod.Lex.left _ _ (by omega)
  · have hl : u.length < rest.length := by
      rw [hrest]
      simp
      omega
    exact Prod.Lex.left _ _ (by omega)

end

end JsonTap.Json
