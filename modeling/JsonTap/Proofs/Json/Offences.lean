import JsonTap.Proofs.Json.Refusals

/-!
# The offence that a refusal names

A text with the form of JSON is refused for the first of its offences, which is the one whose
construct ends first (`parse_first_offence`). The parser meets a constant or a number that is too
great where it reads it, and a key that is there twice where the object closes; both are the end of
the construct, and what is read before it has no offence.
-/

namespace JsonTap.Json

open Grammar

/-! ## What is met first -/

/-- The breach that is the first of some offences. -/
def first (os : List Offence) : Option Breach := os.head?.map (·.breach)

theorem first_behind (n : Nat) (os : List Offence) : first (behind n os) = first os := by
  cases os <;> rfl

/-- The first offence is that of the first part, or of the second if the first has none. -/
theorem first_append_iff {os os' : List Offence} {x : Breach} :
    first (os ++ os') = some x ↔ first os = some x ∨ os = [] ∧ first os' = some x := by
  cases os with
  | nil => simp [first]
  | cons o os => simp [first]

/-- A reading ends early, and whatever the whole text is, it is refused for the breach. -/
def Stops {α : Type} (x : Breach) (p : Except Stop α) : Prop :=
  ∃ e, p = .error e ∧ ∀ whole, e.toRefusal whole = x.refusal

theorem Stops.bind {α β : Type} {x : Breach} {p : Except Stop α} (h : Stops x p)
    (f : α → Except Stop β) : Stops x (p.bind f) := by
  obtain ⟨e, rfl, he⟩ := h
  exact ⟨e, rfl, he⟩

theorem Stops.map {α β : Type} {x : Breach} {p : Except Stop α} (h : Stops x p) (f : α → β) :
    Stops x (p.map f) := by
  obtain ⟨e, rfl, he⟩ := h
  exact ⟨e, rfl, he⟩

/-! ## Keys -/

/-- The key that is found is the first that is among those seen or those before it. -/
theorem duplicate?_of_keys {seen before after : List Text} {k : Text}
    {ms : List (Text × Value)} (hkeys : ms.map (·.1) = before ++ k :: after)
    (hn : before.Nodup) (hseen : ∀ y ∈ before, y ∉ seen) (hk : k ∈ before ∨ k ∈ seen) :
    duplicate? seen ms = some k := by
  induction before generalizing seen ms with
  | nil =>
      obtain ⟨⟨k', v⟩, ms, rfl, rfl, -⟩ := List.map_eq_cons_iff.mp hkeys
      have hmem : k' ∈ seen := hk.resolve_left List.not_mem_nil
      rw [duplicate?, if_pos (by simpa using hmem)]
  | cons y before ih =>
      obtain ⟨⟨y', v⟩, ms, rfl, rfl, hms⟩ := List.map_eq_cons_iff.mp hkeys
      obtain ⟨hy, hn⟩ := List.nodup_cons.mp hn
      have hnot : y' ∉ seen := hseen y' List.mem_cons_self
      rw [duplicate?, if_neg (by simpa using hnot)]
      refine ih hms hn ?_ ?_
      · intro z hz hmem
        rcases List.mem_cons.mp hmem with rfl | hmem
        · exact hy hz
        · exact hseen z (List.mem_cons_of_mem _ hz) hmem
      · rcases hk with hk | hk
        · rcases List.mem_cons.mp hk with rfl | hk
          · exact .inr List.mem_cons_self
          · exact .inl hk
        · exact .inr (List.mem_cons_of_mem _ hk)

/-- A key that repeats first is what closing an object stops at. -/
theorem stops_closeObject {ms : List (Text × Value)} {k : Text}
    (hk : FirstRepeat (ms.map (·.1)) k) : Stops (.duplicateKey k) (closeObject ms) := by
  obtain ⟨before, after, hkeys, hn, hmem⟩ := hk
  rw [closeObject, duplicate?_of_keys hkeys hn (fun _ _ => List.not_mem_nil) (.inl hmem)]
  exact ⟨_, rfl, fun _ => rfl⟩

/-! ## Values -/

/-- A foreign word is stopped at. -/
theorem stops_foreign {name r : Text} (h : Foreign name) :
    Stops (.constant name) (bare (value (name ++ r))) := by
  have hscalar : bare (value (name ++ r)) = .error (.constant name) := by
    cases h <;> exact bare_value_scalar (by decide) (by decide) (by decide)
  exact ⟨_, hscalar, fun _ => rfl⟩

/-- A number that is too large is stopped at. -/
theorem stops_overflow {n : Numeral} {x : Double} {r : Text} (hn : IsNumber n)
    (hi : n.isInteger = false) (hx : Denotes n x) (hinf : x.isFinite = false)
    (hr : CanFollow r) : Stops (.outOfRange n.text) (bare (value (n.text ++ r))) := by
  have hd : n.double.isInfinite = true := by
    by_contra hnot
    rw [Bool.not_eq_true, ← denotes_iff.mp hx] at hnot
    rw [isFinite_of_denotes hx hnot] at hinf
    cases hinf
  rw [bare_value_number hn, scalar_complete hn hr, if_neg (by simp [hi]), if_pos hd]
  exact ⟨_, rfl, fun _ => rfl⟩

mutual

/-- A value is refused for its first offence, in front of anything that can follow it. -/
theorem Grammar.Form.stops {t r : Text} {os : List Offence} {x : Breach} (h : Form t os)
    (hx : first os = some x) (hr : CanFollow r) : Stops x (bare (value (t ++ r))) := by
  match h with
  | .nullWord | .trueWord | .falseWord | .integer _ _ | .double _ _ _ _ => cases hx
  | .string _ | .emptyArray _ | .emptyObject _ => cases hx
  | .foreign hname =>
      cases hx
      exact stops_foreign hname
  | .overflow hn hi hd hinf =>
      cases hx
      exact stops_overflow hn hi hd hinf hr
  | .array hi =>
      rw [first_behind] at hx
      rw [List.cons_append, List.append_assoc, List.singleton_append, bare_value_bracket,
        if_neg hi.front]
      exact (ItemForms.stops hi hx).map _
  | .object hm _ =>
      rw [first_behind] at hx
      rw [List.cons_append, List.append_assoc, List.singleton_append, bare_value_brace,
        if_neg hm.front]
      exact (MemberForms.stops hm hx).bind _
  | .repeating hm hk =>
      rw [first_append_iff, first_behind, behind_eq_nil_iff] at hx
      rw [List.cons_append, List.append_assoc, List.singleton_append, bare_value_brace,
        if_neg hm.front]
      rcases hx with hx | ⟨hnil, hx⟩
      · exact (MemberForms.stops hm hx).bind _
      · -- nothing is wrong with the members, so that the object is closed with their keys
        cases hx
        obtain ⟨ms, hms, rfl⟩ := hm.derives hnil
        rw [Members.read hms]
        exact (stops_closeObject hk).map _

/-- Reading items stops at their first offence. -/
theorem Grammar.ItemForms.stops {t r : Text} {os : List Offence} {x : Breach}
    (h : ItemForms t os) (hx : first os = some x) :
    Stops x (bare (items (skipBlanks (t ++ (']' : CodePoint) :: r)))) := by
  match h with
  | .one ha hv hb =>
      rw [first_behind] at hx
      rw [List.append_assoc, List.append_assoc, skipBlanks_form ha hv, bare_items]
      exact (Form.stops hv hx (.blanks_append hb (.bracket r))).bind _
  | .cons ha hv hb hrest =>
      rw [first_append_iff, first_behind, first_behind, behind_eq_nil_iff] at hx
      rw [List.append_assoc, List.append_assoc, List.append_assoc, List.cons_append,
        skipBlanks_form ha hv, bare_items]
      rcases hx with hx | ⟨hnil, hx⟩
      · exact (Form.stops hv hx (.blanks_append hb (.comma _))).bind _
      · -- the first item is read to its end, so that the others are come to
        obtain ⟨v, hv⟩ := hv.derives hnil
        rw [Derives.read hv (.blanks_append hb (.comma _))]
        simp only [Except.bind]
        rw [afterOne_comma hb (by decide)]
        exact (ItemForms.stops hrest hx).map _

/-- Reading members stops at their first offence. -/
theorem Grammar.MemberForms.stops {t r : Text} {ks : List Text} {os : List Offence} {x : Breach}
    (h : MemberForms t ks os) (hx : first os = some x) :
    Stops x (bare (members (skipBlanks (t ++ ('}' : CodePoint) :: r)))) := by
  match h with
  | .one hm => exact MemberForm.stops hm hx (.brace r)
  | .cons hm hrest =>
      rw [first_append_iff, first_behind] at hx
      rw [List.append_assoc, List.cons_append]
      rcases hx with hx | ⟨hnil, hx⟩
      · exact MemberForm.stops hm hx (.comma _)
      · obtain ⟨v, hm⟩ := hm.derives hnil
        obtain ⟨d, hd, hread⟩ := Member.read hm (.comma _)
        rw [hread, afterOne_comma hd (by decide)]
        exact (MemberForms.stops hrest hx).map _

theorem Grammar.MemberForm.stops {t r key : Text} {os : List Offence} {x : Breach}
    (h : MemberForm t key os) (hx : first os = some x) (hr : CanFollow r) :
    Stops x (bare (members (skipBlanks (t ++ r)))) := by
  match h with
  | .mk ha hk hb hc hv hd =>
      rw [first_behind] at hx
      rw [List.append_assoc, List.cons_append, List.append_assoc, List.cons_append,
        List.append_assoc, List.cons_append, List.append_assoc, List.append_assoc,
        bare_members_key ha hk hb, skipBlanks_form hc hv]
      exact (Form.stops hv hx (.blanks_append hd hr)).bind _

end

/-! ## Documents -/

/-- A text with an offence is refused for the first one. -/
theorem parse_of_offence {s : Text} {o : Offence} {os : List Offence}
    (h : DocumentForm s (o :: os)) : parse s = .error o.breach.refusal := by
  obtain ⟨a, t, b, os', ha, ht, hb, rfl, hos⟩ := h
  have hx : first os' = some o.breach := by
    rw [← first_behind a.length, ← hos]
    rfl
  obtain ⟨e, he, hrefusal⟩ := ht.stops hx (.blanks hb)
  rw [← skipBlanks_form ha ht] at he
  rw [parse_of_stop he, hrefusal]

/-- A text with the form of JSON is refused for the offence that ends before all others. -/
theorem parse_first_offence {s : Text} {os : List Offence} {refusal : Refusal}
    (h : DocumentForm s os) (hp : parse s = .error refusal) :
    ∃ o ∈ os, refusal = o.breach.refusal ∧ ∀ o' ∈ os, o' ≠ o → o.stop < o'.stop := by
  cases os with
  | nil =>
      obtain ⟨v, hv⟩ := h.document
      rw [parse_iff_document.mpr hv] at hp
      cases hp
  | cons o os =>
      rw [parse_of_offence h] at hp
      exact ⟨o, List.mem_cons_self, (Except.error.inj hp).symm, h.ordered.first⟩

end JsonTap.Json
