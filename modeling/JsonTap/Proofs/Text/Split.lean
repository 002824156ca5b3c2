import JsonTap.Text.Basic

/-!
# Splitting and trimming

Texts without a separator come back when they are joined by it and split at it again, and no part of
a text that is split has the separator. A text that is trimmed neither begins nor ends with what is
trimmed, and a text without any of it is all that is left when it is put between such
(`trim_append`).
-/

namespace JsonTap.Text

theorem splitAt_of_not_mem {sep : CodePoint} {t : Text} (h : sep ∉ t) : splitAt sep t = [t] := by
  induction t with
  | nil => rfl
  | cons c r ih =>
    obtain ⟨hc, hr⟩ := not_or.mp (mt List.mem_cons.mpr h)
    unfold splitAt
    rw [if_neg (Ne.symm hc), ih hr]

theorem splitAt_append {sep : CodePoint} {t : Text} (h : sep ∉ t) (r : Text) :
    splitAt sep (t ++ sep :: r) = t :: splitAt sep r := by
  induction t with
  | nil =>
    show splitAt sep (sep :: r) = _
    rw [splitAt, if_pos rfl]
  | cons c t ih =>
    obtain ⟨hc, ht⟩ := not_or.mp (mt List.mem_cons.mpr h)
    rw [List.cons_append, splitAt, if_neg (Ne.symm hc), ih ht]

theorem splitAt_join {sep : CodePoint} {ts : List Text} (hne : ts ≠ [])
    (h : ∀ t ∈ ts, sep ∉ t) : splitAt sep (join [sep] ts) = ts := by
  induction ts with
  | nil => exact absurd rfl hne
  | cons t ts ih =>
    have ht : sep ∉ t := h t List.mem_cons_self
    cases ts with
    | nil => exact splitAt_of_not_mem ht
    | cons u us =>
      show splitAt sep (t ++ [sep] ++ join [sep] (u :: us)) = _
      rw [List.append_assoc, List.singleton_append, splitAt_append ht,
        ih (List.cons_ne_nil u us) (fun v hv => h v (List.mem_cons_of_mem t hv))]

theorem not_mem_of_mem_splitAt {sep : CodePoint} {t w : Text} (h : w ∈ splitAt sep t) :
    sep ∉ w := by
  induction t generalizing w with
  | nil =>
    rw [List.mem_singleton.mp h]
    exact List.not_mem_nil
  | cons c r ih =>
    unfold splitAt at h
    split at h
    · rcases List.mem_cons.mp h with rfl | h
      · exact List.not_mem_nil
      · exact ih h
    · next hc =>
        cases hr : splitAt sep r with
        | nil =>
          rw [hr] at h
          rw [List.mem_singleton.mp h]
          exact fun hsep => hc (List.mem_singleton.mp hsep).symm
        | cons v vs =>
          rw [hr] at h ih
          rcases List.mem_cons.mp h with rfl | h
          · intro hsep
            rcases List.mem_cons.mp hsep with hsep | hsep
            · exact hc hsep.symm
            · exact ih List.mem_cons_self hsep
          · exact ih (List.mem_cons_of_mem v h)

/-! ### Trimming -/

section

variable (p : CodePoint → Bool) (t : Text)

theorem trimEnd_isPrefix : trimEnd p t <+: t := by
  rw [trimEnd, ← List.reverse_suffix, List.reverse_reverse]
  exact List.dropWhile_suffix p

theorem trimEnd_subset : trimEnd p t ⊆ t := (trimEnd_isPrefix p t).subset

theorem trim_subset : trim p t ⊆ t :=
  List.Subset.trans (trimEnd_subset p _) (List.dropWhile_suffix p).subset

variable {p t} {c : CodePoint}

theorem not_of_head?_dropWhile (h : (t.dropWhile p).head? = some c) : p c = false := by
  have hnot := List.head?_dropWhile_not p t
  rw [h] at hnot
  exact hnot

theorem not_of_head?_trim (h : (trim p t).head? = some c) : p c = false := by
  obtain ⟨after, hafter⟩ := trimEnd_isPrefix p (t.dropWhile p)
  obtain ⟨inner, hinner⟩ := List.head?_eq_some_iff.mp h
  have hdrop : t.dropWhile p = c :: (inner ++ after) := by
    rw [← hafter, ← List.cons_append, ← hinner]
    rfl
  apply not_of_head?_dropWhile (t := t)
  rw [hdrop, List.head?_cons]

theorem not_of_getLast?_trim (h : (trim p t).getLast? = some c) : p c = false := by
  rw [trim, trimEnd, List.getLast?_reverse] at h
  exact not_of_head?_dropWhile h

theorem dropWhile_eq_self (ht : ∀ c ∈ t, p c = false) : t.dropWhile p = t := by
  cases t with
  | nil => rfl
  | cons c r => rw [List.dropWhile_cons, ht c List.mem_cons_self, if_neg Bool.false_ne_true]

theorem trimEnd_append_of_pos {after : Text} (hafter : ∀ c ∈ after, p c = true)
    (ht : ∀ c ∈ t, p c = false) : trimEnd p (t ++ after) = t := by
  rw [trimEnd, List.reverse_append,
    List.dropWhile_append_of_pos fun c hc => hafter c (List.mem_reverse.mp hc),
    dropWhile_eq_self fun c hc => ht c (List.mem_reverse.mp hc), List.reverse_reverse]

/-- What is trimmed goes from both sides of a text that has none of it. -/
theorem trim_append {before after : Text} (hbefore : ∀ c ∈ before, p c = true)
    (hafter : ∀ c ∈ after, p c = true) (ht : ∀ c ∈ t, p c = false) :
    trim p (before ++ (t ++ after)) = t := by
  rw [trim, List.dropWhile_append_of_pos hbefore]
  cases t with
  | nil =>
    rw [List.nil_append, ← List.append_nil after, List.dropWhile_append_of_pos hafter]
    rfl
  | cons c r =>
    rw [List.cons_append, List.dropWhile_cons, ht c List.mem_cons_self, if_neg Bool.false_ne_true,
      ← List.cons_append, trimEnd_append_of_pos hafter ht]

theorem trim_eq_self (ht : ∀ c ∈ t, p c = false) : trim p t = t := by
  have h := trim_append (List.forall_mem_nil _) (List.forall_mem_nil _) ht
  rwa [List.nil_append, List.append_nil] at h

end

end JsonTap.Text
