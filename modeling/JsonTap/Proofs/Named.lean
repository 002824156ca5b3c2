import JsonTap.Named

/-!
# What is found after writing

One law for each way of writing: what `Named.get?` finds of any name afterwards. None of those for
one name needs the names to be distinct, since the first thing of a name is both what is found and
what is written over. Writing what is found already changes nothing.

`Named.Distinct` lists have no name twice, and writing keeps it so. What is written over a list all
at once (`Named.get?_merge`) must be such a list, for the last thing of a name is what is left.
-/

namespace JsonTap.Named

variable {α : Type}

@[simp] theorem get?_nil (name : Text) : get? ([] : Named α) name = none := rfl

theorem get?_cons (n : Text) (x : α) (xs : Named α) (name : Text) :
    get? ((n, x) :: xs) name = if name = n then some x else xs.get? name := by
  unfold get?
  rw [List.lookup_cons]
  by_cases h : name = n
  · simp [h]
  · have hb : (name == n) = false := beq_eq_false_iff_ne.mpr h
    simp [h, hb]

/-- A name is there exactly if it has a value. -/
theorem has_eq_isSome (xs : Named α) (name : Text) : xs.has name = (xs.get? name).isSome := by
  induction xs with
  | nil => rfl
  | cons y ys ih =>
    obtain ⟨n, x⟩ := y
    rw [get?_cons]
    unfold has at ih ⊢
    rw [List.any_cons, ih]
    by_cases h : name = n
    · simp [h]
    · simp [h, Ne.symm h]

theorem has_eq_contains (xs : Named α) (name : Text) :
    xs.has name = (xs.map (·.1)).contains name := by
  unfold has
  rw [List.contains_eq_any_beq, List.any_map]
  congr 1
  funext x
  exact BEq.comm

/-- What is put behind is found only where nothing stands before it. -/
theorem get?_append_singleton (xs : Named α) (n : Text) (x : α) (name : Text) :
    get? (xs ++ [(n, x)]) name = (xs.get? name).or (if name = n then some x else none) := by
  induction xs with
  | nil =>
    show get? [(n, x)] name = _
    simp [get?_cons]
  | cons y ys ih =>
    obtain ⟨m, z⟩ := y
    rw [List.cons_append, get?_cons, get?_cons, ih]
    by_cases h : name = m
    · simp [h]
    · simp [h]

/-- Putting a value sets its name, and leaves the others. -/
theorem get?_put (xs : Named α) (n : Text) (x : α) (name : Text) :
    (xs.put n x).get? name = if name = n then some x else xs.get? name := by
  induction xs with
  | nil => exact get?_cons n x [] name
  | cons y ys ih =>
    obtain ⟨m, z⟩ := y
    unfold put
    by_cases hm : m = n
    · rw [if_pos hm, get?_cons, get?_cons, hm]
      by_cases h : name = n
      · simp [h]
      · simp [h]
    · rw [if_neg hm, get?_cons, get?_cons, ih]
      by_cases h : name = m
      · simp [h, hm]
      · simp [h]

/-- Putting a new value overrides none. -/
theorem get?_putNew (xs : Named α) (n : Text) (x : α) (name : Text) :
    (xs.putNew n x).get? name = (xs.get? name).or (if name = n then some x else none) := by
  unfold putNew
  by_cases h : xs.has n = true
  · rw [if_pos h]
    rw [has_eq_isSome] at h
    by_cases hn : name = n
    · obtain ⟨y, hy⟩ := Option.isSome_iff_exists.mp h
      simp [hn, hy]
    · simp [hn]
  · rw [if_neg h]
    exact get?_append_singleton xs n x name

/-- A change is seen under its name only. -/
theorem get?_change (xs : Named α) (n : Text) (f : α → α) (name : Text) :
    (xs.change n f).get? name = if name = n then (xs.get? name).map f else xs.get? name := by
  induction xs with
  | nil => simp [change]
  | cons y ys ih =>
    obtain ⟨m, z⟩ := y
    unfold change at ih ⊢
    rw [List.map_cons]
    dsimp only
    by_cases hm : m = n
    · rw [if_pos hm, get?_cons, get?_cons, ih, hm]
      by_cases h : name = n
      · simp [h]
      · simp [h]
    · rw [if_neg hm, get?_cons, get?_cons, ih]
      by_cases h : name = m
      · simp [h, hm]
      · simp [h]

/-- A change of all values changes each under its name. -/
theorem get?_map_values {β : Type} (f : Text → α → β) (xs : Named α) (name : Text) :
    get? (xs.map fun y => (y.1, f y.1 y.2)) name = (xs.get? name).map (f name) := by
  induction xs with
  | nil => rfl
  | cons y ys ih =>
    obtain ⟨n, x⟩ := y
    rw [List.map_cons, get?_cons, get?_cons, ih]
    by_cases h : name = n
    · simp [h]
    · simp [h]

theorem has_put_of_has {xs : Named α} {name : Text} (h : xs.has name = true) (n : Text) (x : α) :
    (xs.put n x).has name = true := by
  rw [has_eq_isSome] at h ⊢
  rw [get?_put]
  split
  · rfl
  · exact h

/-! ### What is written already -/

/-- Putting what is there changes nothing. -/
theorem put_of_get? {xs : Named α} {n : Text} {x : α} (h : xs.get? n = some x) :
    xs.put n x = xs := by
  induction xs with
  | nil => cases h
  | cons y ys ih =>
    obtain ⟨m, z⟩ := y
    rw [get?_cons] at h
    unfold put
    by_cases hm : m = n
    · rw [if_pos hm.symm] at h
      rw [if_pos hm, hm, Option.some.inj h]
    · rw [if_neg (Ne.symm hm)] at h
      rw [if_neg hm, ih h]

theorem putNew_of_has {xs : Named α} {n : Text} (h : xs.has n = true) (x : α) :
    xs.putNew n x = xs :=
  if_pos h

/-- A change that leaves the values of its name changes nothing. -/
theorem change_of_forall {xs : Named α} {n : Text} {f : α → α}
    (h : ∀ x, (n, x) ∈ xs → f x = x) : xs.change n f = xs := by
  unfold change
  rw [List.map_congr_left (g := id), List.map_id]
  rintro ⟨m, x⟩ hmem
  dsimp only
  split
  · next hm =>
      subst hm
      rw [h x hmem]
      rfl
  · rfl

/-! ### Many at once -/

/-- Filling up overrides nothing. -/
theorem get?_fill (xs ys : Named α) (name : Text) :
    (xs.fill ys).get? name = (xs.get? name).or (ys.get? name) := by
  unfold fill
  induction ys generalizing xs with
  | nil => simp
  | cons y ys ih =>
    obtain ⟨n, x⟩ := y
    rw [List.foldl_cons, ih, get?_putNew, get?_cons, Option.or_assoc]
    by_cases h : name = n
    · simp [h]
    · simp [h]

/-- A filter that looks at names only. -/
theorem get?_filter (p : Text → Bool) (xs : Named α) (name : Text) :
    get? (xs.filter fun f => p f.1) name = if p name then xs.get? name else none := by
  induction xs with
  | nil => simp
  | cons y ys ih =>
    obtain ⟨n, x⟩ := y
    rw [get?_cons]
    by_cases hp : p n = true
    · rw [List.filter_cons_of_pos (by exact hp), get?_cons, ih]
      by_cases h : name = n
      · simp [h, hp]
      · simp [h]
    · rw [List.filter_cons_of_neg (by exact hp), ih]
      by_cases h : name = n
      · simp [h, hp]
      · simp [h]

/-! ### Distinct names -/

def Distinct (xs : Named α) : Prop := (xs.map (·.1)).Nodup

instance (xs : Named α) : Decidable xs.Distinct :=
  inferInstanceAs (Decidable (xs.map (·.1)).Nodup)

/-- A name has no value exactly if it is not there. -/
theorem get?_eq_none_iff {xs : Named α} {n : Text} :
    xs.get? n = none ↔ n ∉ xs.map (·.1) := by
  unfold get?
  rw [List.lookup_eq_none_iff]
  constructor
  · intro h hmem
    obtain ⟨y, hy, rfl⟩ := List.mem_map.mp hmem
    exact bne_iff_ne.mp (h y hy) rfl
  · intro h y hy
    exact bne_iff_ne.mpr fun heq => h (heq ▸ List.mem_map_of_mem hy)

theorem distinct_nil : Distinct ([] : Named α) := List.nodup_nil

theorem distinct_cons {n : Text} {x : α} {xs : Named α} :
    Distinct ((n, x) :: xs) ↔ xs.get? n = none ∧ xs.Distinct := by
  unfold Distinct
  rw [List.map_cons, List.nodup_cons, get?_eq_none_iff]

theorem Distinct.filter {xs : Named α} (h : xs.Distinct) (p : Text × α → Bool) :
    Distinct (xs.filter p) :=
  h.sublist (List.filter_sublist.map _)

/-- Putting a value makes no name repeat. -/
theorem Distinct.put {xs : Named α} (h : xs.Distinct) (n : Text) (x : α) :
    (xs.put n x).Distinct := by
  induction xs with
  | nil => exact distinct_cons.mpr ⟨rfl, distinct_nil⟩
  | cons y ys ih =>
    obtain ⟨m, z⟩ := y
    obtain ⟨hm, hys⟩ := distinct_cons.mp h
    unfold Named.put
    split
    · exact distinct_cons.mpr ⟨hm, hys⟩
    · next hne =>
        refine distinct_cons.mpr ⟨?_, ih hys⟩
        rw [get?_put, if_neg hne]
        exact hm

/-- Putting a new value makes no name repeat. -/
theorem Distinct.putNew {xs : Named α} (h : xs.Distinct) (n : Text) (x : α) :
    (xs.putNew n x).Distinct := by
  unfold Named.putNew
  by_cases hn : xs.has n = true
  · rw [if_pos hn]
    exact h
  · rw [if_neg hn]
    have hnew : n ∉ xs.map (·.1) := by
      rw [has_eq_isSome, Option.not_isSome_iff_eq_none] at hn
      exact get?_eq_none_iff.mp hn
    unfold Distinct
    rw [List.map_append]
    refine List.nodup_append.mpr ⟨h, by simp, ?_⟩
    rintro m hm k hk rfl
    rw [List.mem_singleton.mp hk] at hm
    exact hnew hm

/-- Merging makes no name repeat. -/
theorem Distinct.merge {xs : Named α} (h : xs.Distinct) (ys : Named α) :
    (xs.merge ys).Distinct := by
  unfold Named.merge
  induction ys generalizing xs with
  | nil => exact h
  | cons y ys ih => exact ih (h.put y.1 y.2)

/-- Filling up makes no name repeat. -/
theorem Distinct.fill {xs : Named α} (h : xs.Distinct) (ys : Named α) :
    (xs.fill ys).Distinct := by
  unfold Named.fill
  induction ys generalizing xs with
  | nil => exact h
  | cons y ys ih => exact ih (h.putNew y.1 y.2)

theorem mem_of_get? {xs : Named α} {name : Text} {x : α} (h : xs.get? name = some x) :
    (name, x) ∈ xs := by
  induction xs with
  | nil => cases h
  | cons y ys ih =>
    obtain ⟨n, z⟩ := y
    rw [get?_cons] at h
    split at h
    · next hname =>
        cases h
        exact hname ▸ List.mem_cons_self
    · exact List.mem_cons_of_mem _ (ih h)

/-- What is found is what is there. -/
theorem Distinct.get?_eq_some_iff {xs : Named α} (h : xs.Distinct) {name : Text} {x : α} :
    xs.get? name = some x ↔ (name, x) ∈ xs := by
  induction xs with
  | nil => simp
  | cons y ys ih =>
    obtain ⟨n, z⟩ := y
    obtain ⟨hn, hys⟩ := distinct_cons.mp h
    rw [get?_cons, List.mem_cons, Prod.mk.injEq, ← ih hys]
    by_cases hname : name = n
    · subst hname
      simp [hn, eq_comm]
    · simp [hname]

/-- Merging overrides what was there. -/
theorem get?_merge (xs : Named α) {ys : Named α} (h : ys.Distinct) (name : Text) :
    (xs.merge ys).get? name = (ys.get? name).or (xs.get? name) := by
  unfold merge
  induction ys generalizing xs with
  | nil => simp
  | cons y ys ih =>
    obtain ⟨n, x⟩ := y
    obtain ⟨hn, hys⟩ := distinct_cons.mp h
    rw [List.foldl_cons, ih (xs.put n x) hys, get?_put, get?_cons]
    by_cases hname : name = n
    · rw [if_pos hname, if_pos hname, hname, hn]
      rfl
    · rw [if_neg hname, if_neg hname]

/-- New names go to the end. -/
theorem fill_of_nodup {xs ys : Named α} (h : (xs.map (·.1) ++ ys.map (·.1)).Nodup) :
    xs.fill ys = xs ++ ys := by
  induction ys generalizing xs with
  | nil => exact (List.append_nil xs).symm
  | cons y ys ih =>
    have hnew : xs.has y.1 = false := by
      rw [has_eq_isSome, Option.isSome_eq_false_iff, Option.isNone_iff_eq_none, get?_eq_none_iff]
      intro hmem
      exact (List.nodup_append.mp h).2.2 y.1 hmem y.1 List.mem_cons_self rfl
    have hrest : ((xs ++ [y]).map (·.1) ++ ys.map (·.1)).Nodup := by
      simpa using h
    show fill (xs.putNew y.1 y.2) ys = _
    unfold putNew
    rw [hnew, if_neg Bool.false_ne_true, ih hrest, List.append_assoc]
    rfl

/-- Only over nothing is nothing written. -/
theorem eq_nil_of_merge {xs ys : Named α} (h : xs.merge ys = []) : xs = [] := by
  induction ys generalizing xs with
  | nil => exact h
  | cons y ys ih =>
    have hput : xs.put y.1 y.2 = [] := ih h
    have hfound := get?_put xs y.1 y.2 y.1
    rw [hput, if_pos rfl] at hfound
    cases hfound

/-- Where nothing is found there is nothing. -/
theorem isEmpty_iff_get? {xs : Named α} : xs.isEmpty = true ↔ ∀ name, xs.get? name = none := by
  cases xs with
  | nil => simp
  | cons y ys =>
    obtain ⟨n, x⟩ := y
    refine iff_of_false Bool.false_ne_true fun h => ?_
    have hn := h n
    rw [get?_cons, if_pos rfl] at hn
    cases hn

end JsonTap.Named
