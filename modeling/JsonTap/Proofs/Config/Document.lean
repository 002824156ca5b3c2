import JsonTap.Config.Load
import JsonTap.Proofs.Named

/-!
# Documents that are filled in layers

What a document says about an option does not depend on whether the section is there:
`Document.said?` is the value that a section of the name shows, or would show once it is added.
Adding sections keeps all of it, and writing an option changes it for that option alone. Overriding
by the environment and filling up are sequences of such steps, so that what a settled document says
about a known option is told by its variable, by the document before, and by the default.
-/

namespace JsonTap.Config

/-! ### Sequences of steps -/

section

variable {α β : Type} {f : β → α → β} {xs : List α}

/-- Steps that do nothing at the beginning do nothing at all. -/
theorem foldl_of_fixed {b : β} (h : ∀ x ∈ xs, f b x = b) : xs.foldl f b = b := by
  induction xs with
  | nil => rfl
  | cons x xs ih =>
    rw [List.foldl_cons, h x List.mem_cons_self]
    exact ih fun y hy => h y (List.mem_cons_of_mem x hy)

/-- What one of the steps brings about and all of them keep holds in the end. -/
theorem foldl_reaches {p : β → Prop} {x : α} (hx : x ∈ xs) (hreach : ∀ b, p (f b x))
    (hkeep : ∀ y ∈ xs, ∀ b, p b → p (f b y)) (b : β) : p (xs.foldl f b) := by
  have hstay : ∀ (ys : List α), (∀ y ∈ ys, y ∈ xs) → ∀ b, p b → p (ys.foldl f b) := by
    intro ys hys
    induction ys with
    | nil => exact fun b hb => hb
    | cons y ys ih =>
      intro b hb
      apply ih fun z hz => hys z (List.mem_cons_of_mem y hz)
      exact hkeep y (hys y List.mem_cons_self) b hb
  obtain ⟨before, after, rfl⟩ := List.append_of_mem hx
  rw [List.foldl_append, List.foldl_cons]
  apply hstay after
  · intro y hy
    exact List.mem_append_right before (List.mem_cons_of_mem x hy)
  · exact hreach _

end

/-! ### Known options -/

/-- Whether a known option is the one of a name in a section. -/
def Known.At (k : Known) (name key : Text) : Prop := name = k.topic.name ∧ Unicode.lower key = k.key

instance (k : Known) (name key : Text) : Decidable (k.At name key) :=
  inferInstanceAs (Decidable (_ ∧ _))

theorem Known.lower_key : ∀ k ∈ Known.all, Unicode.lower k.key = k.key := by
  decide +kernel

theorem Topic.name_injective : Function.Injective Topic.name := by
  intro s t h
  cases s <;> cases t <;> first | rfl | exact absurd h (by decide)

theorem Topic.mem_all (t : Topic) : t ∈ Topic.all := by cases t <;> decide

/-- No known section is that of the defaults. -/
theorem Topic.name_plain (t : Topic) : (t.name.isEmpty || t.name = defaultName) = false := by
  cases t <;> decide

namespace Document

/-- What is written of an option in a section itself. Names of options are written in lower case. -/
def own? (d : Document) (name key : Text) : Option Text := (d.sections.get? name).bind (·.get? key)

/-- What a document says about an option of a section, whether or not the section is there: the
value that the section has itself, else that of the defaults. -/
def said? (d : Document) (name key : Text) : Option Text :=
  ((d.sections.get? name).bind (·.get? (Unicode.lower key))).or
    (d.defaults.get? (Unicode.lower key))

/-- What is said of an option is its own value, else that of the defaults in the file. -/
theorem said?_eq (d : Document) (name key : Text) :
    d.said? name key =
      (d.own? name (Unicode.lower key)).or (d.defaults.get? (Unicode.lower key)) := rfl

/-- An option has the value that is said of it, if its section is there. -/
theorem get?_eq_said? (d : Document) (name key : Text) :
    d.get? name key = if d.hasSection name then d.said? name key else none := by
  unfold get? said? hasSection
  rw [Named.has_eq_isSome]
  cases d.sections.get? name with
  | none => rfl
  | some options => rfl

theorem get?_of_section {d : Document} {name : Text} (h : d.hasSection name = true) (key : Text) :
    d.get? name key = d.said? name key := by
  rw [get?_eq_said?, if_pos h]

/-! ### One step -/

/-- The section is there afterwards, besides those that were. -/
theorem hasSection_ensureSection (d : Document) (n name : Text) :
    (d.ensureSection n).hasSection name = (decide (name = n) || d.hasSection name) := by
  unfold hasSection ensureSection
  rw [Named.has_eq_isSome, Named.has_eq_isSome, Named.get?_putNew]
  by_cases h : name = n
  · simp [h]
  · simp [h]

/-- A section that is added says nothing. -/
@[simp] theorem own?_ensureSection (d : Document) (n name key : Text) :
    (d.ensureSection n).own? name key = d.own? name key := by
  unfold own? ensureSection
  rw [Named.get?_putNew]
  by_cases h : name = n
  · cases hs : d.sections.get? name with
    | none => simp [h]
    | some options => simp
  · simp [h]

@[simp] theorem said?_ensureSection (d : Document) (n name key : Text) :
    (d.ensureSection n).said? name key = d.said? name key := by
  rw [said?_eq, said?_eq, own?_ensureSection]
  rfl

/-- An option is put in the section of its topic. -/
theorem put_topic (d : Document) (t : Topic) (key value : Text) :
    d.put t.name key value =
      { d with sections := d.sections.change t.name (·.put (Unicode.lower key) value) } := by
  unfold put
  rw [Topic.name_plain]
  rfl

/-- Putting an option sets it in its section, if that is there. -/
theorem own?_put (d : Document) (t : Topic) (key value name other : Text) :
    (d.put t.name key value).own? name other =
      if (name = t.name ∧ other = Unicode.lower key) ∧ d.hasSection t.name then some value
      else d.own? name other := by
  rw [put_topic]
  unfold own? hasSection
  dsimp only
  rw [Named.get?_change, Named.has_eq_isSome]
  by_cases hn : name = t.name
  · subst hn
    rw [if_pos rfl]
    cases d.sections.get? t.name with
    | none => simp
    | some options =>
      show (options.put (Unicode.lower key) value).get? other = _
      rw [Named.get?_put]
      simp
  · rw [if_neg hn, if_neg (fun h => hn h.1.1)]

/-- A value that is written into a section is said of its option, and nothing else changes. -/
theorem said?_put (d : Document) (t : Topic) (key value name other : Text) :
    (d.put t.name key value).said? name other =
      if (name = t.name ∧ Unicode.lower other = Unicode.lower key) ∧ d.hasSection t.name then
        some value
      else d.said? name other := by
  have hdefaults : (d.put t.name key value).defaults = d.defaults := by rw [put_topic]
  rw [said?_eq, said?_eq, own?_put, hdefaults]
  split
  · rfl
  · rfl

theorem hasSection_put (d : Document) (t : Topic) (key value name : Text) :
    (d.put t.name key value).hasSection name = d.hasSection name := by
  rw [put_topic]
  unfold hasSection
  dsimp only
  rw [Named.has_eq_isSome, Named.has_eq_isSome, Named.get?_change]
  by_cases h : name = t.name
  · rw [if_pos h, Option.isSome_map]
  · rw [if_neg h]

/-- Setting an option says it, and leaves the others. -/
theorem said?_setText (d : Document) (t : Topic) (key value name other : Text) :
    (d.setText t key value).said? name other =
      if name = t.name ∧ Unicode.lower other = Unicode.lower key then some value
      else d.said? name other := by
  unfold setText
  have hs : (d.ensureSection t.name).hasSection t.name = true := by
    simp [hasSection_ensureSection]
  rw [said?_put, said?_ensureSection, hs]
  simp

theorem said?_setText_known (d : Document) {j k : Known} (hj : j ∈ Known.all) (hk : k ∈ Known.all)
    (value : Text) :
    (d.setText j.topic j.key value).said? k.topic.name k.key =
      if k.topic = j.topic ∧ k.key = j.key then some value else d.said? k.topic.name k.key := by
  rw [said?_setText, Known.lower_key k hk, Known.lower_key j hj]
  simp only [Topic.name_injective.eq_iff]

/-! ### What is left alone -/

/-- A document and one with other values of known options: no section is lost and only known ones
are added, the defaults are the same, and so is what is written of every other option. -/
structure Keeps (d d' : Document) : Prop where
  sections : ∀ name, d.hasSection name = true → d'.hasSection name = true
  added : ∀ name, d'.hasSection name = true → d.hasSection name = true ∨ ∃ t : Topic, name = t.name
  defaults : d'.defaults = d.defaults
  own : ∀ name key, (∀ k ∈ Known.all, ¬ (name = k.topic.name ∧ key = k.key)) →
    d'.own? name key = d.own? name key

namespace Keeps

theorem refl (d : Document) : Keeps d d := ⟨fun _ h => h, fun _ h => .inl h, rfl, fun _ _ _ => rfl⟩

theorem trans {d₁ d₂ d₃ : Document} (h : Keeps d₁ d₂) (h' : Keeps d₂ d₃) : Keeps d₁ d₃ where
  sections name hs := h'.sections name (h.sections name hs)
  added name hs := (h'.added name hs).elim (h.added name) .inr
  defaults := h'.defaults.trans h.defaults
  own name key hk := (h'.own name key hk).trans (h.own name key hk)

/-- Steps that keep a document each keep it together. -/
theorem foldl {α : Type} (f : Document → α → Document) (xs : List α)
    (h : ∀ x ∈ xs, ∀ d, Keeps d (f d x)) (d : Document) : Keeps d (xs.foldl f d) := by
  induction xs generalizing d with
  | nil => exact refl d
  | cons x xs ih =>
    rw [List.foldl_cons]
    apply (h x List.mem_cons_self d).trans
    apply ih
    intro y hy
    exact h y (List.mem_cons_of_mem x hy)

theorem ensureSection (d : Document) (t : Topic) : Keeps d (d.ensureSection t.name) where
  sections n hs := by rw [hasSection_ensureSection, hs, Bool.or_true]
  added n hs := by
    rw [hasSection_ensureSection, Bool.or_eq_true] at hs
    exact hs.symm.imp_right fun hn => ⟨t, of_decide_eq_true hn⟩
  defaults := rfl
  own n key _ := own?_ensureSection d t.name n key

theorem put {k : Known} (hk : k ∈ Known.all) (d : Document) (value : Text) :
    Keeps d (d.put k.topic.name k.key value) where
  sections name hs := by rw [hasSection_put, hs]
  added name hs := .inl (by rwa [hasSection_put] at hs)
  defaults := by rw [put_topic]
  own name key hother := by
    rw [own?_put, if_neg]
    rintro ⟨⟨hname, hkey⟩, -⟩
    exact hother k hk ⟨hname, hkey.trans (Known.lower_key k hk)⟩

theorem setText {k : Known} (hk : k ∈ Known.all) (d : Document) (value : Text) :
    Keeps d (d.setText k.topic k.key value) :=
  (ensureSection d k.topic).trans (put hk (d.ensureSection k.topic.name) value)

/-- The same is said of an option that is not known. -/
theorem others {d d' : Document} (h : Keeps d d') (name key : Text)
    (hother : ∀ k ∈ Known.all, ¬ k.At name key) : d'.said? name key = d.said? name key := by
  rw [said?_eq, said?_eq, h.own name (Unicode.lower key) hother, h.defaults]

/-- An option that is not known keeps its effective value. -/
theorem get? {d d' : Document} (h : Keeps d d') {name key value : Text}
    (hother : ∀ k ∈ Known.all, ¬ k.At name key) (hd : d.get? name key = some value) :
    d'.get? name key = some value := by
  rw [get?_eq_said?] at hd
  by_cases hs : d.hasSection name = true
  · rw [if_pos hs] at hd
    rw [get?_of_section (h.sections name hs), h.others name key hother, hd]
  · rw [if_neg hs] at hd
    cases hd

end Keeps

/-! ### The environment -/

theorem override_keeps (env : Environment) (d : Document) : Keeps d (d.override env) := by
  apply Keeps.foldl
  intro k hk d
  unfold overrideOption
  cases env.get? (variableName k.topic.name k.key) with
  | none => exact Keeps.refl d
  | some value => exact Keeps.setText hk d value

/-- A variable overrides its own option only. -/
theorem said?_overrideOption (env : Environment) (d : Document) {j k : Known}
    (hj : j ∈ Known.all) (hk : k ∈ Known.all) :
    (overrideOption env d j).said? k.topic.name k.key =
      if k.topic = j.topic ∧ k.key = j.key then
        (env.get? (variableName k.topic.name k.key)).or (d.said? k.topic.name k.key)
      else d.said? k.topic.name k.key := by
  unfold overrideOption
  by_cases h : k.topic = j.topic ∧ k.key = j.key
  · rw [if_pos h, h.1, h.2]
    cases env.get? (variableName j.topic.name j.key) with
    | none => rfl
    | some value =>
      show (d.setText j.topic j.key value).said? j.topic.name j.key = _
      rw [said?_setText_known d hj hj, if_pos ⟨rfl, rfl⟩]
      rfl
  · rw [if_neg h]
    cases env.get? (variableName j.topic.name j.key) with
    | none => rfl
    | some value =>
      show (d.setText j.topic j.key value).said? k.topic.name k.key = _
      rw [said?_setText_known d hj hk, if_neg h]

/-- Some of the known options overridden, one after the other. -/
theorem said?_foldl_overrideOption (env : Environment) {k : Known} (hk : k ∈ Known.all)
    (js : List Known) (hjs : ∀ j ∈ js, j ∈ Known.all) (d : Document) :
    (js.foldl (overrideOption env) d).said? k.topic.name k.key =
      if ∃ j ∈ js, k.topic = j.topic ∧ k.key = j.key then
        (env.get? (variableName k.topic.name k.key)).or (d.said? k.topic.name k.key)
      else d.said? k.topic.name k.key := by
  induction js generalizing d with
  | nil => simp
  | cons j js ih =>
    rw [List.foldl_cons, ih (fun i hi => hjs i (List.mem_cons_of_mem j hi)),
      said?_overrideOption env d (hjs j List.mem_cons_self) hk]
    by_cases h : k.topic = j.topic ∧ k.key = j.key
    · -- overriding again with the same variable changes nothing
      have hmem : ∃ i ∈ j :: js, k.topic = i.topic ∧ k.key = i.key := ⟨j, List.mem_cons_self, h⟩
      rw [if_pos h, if_pos hmem, ← Option.or_assoc, Option.or_self, ite_self]
    · simp [h]

/-- An option is said what its variable says, else what it was before. -/
theorem said?_override (env : Environment) (d : Document) {k : Known} (hk : k ∈ Known.all) :
    (d.override env).said? k.topic.name k.key =
      (env.get? (variableName k.topic.name k.key)).or (d.said? k.topic.name k.key) := by
  unfold override
  rw [said?_foldl_overrideOption env hk Known.all (fun _ h => h), if_pos]
  exact ⟨k, hk, rfl, rfl⟩

/-! ### The defaults of the known options -/

theorem mem_known_all {t : Topic} {option : Text × Text} (h : option ∈ t.defaults) :
    ⟨t, option.1, option.2⟩ ∈ Known.all := by
  apply List.mem_flatMap.mpr
  exact ⟨t, t.mem_all, List.mem_map.mpr ⟨option, h, rfl⟩⟩

/-- The value that an option has when nothing else is said. -/
def builtIn? (name key : Text) : Option Text :=
  Topic.all.findSome? fun t =>
    if name = t.name then t.defaults.get? (Unicode.lower key) else none

theorem builtIn?_known : ∀ k ∈ Known.all, builtIn? k.topic.name k.key = some k.default := by
  decide +kernel

theorem populateOption_keeps {t : Topic} {option : Text × Text} (h : option ∈ t.defaults)
    (d : Document) : Keeps d (populateOption t.name d option) := by
  unfold populateOption
  split
  · exact Keeps.refl d
  · exact Keeps.put (mem_known_all h) d option.2

theorem populateTopic_keeps (d : Document) (t : Topic) : Keeps d (d.populateTopic t) :=
  (Keeps.ensureSection d t).trans
    (Keeps.foldl _ _ (fun _ h d => populateOption_keeps h d) (d.ensureSection t.name))

theorem populate_keeps (d : Document) : Keeps d d.populate :=
  Keeps.foldl _ _ (fun t _ d => populateTopic_keeps d t) d

theorem hasSection_populateTopic (d : Document) (t : Topic) :
    (d.populateTopic t).hasSection t.name = true := by
  apply (Keeps.foldl _ _ (fun _ h d => populateOption_keeps h d) (d.ensureSection t.name)).sections
  simp [hasSection_ensureSection]

theorem hasSection_populate (d : Document) (t : Topic) : d.populate.hasSection t.name = true := by
  apply foldl_reaches (p := fun d : Document => d.hasSection t.name = true) t.mem_all
  · exact fun d => hasSection_populateTopic d t
  · exact fun u _ d => (populateTopic_keeps d u).sections t.name

/-- Filling up overrides nothing that is said. -/
theorem said?_populateOption {d : Document} {t : Topic} (h : d.hasSection t.name = true)
    (option : Text × Text) (name key : Text) :
    (populateOption t.name d option).said? name key =
      (d.said? name key).or
        (if name = t.name ∧ Unicode.lower key = Unicode.lower option.1 then some option.2
          else none) := by
  unfold populateOption hasOption
  rw [get?_of_section h]
  by_cases ho : name = t.name ∧ Unicode.lower key = Unicode.lower option.1
  · have hsame : d.said? name key = d.said? t.name option.1 := by
      unfold said?
      rw [ho.1, ho.2]
    rw [if_pos ho, hsame]
    cases hd : d.said? t.name option.1 with
    | some value => simp [hsame, hd]
    | none => simp [said?_put, ho, h]
  · rw [if_neg ho, Option.or_none]
    split
    · rfl
    · rw [said?_put, if_neg (fun hc => ho hc.1)]

theorem hasSection_populateOption (t : Topic) (name : Text) (d : Document) (option : Text × Text) :
    (populateOption t.name d option).hasSection name = d.hasSection name := by
  unfold populateOption
  split
  · rfl
  · exact hasSection_put d t option.1 option.2 name

/-- Some of the options of a section filled in, one after the other. -/
theorem said?_foldl_populateOption (t : Topic) (options : Options)
    (hlower : ∀ o ∈ options, Unicode.lower o.1 = o.1) {d : Document}
    (h : d.hasSection t.name = true) (name key : Text) :
    (options.foldl (populateOption t.name) d).said? name key =
      (d.said? name key).or (if name = t.name then options.get? (Unicode.lower key) else none) := by
  induction options generalizing d with
  | nil => simp
  | cons o options ih =>
    have hs : (populateOption t.name d o).hasSection t.name = true := by
      rw [hasSection_populateOption, h]
    rw [List.foldl_cons, ih (fun p hp => hlower p (List.mem_cons_of_mem o hp)) hs,
      said?_populateOption h, hlower o List.mem_cons_self, Option.or_assoc]
    obtain ⟨n, value⟩ := o
    rw [Named.get?_cons]
    by_cases hn : name = t.name
    · by_cases hk : Unicode.lower key = n
      · simp [hn, hk]
      · simp [hn, hk]
    · simp [hn]

theorem said?_populateTopic (d : Document) (t : Topic) (name key : Text) :
    (d.populateTopic t).said? name key =
      (d.said? name key).or
        (if name = t.name then t.defaults.get? (Unicode.lower key) else none) := by
  have hlower : ∀ o ∈ t.defaults, Unicode.lower o.1 = o.1 :=
    fun o ho => Known.lower_key _ (mem_known_all ho)
  have hs : (d.ensureSection t.name).hasSection t.name = true := by
    simp [hasSection_ensureSection]
  unfold populateTopic
  rw [said?_foldl_populateOption t t.defaults hlower hs, said?_ensureSection]

/-- What is said already stays; what is not gets its built-in value. -/
theorem said?_populate (d : Document) (name key : Text) :
    d.populate.said? name key = (d.said? name key).or (builtIn? name key) := by
  unfold populate builtIn?
  induction Topic.all generalizing d with
  | nil => simp
  | cons t ts ih =>
    rw [List.foldl_cons, ih, said?_populateTopic, Option.or_assoc, List.findSome?_cons]
    cases (if name = t.name then t.defaults.get? (Unicode.lower key) else none) <;> rfl

/-! ### Settled documents -/

theorem settle_keeps (env : Environment) (d : Document) : Keeps d (settle env d) :=
  (override_keeps env d).trans (populate_keeps (d.override env))

/-- A settled option is what its variable says, else the file, else the default. -/
theorem said?_settle (env : Environment) (d : Document) {k : Known} (hk : k ∈ Known.all) :
    (settle env d).said? k.topic.name k.key =
      ((env.get? (variableName k.topic.name k.key)).or (d.said? k.topic.name k.key)).or
        (some k.default) := by
  unfold settle
  rw [said?_populate, said?_override env d hk, builtIn?_known k hk]

theorem hasSection_settle (env : Environment) (d : Document) (t : Topic) :
    (settle env d).hasSection t.name = true :=
  hasSection_populate (d.override env) t

end Document

end JsonTap.Config
