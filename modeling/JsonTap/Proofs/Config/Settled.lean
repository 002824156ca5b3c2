import JsonTap.Proofs.Config.Document

/-!
# Overriding and filling up

Overriding writes what the variables say, and filling up writes the defaults that are missing. Where
this is written already nothing changes (`override_eq_self`, `populate_eq_self`), so that doing
either twice is doing it once. Done in either order, both show the same value for every option: that
of its variable, else the one that was shown before, else the default
(`settled_in_either_order`).
-/

namespace JsonTap.Config.Document

variable {d : Document} {t u : Topic} {key other value : Text}

/-! ### Values that are written already -/

/-- A known section is there and has a value for an option itself. Should there be more sections of
the name, all of them have it, since a value is written into each. -/
structure Writes (d : Document) (t : Topic) (key value : Text) : Prop where
  there : d.hasSection t.name = true
  written : ∀ options, (t.name, options) ∈ d.sections →
    options.get? (Unicode.lower key) = some value

theorem ensureSection_of_section {name : Text} (h : d.hasSection name = true) :
    d.ensureSection name = d := by
  unfold ensureSection
  rw [Named.putNew_of_has h]

/-- Writing a value that is written already changes nothing. -/
theorem setText_of_writes (h : d.Writes t key value) : d.setText t key value = d := by
  unfold setText
  rw [ensureSection_of_section h.there, put_topic, Named.change_of_forall]
  intro options hoptions
  exact Named.put_of_get? (h.written options hoptions)

/-- Putting an option changes the section of its topic only. -/
theorem mem_sections_put {options : Options} :
    (t.name, options) ∈ (d.put u.name key value).sections ↔
      ∃ old, (t.name, old) ∈ d.sections ∧
        options = if t = u then old.put (Unicode.lower key) value else old := by
  rw [put_topic]
  show (t.name, options) ∈ d.sections.map _ ↔ _
  rw [List.mem_map]
  constructor
  · rintro ⟨⟨name, old⟩, hold, heq⟩
    dsimp only at heq
    by_cases hu : name = u.name
    · rw [if_pos hu] at heq
      obtain ⟨rfl, rfl⟩ := Prod.mk.inj heq
      exact ⟨old, hold, by rw [if_pos (Topic.name_injective hu)]⟩
    · rw [if_neg hu] at heq
      obtain ⟨rfl, rfl⟩ := Prod.mk.inj heq
      exact ⟨old, hold, by rw [if_neg fun htu => hu (congrArg Topic.name htu)]⟩
  · rintro ⟨old, hold, rfl⟩
    refine ⟨(t.name, old), hold, ?_⟩
    simp only [Topic.name_injective.eq_iff]
    split <;> rfl

/-- Adding a section changes no other. -/
theorem mem_sections_ensureSection {options : Options} (htu : t ≠ u)
    (h : (t.name, options) ∈ (d.ensureSection u.name).sections) :
    (t.name, options) ∈ d.sections := by
  unfold ensureSection Named.putNew at h
  dsimp only at h
  split at h
  · exact h
  · obtain h | h := List.mem_append.mp h
    · exact h
    · have hname := (Prod.mk.inj (List.mem_singleton.mp h)).1
      exact absurd (Topic.name_injective hname) htu

theorem hasSection_setText (d : Document) (t : Topic) (key value : Text) :
    (d.setText t key value).hasSection t.name = true := by
  unfold setText
  rw [hasSection_put, hasSection_ensureSection]
  simp

/-- An option that is set is written. -/
theorem writes_setText (d : Document) (t : Topic) (key value : Text) :
    (d.setText t key value).Writes t key value := by
  refine ⟨hasSection_setText d t key value, ?_⟩
  intro options hoptions
  obtain ⟨old, -, rfl⟩ := mem_sections_put.mp hoptions
  rw [if_pos rfl, Named.get?_put, if_pos rfl]

/-- Writing another option leaves a value that is written. -/
theorem Writes.setText (h : d.Writes t key value)
    (hne : ¬ (t = u ∧ Unicode.lower key = Unicode.lower other)) (v : Text) :
    (d.setText u other v).Writes t key value := by
  unfold Document.setText
  refine ⟨?_, ?_⟩
  · rw [hasSection_put, hasSection_ensureSection, h.there, Bool.or_true]
  · intro options hoptions
    obtain ⟨old, hold, rfl⟩ := mem_sections_put.mp hoptions
    by_cases htu : t = u
    · subst htu
      rw [ensureSection_of_section h.there] at hold
      rw [if_pos rfl, Named.get?_put, if_neg fun hkey => hne ⟨rfl, hkey⟩]
      exact h.written old hold
    · rw [if_neg htu]
      exact h.written old (mem_sections_ensureSection htu hold)

/-! ### Overriding -/

/-- The variable of an option. -/
theorem variable_eq {j k : Known} (h : k.topic = j.topic ∧ k.key = j.key) :
    variableName j.topic.name j.key = variableName k.topic.name k.key := by
  rw [h.1, h.2]

/-- A variable that is there sets its option. -/
theorem overrideOption_of_some {env : Environment} {k : Known} {v : Text}
    (hv : env.get? (variableName k.topic.name k.key) = some v) (d : Document) :
    overrideOption env d k = d.setText k.topic k.key v := by
  unfold overrideOption
  rw [hv]
  rfl

/-- A variable that is not there changes nothing. -/
theorem overrideOption_of_none {env : Environment} {k : Known}
    (hv : env.get? (variableName k.topic.name k.key) = none) (d : Document) :
    overrideOption env d k = d := by
  unfold overrideOption
  rw [hv]

/-- What the variable of one option says stays written while others are overridden. -/
theorem Writes.overrideOption {env : Environment} {j k : Known} (hj : j ∈ Known.all)
    (hk : k ∈ Known.all) {v : Text}
    (hv : env.get? (variableName k.topic.name k.key) = some v) (h : d.Writes k.topic k.key v) :
    (overrideOption env d j).Writes k.topic k.key v := by
  cases hw : env.get? (variableName j.topic.name j.key) with
  | none =>
    rw [overrideOption_of_none hw]
    exact h
  | some w =>
    rw [overrideOption_of_some hw]
    by_cases hsame : k.topic = j.topic ∧ k.key = j.key
    · -- the same option has the same variable
      rw [variable_eq hsame, hv] at hw
      rw [hsame.1, hsame.2, Option.some.inj hw]
      exact writes_setText d j.topic j.key w
    · apply h.setText
      rw [Known.lower_key k hk, Known.lower_key j hj]
      exact hsame

/-- Every variable that is there has written its option. -/
theorem writes_override (env : Environment) (d : Document) {k : Known} (hk : k ∈ Known.all)
    {v : Text} (hv : env.get? (variableName k.topic.name k.key) = some v) :
    (d.override env).Writes k.topic k.key v := by
  unfold override
  apply foldl_reaches (p := fun d : Document => d.Writes k.topic k.key v) hk
  · intro d
    rw [overrideOption_of_some hv]
    exact writes_setText d k.topic k.key v
  · intro j hj d h
    exact h.overrideOption hj hk hv

/-- Where everything is written that the variables say, overriding changes nothing. -/
theorem override_eq_self {env : Environment}
    (h : ∀ k ∈ Known.all, ∀ v, env.get? (variableName k.topic.name k.key) = some v →
      d.Writes k.topic k.key v) : d.override env = d := by
  apply foldl_of_fixed
  intro k hk
  cases hv : env.get? (variableName k.topic.name k.key) with
  | none => exact overrideOption_of_none hv d
  | some v => rw [overrideOption_of_some hv, setText_of_writes (h k hk v hv)]

/-! ### Filling up -/

def Defined (d : Document) : Prop := ∀ k ∈ Known.all, d.hasOption k.topic.name k.key = true

theorem hasSection_of_hasOption {name : Text} (h : d.hasOption name key = true) :
    d.hasSection name = true := by
  rw [hasOption, get?_eq_said?] at h
  split at h
  · next hs => exact hs
  · cases h

theorem Defined.hasSection (h : d.Defined) (t : Topic) : d.hasSection t.name = true := by
  obtain ⟨k, hk, rfl⟩ : ∃ k ∈ Known.all, k.topic = t := by cases t <;> decide
  exact hasSection_of_hasOption (h k hk)

/-- Where every known option has a value, filling up changes nothing. -/
theorem populate_eq_self (h : d.Defined) : d.populate = d := by
  apply foldl_of_fixed
  intro t _
  unfold populateTopic
  rw [ensureSection_of_section (h.hasSection t)]
  apply foldl_of_fixed
  intro option hoption
  exact if_pos (h _ (mem_known_all hoption))

/-- In a document that is filled up, a known option has what is said of it or its default. -/
theorem get?_populate (d : Document) {k : Known} (hk : k ∈ Known.all) :
    d.populate.get? k.topic.name k.key = some ((d.said? k.topic.name k.key).getD k.default) := by
  rw [get?_of_section (hasSection_populate d k.topic), said?_populate, builtIn?_known k hk]
  cases d.said? k.topic.name k.key <;> rfl

/-- In a document that is filled up every known option has a value. -/
theorem defined_populate (d : Document) : d.populate.Defined := by
  intro k hk
  rw [hasOption, get?_populate d hk, Option.isSome_some]

theorem defined_settle (env : Environment) (d : Document) : (settle env d).Defined :=
  defined_populate (d.override env)

/-! ### Both -/

/-- The sections of a document that keeps another one and has all known sections. -/
theorem Keeps.hasSection_iff {d' : Document} (h : Keeps d d')
    (hall : ∀ t : Topic, d'.hasSection t.name = true) (name : Text) :
    d'.hasSection name = true ↔ d.hasSection name = true ∨ ∃ t : Topic, name = t.name := by
  constructor
  · exact h.added name
  · rintro (hname | ⟨t, rfl⟩)
    · exact h.sections name hname
    · exact hall t

theorem said?_congr (d : Document) {name key key' : Text}
    (h : Unicode.lower key = Unicode.lower key') : d.said? name key = d.said? name key' := by
  rw [said?_eq, said?_eq, h]

/-- What is said of an option does not depend on the order either. -/
theorem said?_comm (env : Environment) (d : Document) (name key : Text) :
    (d.override env).populate.said? name key = (d.populate.override env).said? name key := by
  by_cases h : ∃ k ∈ Known.all, k.At name key
  · obtain ⟨k, hk, rfl, hkey⟩ := h
    have hlower := hkey.trans (Known.lower_key k hk).symm
    rw [said?_congr _ hlower, said?_congr _ hlower, said?_populate, said?_override env d hk,
      said?_override env d.populate hk, said?_populate, Option.or_assoc]
  · have hother : ∀ k ∈ Known.all, ¬ k.At name key := fun k hk hat => h ⟨k, hk, hat⟩
    rw [((override_keeps env d).trans (populate_keeps _)).others name key hother,
      ((populate_keeps d).trans (override_keeps env _)).others name key hother]

/-- **Overriding and filling up.** Each of them done twice is the same as done once, and in either
order every option of every section has the same effective value. Filling up changes no value that
an option has already, its own or that of the defaults. Neither adds a section that is not known, or
writes an option that is not. In the end every known option has a value: that of its variable, else
its own, else that of the defaults, else the one that is built in. -/
theorem settled_in_either_order (env : Environment) (d : Document) :
    (d.override env).override env = d.override env ∧ d.populate.populate = d.populate ∧
      (∀ name key, (d.override env).populate.get? name key =
        (d.populate.override env).get? name key) ∧
      (∀ name key value, d.get? name key = some value → d.populate.get? name key = some value) ∧
      d.Keeps (d.override env) ∧ d.Keeps d.populate ∧
      ∀ k ∈ Known.all, (d.override env).populate.get? k.topic.name k.key =
        some (((env.get? (variableName k.topic.name k.key)).or
          ((d.own? k.topic.name k.key).or (d.defaults.get? k.key))).getD k.default) := by
  refine ⟨?_, ?_, ?_, ?_, override_keeps env d, populate_keeps d, ?_⟩
  · exact override_eq_self fun k hk v hv => writes_override env d hk hv
  · exact populate_eq_self (defined_populate d)
  · intro name key
    have hsections : (d.override env).populate.hasSection name =
        (d.populate.override env).hasSection name := by
      rw [Bool.eq_iff_iff,
        ((override_keeps env d).trans (populate_keeps _)).hasSection_iff (hasSection_populate _),
        ((populate_keeps d).trans (override_keeps env _)).hasSection_iff fun t =>
          (override_keeps env _).sections t.name (hasSection_populate d t)]
    rw [get?_eq_said?, get?_eq_said?, hsections, said?_comm]
  · intro name key value hvalue
    have hs : d.hasSection name = true := hasSection_of_hasOption (by rw [hasOption, hvalue]; rfl)
    rw [get?_of_section hs] at hvalue
    rw [get?_of_section ((populate_keeps d).sections name hs), said?_populate, hvalue,
      Option.some_or]
  · intro k hk
    rw [get?_populate _ hk, said?_override env d hk, said?_eq, Known.lower_key k hk]

end JsonTap.Config.Document
