import JsonTap.Proofs.Config.Load
import JsonTap.Proofs.Config.Settled

/-!
# Documents in use

Settings that have been loaded are edited: options of any section are set to any text, the
environment changes and is applied again, defaults are filled in again. None of this takes the value
of an option away, so the known options that the getters read are there after any number of edits
(`InUse.defined`). What a getter gives is then told by their values, and values that are not fit for
use are refused as a fault of the configuration (`InUse.getters`).
-/

namespace JsonTap.Config

namespace Document

variable {d : Document} {name key : Text}

/-! ### No edit takes a value away -/

/-- An option is there if its section is, and has it or takes it from the defaults in the file. -/
theorem hasOption_iff :
    d.hasOption name key = true ↔ ∃ options, d.sections.get? name = some options ∧
      (options.has (Unicode.lower key) = true ∨ d.defaults.has (Unicode.lower key) = true) := by
  unfold hasOption get?
  cases d.sections.get? name with
  | none => simp
  | some options => simp [Named.has_eq_isSome]

theorem hasOption_ensureSection (h : d.hasOption name key = true) (n : Text) :
    (d.ensureSection n).hasOption name key = true := by
  obtain ⟨options, hoptions, hkey⟩ := hasOption_iff.mp h
  refine hasOption_iff.mpr ⟨options, ?_, hkey⟩
  unfold ensureSection
  rw [Named.get?_putNew, hoptions, Option.some_or]

/-- Writing into any section, or into the defaults. -/
theorem hasOption_put (h : d.hasOption name key = true) (n k v : Text) :
    (d.put n k v).hasOption name key = true := by
  obtain ⟨options, hoptions, hkey⟩ := hasOption_iff.mp h
  rw [hasOption_iff]
  unfold put
  dsimp only
  split
  · exact ⟨options, hoptions, hkey.imp_right fun hd => Named.has_put_of_has hd _ v⟩
  · rw [Named.get?_change, hoptions]
    by_cases hn : name = n
    · rw [if_pos hn]
      exact ⟨_, rfl, hkey.imp_left fun ho => Named.has_put_of_has ho _ v⟩
    · rw [if_neg hn]
      exact ⟨options, rfl, hkey⟩

/-- Setting an option removes none. -/
theorem hasOption_set (h : d.hasOption name key = true) (n k : Text) (v : Datum) :
    (d.set n k v).1.hasOption name key = true := by
  unfold Document.set
  split
  · exact h
  · dsimp only
    split
    · exact hasOption_ensureSection h n
    · exact hasOption_put (hasOption_ensureSection h n) n k _

theorem Defined.override (h : d.Defined) (env : Environment) : (d.override env).Defined := by
  intro k hk
  have hs : (d.override env).hasSection k.topic.name = true :=
    (override_keeps env d).sections k.topic.name (h.hasSection k.topic)
  have hsaid := h k hk
  rw [hasOption, get?_of_section (h.hasSection k.topic)] at hsaid
  rw [hasOption, get?_of_section hs, said?_override env d hk, Option.isSome_or, hsaid, Bool.or_true]

end Document

/-! ### Edits -/

/-- The documents that come of loaded settings by setting options of any section, by applying an
environment, which may be another one every time, and by filling in the defaults. -/
inductive InUse : Document → Prop
  | loaded {asked : Option Text} {env : Environment} {disk : Disk} {l : Loaded} :
      (load asked env disk).2 = .ok l → InUse l.document
  | set {d : Document} : InUse d → ∀ (name key : Text) (value : Datum),
      InUse (d.set name key value).1
  | override {d : Document} : InUse d → ∀ env : Environment, InUse (d.override env)
  | populate {d : Document} : InUse d → InUse d.populate

/-- In a document in use every known option has a value. -/
theorem InUse.defined {d : Document} (h : InUse d) : d.Defined := by
  induction h with
  | @loaded asked env disk l hload =>
    obtain ⟨d, note, -, -, hl⟩ := load_eq_ok_iff.mp hload
    have hdocument : l.document = settle env d := by rw [hl]
    rw [hdocument]
    exact Document.defined_settle env d
  | set _ name key value ih => exact fun k hk => Document.hasOption_set (ih k hk) name key value
  | override _ env ih => exact ih.override env
  | @populate d _ _ => exact d.defined_populate

/-! ### What the getters give -/

/-- A name without commas, and with no blank at its ends. -/
structure PlainHost (host : Text) : Prop where
  nonempty : host ≠ []
  no_comma : (',' : CodePoint) ∉ host
  begins : ∀ c, host.head? = some c → Unicode.isBlank c = false
  ends : ∀ c, host.getLast? = some c → Unicode.isBlank c = false

/-- The items of a list are plain hosts. -/
theorem plainHost_of_mem_listItems {t host : Text} (h : host ∈ Document.listItems t) :
    PlainHost host := by
  obtain ⟨hmem, hne⟩ := List.mem_filter.mp h
  obtain ⟨part, hpart, rfl⟩ := List.mem_map.mp hmem
  exact {
    nonempty := by simpa using hne
    no_comma := fun hc => Text.not_mem_of_mem_splitAt hpart (Text.trim_subset _ part hc)
    begins := fun _ => Text.not_of_head?_trim
    ends := fun _ => Text.not_of_getLast?_trim }

/-- An option has an effective value, of which something holds. -/
def Document.Shows (d : Document) (t : Topic) (key : Text) (p : Text → Prop) : Prop :=
  ∃ v, d.get? t.name key = some v ∧ p v

/-- Settings of the server that are those of a document, and are fit for use. -/
structure ServerSettings.Of (s : ServerSettings) (d : Document) : Prop where
  port : d.Shows .server "port" fun v => Written.int? v = some (s.port : Int)
  port_le : s.port ≤ 65535
  hosts : d.Shows .server "hosts" fun v => s.hosts = Document.listItems v
  hosts_ne : s.hosts ≠ []
  hosts_plain : ∀ host ∈ s.hosts, PlainHost host
  maxBodySize : d.Shows .server "max_body_size" fun v => parseSize? v = some (s.maxBodySize : Int)
  backlog : d.Shows .server "backlog" fun v => Written.int? v = some s.backlog

/-- Settings of logging that are those of a document, with a level and a format that are known. -/
structure LoggingSettings.Of (s : LoggingSettings) (d : Document) : Prop where
  level : d.Shows .logging "log_level" fun v => s.level = Unicode.upper (Unicode.strip v)
  level_known : (Log.Level.ofName? s.level).isSome = true
  format : d.Shows .logging "log_format" fun v =>
    s.format.name = Unicode.lower (Unicode.strip v)
  format_known : s.format.name = "text" ∨ s.format.name = "json"
  file : d.Shows .logging "log_file" fun v => s.file = Unicode.strip v

/-- Settings of the metrics that are those of a document, and are fit for use. -/
structure MetricsSettings.Of (s : MetricsSettings) (d : Document) : Prop where
  enabled : d.Shows .metrics "enabled" fun v =>
    s.enabled = Document.trueWords.contains (Unicode.lower (Unicode.strip v))
  host : d.Shows .metrics "host" fun v => s.host = Unicode.strip v
  port : d.Shows .metrics "port" fun v => Written.int? v = some (s.port : Int)
  port_le : s.port ≤ 65535

section

variable {d : Document}

/-- What is read of an option that is defined is its effective value. -/
theorem Document.Defined.shows_iff (h : d.Defined) (t : Topic) (key : Text)
    (hkey : ∃ k ∈ Known.all, k.topic = t ∧ k.key = key) (p : Text → Prop) :
    d.Shows t key p ↔ p (d.value t key) := by
  obtain ⟨k, hk, rfl, rfl⟩ := hkey
  obtain ⟨v, hv⟩ := Option.isSome_iff_exists.mp (h k hk)
  unfold Shows value
  rw [hv]
  constructor
  · rintro ⟨w, hw, hp⟩
    cases hw
    exact hp
  · exact fun hp => ⟨v, rfl, hp⟩

theorem LogFormat.name_known (f : LogFormat) : f.name = "text" ∨ f.name = "json" := by
  cases f
  · exact .inl rfl
  · exact .inr rfl

/-- The settings of the server are those that are fit for use, and no others. -/
theorem serverSettings_iff_of (h : d.Defined) (s : ServerSettings) :
    d.serverSettings = .ok s ↔ s.Of d := by
  have hport := h.shows_iff .server "port" (by decide)
  have hhosts := h.shows_iff .server "hosts" (by decide)
  have hsize := h.shows_iff .server "max_body_size" (by decide)
  have hbacklog := h.shows_iff .server "backlog" (by decide)
  rw [Document.serverSettings_eq_ok_iff]
  constructor
  · rintro ⟨⟨hs, hne⟩, hn, hb, hp, hle⟩
    refine ⟨(hport _).mpr hp, hle, (hhosts _).mpr hs, hne, ?_, (hsize _).mpr hn,
      (hbacklog _).mpr hb⟩
    intro host hmem
    rw [hs] at hmem
    exact plainHost_of_mem_listItems hmem
  · intro hof
    exact ⟨⟨(hhosts _).mp hof.hosts, hof.hosts_ne⟩, (hsize _).mp hof.maxBodySize,
      (hbacklog _).mp hof.backlog, (hport _).mp hof.port, hof.port_le⟩

/-- The settings of logging are those that are fit for use, and no others. -/
theorem loggingSettings_iff_of (h : d.Defined) (s : LoggingSettings) :
    d.loggingSettings = .ok s ↔ s.Of d := by
  have hlevel := h.shows_iff .logging "log_level" (by decide)
  have hformat := h.shows_iff .logging "log_format" (by decide)
  have hfile := h.shows_iff .logging "log_file" (by decide)
  rw [Document.loggingSettings_eq_ok_iff]
  constructor
  · rintro ⟨⟨hl, hknown⟩, hf, hp⟩
    exact ⟨(hlevel _).mpr hl, hknown, (hformat _).mpr hf, s.format.name_known, (hfile _).mpr hp⟩
  · intro hof
    exact ⟨⟨(hlevel _).mp hof.level, hof.level_known⟩, (hformat _).mp hof.format,
      (hfile _).mp hof.file⟩

/-- The settings of the metrics are those that are fit for use, and no others. -/
theorem metricsSettings_iff_of (h : d.Defined) (s : MetricsSettings) :
    d.metricsSettings = .ok s ↔ s.Of d := by
  have henabled := h.shows_iff .metrics "enabled" (by decide)
  have hhost := h.shows_iff .metrics "host" (by decide)
  have hport := h.shows_iff .metrics "port" (by decide)
  rw [Document.metricsSettings_eq_ok_iff]
  constructor
  · rintro ⟨he, hh, hp, hle⟩
    exact ⟨(henabled _).mpr he, (hhost _).mpr hh, (hport _).mpr hp, hle⟩
  · intro hof
    exact ⟨(henabled _).mp hof.enabled, (hhost _).mp hof.host, (hport _).mp hof.port, hof.port_le⟩

end

/-- **The getters of settings in use.** However loaded settings are edited, every known option has
an effective value. Each getter gives the settings that these values denote exactly if they are fit
for use: a port that fits, one host or more, each of them plain, a size and a queue that are
integers, a level and a format that are known. Otherwise it refuses them as a fault of the
configuration. -/
theorem InUse.getters {d : Document} (h : InUse d) :
    d.Defined ∧
      (Refuses d.serverSettings ∧ ∀ s, d.serverSettings = .ok s ↔ s.Of d) ∧
      (Refuses d.loggingSettings ∧ ∀ s, d.loggingSettings = .ok s ↔ s.Of d) ∧
      (Refuses d.metricsSettings ∧ ∀ s, d.metricsSettings = .ok s ↔ s.Of d) :=
  ⟨h.defined, ⟨d.refuses_serverSettings, serverSettings_iff_of h.defined⟩,
    ⟨d.refuses_loggingSettings, loggingSettings_iff_of h.defined⟩,
    d.refuses_metricsSettings, metricsSettings_iff_of h.defined⟩

/-- Settings that were loaded without a file, with hosts and a level set, and then a port by the
environment: those of the server are fit for use, and those of logging are refused. -/
theorem InUse.getters_after_edits :
    let loaded := settle [] .empty
    let set := ((loaded.set "server" "HOSTS" (.str " a ,, ::1 ")).1.set "logging" "log_level"
      (.str "loud")).1
    let d := (set.override [("LISTENER_SERVER_PORT", " 7_0 ")]).populate
    (load none [] .bare).2 = .ok ⟨usualFile, loaded⟩ ∧ InUse d ∧
      ServerSettings.Of ⟨70, ["a", "::1"], 0, 128⟩ d ∧ ¬ ∃ s : LoggingSettings, s.Of d := by
  intro loaded set d
  have hload : (load none [] .bare).2 = .ok ⟨usualFile, loaded⟩ :=
    load_eq_ok_iff.mpr ⟨.empty, _, rfl, toOption_eq_some_iff.mp (by decide +kernel), rfl⟩
  have huse : InUse d := ((((InUse.loaded hload).set _ _ _).set _ _ _).override _).populate
  obtain ⟨-, ⟨-, hserver⟩, ⟨-, hlogging⟩, -⟩ := huse.getters
  have hvalues : d.serverSettings.toOption = some ⟨70, ["a", "::1"], 0, 128⟩ ∧
      d.loggingSettings.toOption = none := by
    decide +kernel
  refine ⟨hload, huse, (hserver _).mp (toOption_eq_some_iff.mp hvalues.1), ?_⟩
  rintro ⟨s, hs⟩
  have hnone := hvalues.2
  rw [(hlogging s).mpr hs] at hnone
  cases hnone

end JsonTap.Config
