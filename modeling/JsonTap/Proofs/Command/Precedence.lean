import JsonTap.Command.Run
import JsonTap.Proofs.Config.Settings

/-!
# Which source a setting comes from

A setting can be told by the command line, by its environment variable, by its section of the file,
by the defaults of the file, and it is known to the program. The first of these that says something
decides, and no other option of the file is touched. The settings are loaded exactly if the values
without the command line pass all checks and those with it do as well.
-/

namespace JsonTap.Command

open Config (Document Environment Known Loaded)

/-! ### The sources -/

/-- What the command line says about an option. A level without letters and a list without hosts say
nothing. -/
def Options.flag (o : Options) (k : Known) : Option Text :=
  match k.topic with
  | .server =>
    if k.key = "port" then o.port.map Text.ofInt
    else if k.key = "hosts" then (o.hosts.filter (!·.isEmpty)).map (Text.join ",")
    else if k.key = "max_body_size" then o.maxBodySize
    else none
  | .logging => if k.key = "log_level" then o.logLevel.filter (!·.isEmpty) else none
  | .metrics => none

/-- What each source says about an option, the first one to be heard first. -/
def sources (o : Options) (env : Environment) (file : Document) (k : Known) : List (Option Text) :=
  [o.flag k,
    env.get? (Config.variableName k.topic.name k.key),
    (file.sections.get? k.topic.name).bind (·.get? k.key),
    file.defaults.get? k.key]

/-- The value of an option by the first source that has one. -/
def effective (o : Options) (env : Environment) (file : Document) (k : Known) : Text :=
  ((sources o env file k).findSome? id).getD k.default

/-! ### The command line over a document -/

/-- Overriding one setting sets it if there is something to set, and leaves the others. -/
theorem said?_overrideWith {j k : Known} (hj : j ∈ Known.all) (hk : k ∈ Known.all)
    (value : Option Text) (d : Document) :
    (overrideWith j.topic j.key value d).said? k.topic.name k.key =
      if k.topic = j.topic ∧ k.key = j.key then value.or (d.said? k.topic.name k.key)
      else d.said? k.topic.name k.key := by
  cases value with
  | none => simp [overrideWith]
  | some v =>
    show (d.setText j.topic j.key v).said? k.topic.name k.key = _
    rw [Document.said?_setText_known d hj hk, Option.some_or]

/-- Overriding a known setting keeps everything else. -/
theorem overrideWith_keeps {j : Known} (hj : j ∈ Known.all) (value : Option Text) (d : Document) :
    d.Keeps (overrideWith j.topic j.key value d) := by
  cases value with
  | none => exact .refl d
  | some v => exact .setText hj d v

namespace Options

theorem hostsSetting_eq (o : Options) :
    o.hostsSetting = (o.hosts.filter (!·.isEmpty)).map (Text.join ",") := by
  unfold hostsSetting
  match o.hosts with
  | none => rfl
  | some [] => rfl
  | some (h :: hs) => rfl

theorem port_known : (⟨.server, "port", "8888"⟩ : Known) ∈ Known.all := by decide

theorem hosts_known : (⟨.server, "hosts", "0.0.0.0,::"⟩ : Known) ∈ Known.all := by decide

theorem maxBodySize_known : (⟨.server, "max_body_size", "0"⟩ : Known) ∈ Known.all := by decide

theorem logLevel_known : (⟨.logging, "log_level", "INFO"⟩ : Known) ∈ Known.all := by decide

/-- The command line keeps everything but known settings. -/
theorem override_keeps (o : Options) (d : Document) : d.Keeps (o.override d) :=
  (((overrideWith_keeps port_known _ d).trans (overrideWith_keeps hosts_known _ _)).trans
    (overrideWith_keeps maxBodySize_known _ _)).trans (overrideWith_keeps logLevel_known _ _)

/-- What the command line says about an option is said of it, and what it does not mention is said
as before. -/
theorem said?_override (o : Options) (d : Document) {k : Known} (hk : k ∈ Known.all) :
    (o.override d).said? k.topic.name k.key = (o.flag k).or (d.said? k.topic.name k.key) := by
  unfold override
  rw [said?_overrideWith logLevel_known hk, said?_overrideWith maxBodySize_known hk,
    said?_overrideWith hosts_known hk, said?_overrideWith port_known hk, hostsSetting_eq]
  unfold flag levelSetting
  have hph : ("port" : Text) ≠ "hosts" := by decide
  have hpm : ("port" : Text) ≠ "max_body_size" := by decide
  have hhm : ("hosts" : Text) ≠ "max_body_size" := by decide
  cases k.topic with
  | server =>
    by_cases hp : k.key = "port"
    · simp [hp, hph, hpm]
    · by_cases hh : k.key = "hosts"
      · simp [hh, hph.symm, hhm]
      · by_cases hm : k.key = "max_body_size"
        · simp [hm, hpm.symm, hhm.symm]
        · simp [hp, hh, hm]
  | logging =>
    by_cases hl : k.key = "log_level"
    · simp [hl]
    · simp [hl]
  | metrics => simp

end Options

/-! ### Loaded settings -/

/-- An effective value is that of the flag, the variable, the file, or the default. -/
theorem some_effective (o : Options) (env : Environment) (file : Document) {k : Known}
    (hk : k ∈ Known.all) :
    some (effective o env file k) =
      (o.flag k).or
        (((env.get? (Config.variableName k.topic.name k.key)).or
          (file.said? k.topic.name k.key)).or (some k.default)) := by
  unfold effective sources Document.said?
  rw [Known.lower_key k hk]
  cases o.flag k with
  | some v => rfl
  | none =>
    cases env.get? (Config.variableName k.topic.name k.key) with
    | some v => rfl
    | none =>
      cases (file.sections.get? k.topic.name).bind (·.get? k.key) with
      | some v => rfl
      | none => cases file.defaults.get? k.key <;> rfl

/-- The value that an option has in the end. -/
theorem get?_override_settle (o : Options) (env : Environment) (file : Document) {k : Known}
    (hk : k ∈ Known.all) :
    (o.override (Config.settle env file)).get? k.topic.name k.key =
      some (effective o env file k) := by
  have hs : (o.override (Config.settle env file)).hasSection k.topic.name = true :=
    (o.override_keeps _).sections k.topic.name (Document.hasSection_settle env file k.topic)
  rw [Document.get?_of_section hs, o.said?_override _ hk, Document.said?_settle env file hk,
    some_effective o env file hk]

/-- Hosts on the command line are the effective ones. -/
theorem effective_hosts {o : Options} (env : Environment) (file : Document) {hs : List Text}
    (h : o.hosts = some hs) (hne : hs ≠ []) :
    effective o env file ⟨.server, "hosts", "0.0.0.0,::"⟩ = Text.join "," hs := by
  have hflag : o.flag ⟨.server, "hosts", "0.0.0.0,::"⟩ = some (Text.join "," hs) := by
    have hsome : (some hs).filter (!·.isEmpty) = some hs := by simp [hne]
    show (o.hosts.filter (!·.isEmpty)).map (Text.join ",") = _
    rw [h, hsome]
    rfl
  unfold effective sources
  rw [hflag]
  rfl

theorem override_empty (d : Document) : Options.empty.override d = d := rfl

theorem flag_metrics (o : Options) {k : Known} (h : k.topic = .metrics) : o.flag k = none := by
  unfold Options.flag
  rw [h]

/-- The command line says nothing about the metrics. -/
theorem agree_metrics (o : Options) (env : Environment) (file : Document) :
    Document.Agree .metrics (o.override (Config.settle env file)) (Config.settle env file) := by
  intro k hk ht
  rw [← ht, get?_override_settle o env file hk, ← override_empty (Config.settle env file),
    get?_override_settle .empty env file hk, some_effective o env file hk,
    some_effective .empty env file hk, flag_metrics o ht, flag_metrics .empty ht]

theorem checkOverridden_ok_iff (d : Document) :
    checkOverridden d = .ok () ↔
      (∃ s, d.serverSettings = .ok s) ∧ ∃ s, d.loggingSettings = .ok s := by
  unfold checkOverridden
  simp [Config.bind_eq_ok_iff]

/-- The second check leaves out the metrics, which have been checked already. -/
theorem checkOverridden_iff_check (o : Options) (env : Environment) (file : Document)
    (hbefore : (Config.settle env file).check = .ok ()) :
    checkOverridden (o.override (Config.settle env file)) = .ok () ↔
      (o.override (Config.settle env file)).check = .ok () := by
  have hmetrics := ((Document.check_ok_iff _).mp hbefore).2.2
  rw [checkOverridden_ok_iff, Document.check_ok_iff, (agree_metrics o env file).metricsSettings]
  simp [hmetrics]

/-- The checks depend on the effective values alone. -/
theorem check_override_settle (o : Options) (env : Environment) (file : Document) :
    (o.override (Config.settle env file)).check =
      (Document.ofValues (effective o env file)).check :=
  Document.check_eq_check_ofValues fun _ hk => get?_override_settle o env file hk

section

variable {o : Options} {env : Environment} {disk : Disk} {file : Document} {note : Log.Record}

/-- Settings are loaded exactly if they pass the checks before and after the command line. -/
theorem loadSettings_ok_iff
    (hfile : Config.readFile disk (Config.chooseFile o.config env) = .ok (file, note))
    (l : Loaded) :
    (loadSettings o env disk).2 = .ok l ↔
      (Config.settle env file).check = .ok () ∧
        (o.override (Config.settle env file)).check = .ok () ∧
        l = ⟨Config.chooseFile o.config env, o.override (Config.settle env file)⟩ := by
  unfold loadSettings Config.load
  simp only [hfile]
  cases hbefore : (Config.settle env file).check with
  | error f => simp
  | ok u =>
    have hafter := checkOverridden_iff_check o env file hbefore
    cases hc : checkOverridden (o.override (Config.settle env file)) with
    | error f =>
      have hno : (o.override (Config.settle env file)).check ≠ .ok () := by
        intro h
        have hok := hafter.mpr h
        rw [hc] at hok
        cases hok
      simp [hc, hno]
    | ok v => simp [hc, hafter.mp hc, eq_comm]

end

/-- **The first source that says something decides.** -/
theorem loadSettings_by_precedence (o : Options) (env : Environment) (disk : Disk)
    (file : Document) (note : Log.Record)
    (hfile : Config.readFile disk (Config.chooseFile o.config env) = .ok (file, note)) :
    ((∃ l, (loadSettings o env disk).2 = .ok l) ↔
      (Document.ofValues (effective .empty env file)).check = .ok () ∧
        (Document.ofValues (effective o env file)).check = .ok ()) ∧
    ∀ l, (loadSettings o env disk).2 = .ok l →
      (∀ k ∈ Known.all, l.document.get? k.topic.name k.key = some (effective o env file k)) ∧
      (∀ name key value, (∀ k ∈ Known.all, ¬ k.At name key) →
        file.get? name key = some value → l.document.get? name key = some value) ∧
      l.document.defaults = file.defaults ∧
      (∀ hs, o.hosts = some hs → hs ≠ [] →
        (∀ h ∈ hs, (',' : CodePoint) ∉ h ∧ Unicode.strip h ≠ []) →
        ∃ s, l.document.serverSettings = .ok s ∧ s.hosts = hs.map Unicode.strip) := by
  have hbefore := check_override_settle .empty env file
  rw [override_empty] at hbefore
  have hafter := check_override_settle o env file
  refine ⟨?_, ?_⟩
  · -- the two checks of the program are those of the values before and after
    rw [← hbefore, ← hafter]
    constructor
    · rintro ⟨l, hl⟩
      have h := (loadSettings_ok_iff hfile l).mp hl
      exact ⟨h.1, h.2.1⟩
    · rintro ⟨hb, ha⟩
      exact ⟨_, (loadSettings_ok_iff hfile _).mpr ⟨hb, ha, rfl⟩⟩
  · intro l hl
    obtain ⟨-, hcheck, rfl⟩ := (loadSettings_ok_iff hfile l).mp hl
    have hkeeps := (Document.settle_keeps env file).trans (o.override_keeps _)
    refine ⟨?_, ?_, hkeeps.defaults, ?_⟩
    · intro k hk
      exact get?_override_settle o env file hk
    · intro name key value hother hvalue
      exact hkeeps.get? hother hvalue
    · intro hs hhosts hne hplain
      obtain ⟨s, hserver⟩ := ((Document.check_ok_iff _).mp hcheck).1
      refine ⟨s, hserver, ?_⟩
      have hvalue := get?_override_settle o env file Options.hosts_known
      rw [Document.hosts_of_serverSettings hserver, Document.value, hvalue,
        effective_hosts env file hhosts hne]
      exact Document.listItems_join hne hplain

/-! ### One file under every source -/

/-- A file with defaults of its own and with an option that the program does not know. -/
def layeredFile : Document where
  defaults := [("host", "inner"), ("port", "1")]
  sections := [("server", [("port", "2"), ("note", "kept")])]

def layeredContent : List Octet := Utf8.encode
  "[DEFAULT]\nhost = inner\nport = 1\n[server]\nport = 2\nnote = kept\n"

def layeredDisk : Disk := .ofEntries ["srv"] [("a.conf", .file layeredContent)]

def layeredEnvironment : Environment :=
  [("LISTENER_SERVER_PORT", "9000"), ("LISTENER_LOGGING_LOG_FILE", "")]

def layeredOptions : Options where
  config := some "a.conf"
  port := none
  hosts := some ["localhost", " ::1 "]
  maxBodySize := some "2kb"
  logLevel := some ""

theorem readFile_layeredDisk :
    Config.readFile layeredDisk (Config.chooseFile layeredOptions.config layeredEnvironment) =
      .ok (layeredFile,
        Config.fileNote (Text.ofString "Read configuration file " ++ "a.conf")) := by
  have hpath : Config.chooseFile layeredOptions.config layeredEnvironment = "a.conf" := by
    decide +kernel
  have hfind : layeredDisk.find? "a.conf" = some (.file layeredContent) := by decide +kernel
  have hread : (Config.Ini.readFile layeredContent).toOption = some layeredFile := by
    decide +kernel
  rw [hpath]
  unfold Config.readFile
  rw [hfind]
  cases h : Config.Ini.readFile layeredContent with
  | error f => simp [h, Except.toOption] at hread
  | ok d =>
    have hd : d = layeredFile := by simpa [h, Except.toOption] using hread
    rw [← hd]
    simp only [h]

theorem ofValues_layeredFile_passes (o : Options)
    (h : (Document.ofValues (effective o layeredEnvironment layeredFile)).check.isOk = true) :
    (Document.ofValues (effective o layeredEnvironment layeredFile)).check = .ok () := by
  match hcheck : (Document.ofValues (effective o layeredEnvironment layeredFile)).check with
  | .ok () => rfl
  | .error f => simp [hcheck, Except.isOk, Except.toBool] at h

theorem loadSettings_by_precedence_layered :
    ∃ l, (loadSettings layeredOptions layeredEnvironment layeredDisk).2 = .ok l ∧
      l.document.get? "server" "port" = some "9000" ∧
      l.document.get? "server" "max_body_size" = some "2kb" ∧
      l.document.get? "metrics" "host" = some "inner" ∧
      l.document.get? "logging" "log_level" = some "INFO" ∧
      l.document.get? "server" "note" = some "kept" ∧
      ∃ s, l.document.serverSettings = .ok s ∧
        s.hosts = [Text.ofString "localhost", Text.ofString "::1"] := by
  obtain ⟨hloads, hvalues⟩ := loadSettings_by_precedence layeredOptions layeredEnvironment
    layeredDisk layeredFile _ readFile_layeredDisk
  obtain ⟨l, hl⟩ := hloads.mpr ⟨ofValues_layeredFile_passes .empty (by decide +kernel),
    ofValues_layeredFile_passes layeredOptions (by decide +kernel)⟩
  obtain ⟨hknown, hothers, -, hhosts⟩ := hvalues l hl
  have hvalue : ∀ (k : Known) (v : Text), k ∈ Known.all →
      effective layeredOptions layeredEnvironment layeredFile k = v →
      l.document.get? k.topic.name k.key = some v :=
    fun k v hk hv => by rw [hknown k hk, hv]
  refine ⟨l, hl, ?_, ?_, ?_, ?_, ?_, ?_⟩
  · exact hvalue ⟨.server, "port", "8888"⟩ "9000" (by decide) (by decide +kernel)
  · exact hvalue ⟨.server, "max_body_size", "0"⟩ "2kb" (by decide) (by decide +kernel)
  · exact hvalue ⟨.metrics, "host", ""⟩ "inner" (by decide) (by decide +kernel)
  · exact hvalue ⟨.logging, "log_level", "INFO"⟩ "INFO" (by decide) (by decide +kernel)
  · exact hothers "server" "note" "kept" (by decide +kernel) (by decide +kernel)
  · exact hhosts _ rfl (by decide) (by decide +kernel)

end JsonTap.Command
