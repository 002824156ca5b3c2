import JsonTap.Proofs.Command.Precedence
import JsonTap.Proofs.Config.LogFile
import JsonTap.Proofs.Service.Course

/-!
# Starting the service

Once the settings are loaded, the program sets logging up and runs the service. The calls of the
run come in one order whatever fails on the way, and every socket that was made is closed
(`start_in_order`). A run in which no host can be bound, or the system refuses to let the metrics be
offered, is a fault of the listener: it is logged, and the code is one. A log file that cannot be
opened goes through the program instead (`run_ends`, `log_below_file_goes_through`).
-/

namespace JsonTap

/-! ## Records and the disk -/

namespace Log

def Sink.NoFile (s : Sink) : Prop := ∀ h ∈ s.handlers, ∀ path, h.target ≠ .file path

/-- What goes to a stream does not touch the disk. -/
theorem Output.disk_write (o : Output) {target : Target} (h : ∀ path, target ≠ .file path)
    (t : Text) : (o.write target t).disk = o.disk := by
  cases target with
  | standardOutput => rfl
  | standardError => rfl
  | file path => exact absurd rfl (h path)

theorem Output.disk_foldl_write (o : Output) {ws : List (Target × Text)}
    (h : ∀ w ∈ ws, ∀ path, w.1 ≠ .file path) :
    (ws.foldl (fun o (target, t) => o.write target t) o).disk = o.disk := by
  induction ws generalizing o with
  | nil => rfl
  | cons w ws ih =>
    obtain ⟨hw, hws⟩ := List.forall_mem_cons.mp h
    rw [List.foldl_cons, ih _ hws]
    exact o.disk_write hw w.2

/-- Without a handler for a file, records do not touch the disk. -/
theorem Sink.NoFile.disk_emit {s : Sink} (h : s.NoFile) (o : Output) (created : Double)
    (bound : Fields) (r : Record) : (o.emit s created bound r).disk = o.disk := by
  apply o.disk_foldl_write
  intro w hw
  unfold Sink.output at hw
  split at hw
  · obtain ⟨handler, hhandler, rfl⟩ := List.mem_map.mp hw
    exact h handler hhandler
  · cases hw

theorem Sink.NoFile.disk_emitAll {s : Sink} (h : s.NoFile) (o : Output) (created : Double)
    (rs : List Record) : (o.emitAll s created rs).disk = o.disk := by
  induction rs generalizing o with
  | nil => rfl
  | cons r rs ih =>
    show ((o.emit s created [] r).emitAll s created rs).disk = o.disk
    rw [ih, h.disk_emit]

end Log

namespace Command

open Config (Loaded LoggingSettings MetricsSettings ServerSettings)
open Net (Attempts Listener Network ServeFault boundSockets unclosed)
open Service (bindings exporterCalls servingCalls)

/-! ## From the settings to the service -/

/-- Until logging is set up, records go to no file. -/
theorem noFile_firstSink : firstSink.NoFile := by
  intro h hh path
  rw [List.mem_singleton.mp hh]
  nofun

section

variable {s : Surroundings} {o : Options} {l : Loaded}

/-- Settings that are loaded pass all checks. -/
theorem check_of_loaded (hload : (loadSettings o s.environment s.disk).2 = .ok l) :
    l.document.check = .ok () := by
  cases hfile : Config.readFile s.disk (Config.chooseFile o.config s.environment) with
  | error e =>
    rw [loadSettings, Config.load] at hload
    simp only [hfile] at hload
    cases hload
  | ok r =>
    obtain ⟨-, hcheck, rfl⟩ := (loadSettings_ok_iff hfile l).mp hload
    exact hcheck

/-- The program when it has loaded its settings, before it sets logging up. -/
def loadedOutput (s : Surroundings) (o : Options) : Log.Output :=
  (⟨[], [], s.disk⟩ : Log.Output).emitAll firstSink s.now (loadSettings o s.environment s.disk).1

/-- Loading the settings does not touch the disk. -/
theorem disk_loadedOutput (s : Surroundings) (o : Options) : (loadedOutput s o).disk = s.disk :=
  noFile_firstSink.disk_emitAll _ s.now _

/-- Once its settings are loaded, the program sets logging up and serves. -/
theorem start_loaded (hload : (loadSettings o s.environment s.disk).2 = .ok l) :
    start s o =
      match Config.setUpLogging l.document s.now (loadedOutput s o) with
      | .error (.listener f) => fail s firstSink (loadedOutput s o) [] f
      | .error (.disk f disk) =>
        ⟨.escaped (.disk f), firstSink, { loadedOutput s o with disk := disk }, []⟩
      | .ok (sink, out) => serve s sink out l.document := by
  unfold start loadedOutput
  cases hsettings : loadSettings o s.environment s.disk with
  | mk notes r =>
    rw [hsettings] at hload
    have hr : r = .ok l := hload
    subst hr
    rfl

/-- A log file that cannot be opened ends the program. -/
theorem start_of_unopened {logging : LoggingSettings} {f : DiskFault} {disk : Disk}
    (hload : (loadSettings o s.environment s.disk).2 = .ok l)
    (hlogging : l.document.loggingSettings = .ok logging)
    (hopen : logging.openFile s.disk = .error (f, disk)) :
    start s o =
      ⟨.escaped (.disk f), firstSink, { loadedOutput s o with disk := disk }, []⟩ := by
  rw [start_loaded hload, Config.setUpLogging, hlogging, disk_loadedOutput]
  dsimp only
  rw [hopen]

/-- The program after a run of the service, by the failure that the run ended with. -/
def conclude (s : Surroundings) (sink : Log.Sink) (out : Log.Output) (calls : List Net.Call) :
    Option ServeFault → Outcome
  | none => ⟨.exit 0, sink, out, calls⟩
  | some (.listener f) => fail s sink out calls f
  | some e => ⟨.escaped (.serve e), sink, out, calls⟩

/-- With logging set up the program ends as the run of the service does. -/
theorem start_of_opened {logging : LoggingSettings} {server : ServerSettings}
    {metrics : MetricsSettings} {disk : Disk}
    (hload : (loadSettings o s.environment s.disk).2 = .ok l)
    (hlogging : l.document.loggingSettings = .ok logging)
    (hserver : l.document.serverSettings = .ok server)
    (hmetrics : l.document.metricsSettings = .ok metrics)
    (hopen : logging.openFile s.disk = .ok disk) :
    ∃ out, start s o = conclude s logging.sink out
      (Service.run s.world server metrics).1.system.calls
      (Service.run s.world server metrics).2 := by
  rw [start_loaded hload, Config.setUpLogging, hlogging, disk_loadedOutput]
  dsimp only
  rw [hopen]
  dsimp only
  unfold serve
  rw [hserver, hmetrics]
  dsimp only
  generalize Service.run s.world server metrics = ended
  obtain ⟨listener, e⟩ := ended
  cases e with
  | none => exact ⟨_, rfl⟩
  | some e => cases e <;> exact ⟨_, rfl⟩

theorem run_of_ask {words : List Text} (hask : ask words = .run o) : run s words = start s o := by
  rw [run, hask]

end

/-! ## Whole runs -/

/-- All settings that the program reads, if they are loaded. -/
def settings? (s : Surroundings) (o : Options) :
    Option (LoggingSettings × ServerSettings × MetricsSettings) := do
  let l ← (loadSettings o s.environment s.disk).2.toOption
  let logging ← l.document.loggingSettings.toOption
  let server ← l.document.serverSettings.toOption
  let metrics ← l.document.metricsSettings.toOption
  some (logging, server, metrics)

/-- Settings that are read are loaded. -/
theorem exists_of_settings? {s : Surroundings} {o : Options} {logging : LoggingSettings}
    {server : ServerSettings} {metrics : MetricsSettings}
    (h : settings? s o = some (logging, server, metrics)) :
    ∃ l, (loadSettings o s.environment s.disk).2 = .ok l ∧
      l.document.loggingSettings = .ok logging ∧ l.document.serverSettings = .ok server ∧
      l.document.metricsSettings = .ok metrics := by
  simpa [settings?, Option.bind_eq_some_iff, Config.toOption_eq_some_iff] using h

/-- One of the two hosts is unknown. The log file is made, and the directory above it. -/
def partlyBound : Surroundings where
  environment := [("LISTENER_SERVER_HOSTS", "nowhere,127.0.0.1"),
    ("LISTENER_METRICS_ENABLED", "true"), ("LISTENER_LOGGING_LOG_FILE", "d/x")]
  disk := .ofEntries ["srv"] []
  world := ⟨.plain, .run, .ret⟩
  now := .zero

def partlyBoundLogging : LoggingSettings := ⟨"INFO", .text, "d/x"⟩

def partlyBoundServer : ServerSettings := ⟨8888, [Text.ofString "nowhere", "127.0.0.1"], 0, 128⟩

theorem settings?_partlyBound :
    settings? partlyBound .empty =
      some (partlyBoundLogging, partlyBoundServer, ⟨true, Text.ofString "", 9888⟩) := by
  decide +kernel

theorem openFile_partlyBound :
    partlyBoundLogging.openFile partlyBound.disk =
      .ok ⟨["srv"], [(["srv", "d"], .directory), (["srv", "d", "x"], .file [])]⟩ := by
  decide +kernel

theorem boundSockets_partlyBound :
    boundSockets (bindings partlyBound.world partlyBoundServer) = [1] := by
  decide +kernel

/-- **How the program ends** when its settings are loaded. A log file that cannot be opened goes
through it: the fault names the file from the root, or else a directory on the way there, and what
was made by then stays. Otherwise the code is one exactly if no host was bound, or the system
refused to let the metrics be offered, and then the fault is logged last; the code is zero exactly
if the HTTP server ended normally or was interrupted; nothing else goes through but a failure of the
exporter or of the HTTP server of their own. -/
theorem run_ends (s : Surroundings) (words : List Text) (o : Options) (l : Loaded)
    (hask : ask words = .run o) (hload : (loadSettings o s.environment s.disk).2 = .ok l)
    (hnet : s.world.network.Resolves) :
    ∃ logging server metrics, l.document.loggingSettings = .ok logging ∧
      l.document.serverSettings = .ok server ∧ l.document.metricsSettings = .ok metrics ∧
      let bound := boundSockets (bindings s.world server)
      let outcome := run s words
      (∀ f disk, logging.openFile s.disk = .error (f, disk) →
        outcome.ending = .escaped (.disk f) ∧ outcome.output.disk = disk ∧
          (f.path = s.disk.absolute logging.file ∨ f.path <+: logging.file)) ∧
      ∀ disk, logging.openFile s.disk = .ok disk →
        (outcome.ending = .exit 1 ↔
          bound = [] ∨ metrics.enabled = true ∧ ∃ r, s.world.exporter = .refuse r) ∧
        (outcome.ending = .exit 1 → ∃ (f : Fault) (out : Log.Output), f.kind = .bind ∧
          outcome.output = out.emit logging.sink s.now [] (failureNote f)) ∧
        (outcome.ending = .exit 0 ↔
          bound ≠ [] ∧ (metrics.enabled = true → s.world.exporter = .run) ∧
            s.world.server ≠ .fail) ∧
        ∀ e, outcome.ending = .escaped e →
          bound ≠ [] ∧ (e = .serve .exporterFailed ∧ s.world.exporter = .fail ∨
            e = .serve .failed ∧ s.world.server = .fail) := by
  obtain ⟨⟨server, hserver⟩, ⟨logging, hlogging⟩, metrics, hmetrics⟩ :=
    (Config.Document.check_ok_iff _).mp (check_of_loaded hload)
  refine ⟨logging, server, metrics, hlogging, hserver, hmetrics, ?_, ?_⟩
  · intro f disk hopen
    rw [run_of_ask hask, start_of_unopened hload hlogging hopen]
    exact ⟨rfl, rfl, LoggingSettings.path_of_openFile hopen⟩
  · intro disk hopen
    obtain ⟨out, hstart⟩ := start_of_opened hload hlogging hserver hmetrics hopen
    obtain ⟨attempts, -, hcourse⟩ := Service.run_course hnet server metrics
    rw [run_of_ask hask, hstart]
    generalize (Service.run s.world server metrics).1.system.calls = calls at hcourse ⊢
    generalize (Service.run s.world server metrics).2 = failure at hcourse ⊢
    -- no host was bound, the metrics were not offered, or the hosts were served
    cases hcourse with
    | unbound hnone =>
      simp only [conclude, fail, failureCode, hnone]
      refine ⟨by simp, fun _ => ⟨_, _, rfl, rfl⟩, by simp, nofun⟩
    | @unoffered e hsome henabled hfault =>
      unfold Service.exporterFault? at hfault
      cases hmode : s.world.exporter with
      | run => simp [hmode] at hfault
      | refuse r =>
        rw [hmode] at hfault
        cases hfault
        simp only [conclude, fail, failureCode, henabled, hsome]
        refine ⟨by simp, fun _ => ⟨_, _, rfl, rfl⟩, by simp, nofun⟩
      | fail =>
        rw [hmode] at hfault
        cases hfault
        simp [conclude, henabled, hsome]
    | served hsome hoffered =>
      have hrefuse : ¬ (metrics.enabled = true ∧ ∃ r, s.world.exporter = .refuse r) := by
        rintro ⟨henabled, r, hr⟩
        rw [hoffered henabled] at hr
        cases hr
      have hserves : (metrics.enabled = true → s.world.exporter = .run) = True := eq_true hoffered
      cases hmode : s.world.server <;>
        simp [conclude, Service.serverFault?, hsome, hserves, hrefuse]

theorem run_ends_partlyBound : (run partlyBound []).ending = .exit 0 := by
  obtain ⟨l, hload, hlogging, hserver, -⟩ := exists_of_settings? settings?_partlyBound
  obtain ⟨logging, server, metrics, hlogging', hserver', -, -, hended⟩ :=
    run_ends partlyBound [] .empty l rfl hload Network.resolves_plain
  obtain rfl : partlyBoundLogging = logging := Except.ok.inj (hlogging.symm.trans hlogging')
  obtain rfl : partlyBoundServer = server := Except.ok.inj (hserver.symm.trans hserver')
  refine (hended _ openFile_partlyBound).2.2.1.mpr ⟨?_, fun _ => rfl, nofun⟩
  rw [boundSockets_partlyBound]
  exact List.cons_ne_nil 1 []

def blockedLog : Surroundings where
  environment := [("LISTENER_LOGGING_LOG_FILE", "f/x")]
  disk := .ofEntries ["srv"] [("f", .file (Utf8.encode "text"))]
  world := ⟨.plain, .run, .ret⟩
  now := .zero

def blockedLogging : LoggingSettings := ⟨"INFO", .text, "f/x"⟩

/-- A log file below a file goes through the program, though its settings are loaded; the code is
not one. -/
theorem log_below_file_goes_through :
    ask [] = .run .empty ∧
      (∃ l, (loadSettings .empty blockedLog.environment blockedLog.disk).2 = .ok l ∧
        l.document.loggingSettings = .ok blockedLogging) ∧
      blockedLogging.openFile blockedLog.disk = .error (⟨.alreadyThere, "f"⟩, blockedLog.disk) ∧
      blockedLog.world.network.Resolves ∧
      (run blockedLog []).ending = .escaped (.disk ⟨.alreadyThere, "f"⟩) ∧
      (run blockedLog []).ending ≠ .exit 1 := by
  have hsettings : settings? blockedLog .empty =
      some (blockedLogging, ⟨8888, [Text.ofString "0.0.0.0", "::"], 0, 128⟩,
        ⟨false, Text.ofString "", 9888⟩) := by
    decide +kernel
  have hopen : blockedLogging.openFile blockedLog.disk =
      .error (⟨.alreadyThere, "f"⟩, blockedLog.disk) := by
    decide +kernel
  obtain ⟨l, hload, hlogging, -, -⟩ := exists_of_settings? hsettings
  have hending : (run blockedLog []).ending = .escaped (.disk ⟨.alreadyThere, "f"⟩) := by
    rw [run_of_ask rfl, start_of_unopened hload hlogging hopen]
  refine ⟨rfl, ⟨l, hload, hlogging⟩, hopen, Network.resolves_plain, hending, ?_⟩
  rw [hending]
  nofun

end Command

end JsonTap
