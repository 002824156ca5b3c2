import JsonTap.Config.Load
import JsonTap.Proofs.Config.Settings
import JsonTap.Proofs.Encoding.TextFile

/-!
# How loading settings ends

Every value that a getter refuses is a fault of the configuration (`Refuses`). So loading gives
settings that pass all checks, or a fault of the configuration, unless a directory stands at the
path of the file, or the file is damaged and nothing before the damage is refused (`load_ends`).
-/

namespace JsonTap.Config

/-! ## Refused values -/

/-- Only faults of the configuration come of it. -/
def Refuses {α : Type} (r : Except Fault α) : Prop := ∀ f, r = .error f → f.kind = .configuration

theorem refuses_ok {α : Type} (a : α) : Refuses (.ok a) := nofun

theorem refuses_configuration {α : Type} (message : Text) (field value : Datum) (others : Fields) :
    Refuses (.error (.configuration message field value others) : Except Fault α) := by
  intro f hf
  cases hf
  rfl

/-- Steps that refuse with a fault of the configuration do so together. -/
theorem Refuses.bind {α β : Type} {r : Except Fault α} {next : α → Except Fault β}
    (hr : Refuses r) (hnext : ∀ a, Refuses (next a)) : Refuses (r >>= next) := by
  intro f hf
  cases r with
  | error g =>
    apply hr
    cases hf
    rfl
  | ok a => exact hnext a f hf

theorem refuses_parseSize (t : Text) : Refuses (parseSize t) := by
  unfold parseSize
  split
  · exact refuses_ok _
  · exact refuses_configuration _ _ _ _

namespace Document

variable (d : Document)

theorem refuses_port (t : Topic) : Refuses (d.port t) := by
  unfold port
  dsimp only
  split
  · exact refuses_configuration _ _ _ _
  · split
    · exact refuses_ok _
    · exact refuses_configuration _ _ _ _

theorem refuses_hosts : Refuses d.hosts := by
  unfold hosts
  split
  · exact refuses_configuration _ _ _ _
  · exact refuses_ok _

theorem refuses_maxBodySize : Refuses d.maxBodySize := by
  refine (refuses_parseSize _).bind fun n => ?_
  split
  · exact refuses_configuration _ _ _ _
  · exact refuses_ok _

theorem refuses_backlog : Refuses d.backlog := by
  unfold backlog
  dsimp only
  split
  · exact refuses_ok _
  · exact refuses_configuration _ _ _ _

theorem refuses_serverSettings : Refuses d.serverSettings :=
  d.refuses_hosts.bind fun _ => d.refuses_maxBodySize.bind fun _ =>
    d.refuses_backlog.bind fun _ => (d.refuses_port .server).bind fun _ => refuses_ok _

theorem refuses_logLevel : Refuses d.logLevel := by
  unfold logLevel
  dsimp only
  split
  · exact refuses_ok _
  · exact refuses_configuration _ _ _ _

theorem refuses_logFormat : Refuses d.logFormat := by
  unfold logFormat
  dsimp only
  split
  · exact refuses_ok _
  · exact refuses_configuration _ _ _ _

theorem refuses_loggingSettings : Refuses d.loggingSettings :=
  d.refuses_logLevel.bind fun _ => d.refuses_logFormat.bind fun _ => refuses_ok _

theorem refuses_metricsSettings : Refuses d.metricsSettings :=
  (d.refuses_port .metrics).bind fun _ => refuses_ok _

theorem refuses_check : Refuses d.check :=
  d.refuses_serverSettings.bind fun _ => d.refuses_loggingSettings.bind fun _ =>
    d.refuses_metricsSettings.bind fun _ => refuses_ok _

end Document

/-! ## The file -/

/-- A file goes through the reader as damaged if its octets are not well-formed and no line before
the damage is refused. -/
theorem readFile_damaged_iff {content : List Octet} :
    (∃ u, Ini.readFile content = .error (.damaged u)) ↔
      ¬ Utf8.WellFormed content ∧
        ∃ r, Ini.Reader.initial.run 1 (TextFile.lines content).1 = .ok r := by
  rw [← TextFile.damage_lines_eq_none_iff]
  unfold Ini.readFile
  obtain ⟨lines, damage⟩ := TextFile.lines content
  cases damage with
  | none =>
    dsimp only
    cases Ini.read lines <;> simp [Except.mapError]
  | some u =>
    dsimp only
    cases Ini.Reader.initial.run 1 lines <;> simp

/-- Reading fails for the disk exactly if a directory stands at the path. -/
theorem readFile_eq_disk_iff {disk : Disk} {path : Text} {f : DiskFault} :
    readFile disk path = .error (.disk f) ↔
      disk.find? path = some .directory ∧ f = ⟨.isDirectory, path⟩ := by
  unfold readFile
  split
  · next h => simp [h]
  · next h => simp [h, eq_comm]
  · next h => split <;> simp [h]

/-- Reading fails for a damaged file exactly if one stands at the path. -/
theorem readFile_eq_damaged_iff {disk : Disk} {path : Text} {u : Utf8.Undecodable} :
    readFile disk path = .error (.damaged u) ↔
      ∃ content, disk.find? path = some (.file content) ∧
        Ini.readFile content = .error (.damaged u) := by
  unfold readFile
  split
  · next h => simp [h]
  · next h => simp [h]
  · next h => split <;> simp_all

/-- A file is damaged to the reader if it is no UTF-8 and no line before is refused. -/
theorem exists_damaged_iff {disk : Disk} {path : Text} :
    (∃ u, readFile disk path = .error (.damaged u)) ↔
      ∃ content, disk.find? path = some (.file content) ∧ ¬ Utf8.WellFormed content ∧
        ∃ r, Ini.Reader.initial.run 1 (TextFile.lines content).1 = .ok r := by
  simp only [readFile_eq_damaged_iff, ← readFile_damaged_iff]
  constructor
  · rintro ⟨u, content, hfind, hread⟩
    exact ⟨content, hfind, u, hread⟩
  · rintro ⟨content, hfind, u, hread⟩
    exact ⟨u, content, hfind, hread⟩

/-- What is refused in a file is a fault of the configuration. -/
theorem kind_of_readFile {disk : Disk} {path : Text} {f : Fault}
    (h : readFile disk path = .error (.listener f)) : f.kind = .configuration := by
  unfold readFile at h
  split at h
  · cases h
  · cases h
  · split at h
    · cases h
    · cases h
    · cases h
      rfl

/-- What loading fails with, if it does: what the file is refused for, or else what its values are
refused for. -/
theorem load_eq_error_iff {asked : Option Text} {env : Environment} {disk : Disk} {e : LoadFault} :
    (load asked env disk).2 = .error e ↔
      readFile disk (chooseFile asked env) = .error e ∨
        ∃ d note f, readFile disk (chooseFile asked env) = .ok (d, note) ∧
          (settle env d).check = .error f ∧ e = .listener f := by
  unfold load
  dsimp only
  cases readFile disk (chooseFile asked env) with
  | error e' => simp
  | ok r =>
    obtain ⟨d, note⟩ := r
    dsimp only
    cases hcheck : (settle env d).check <;> simp [hcheck, eq_comm]

/-- The settings that are loaded are those of the file, settled and checked. -/
theorem load_eq_ok_iff {asked : Option Text} {env : Environment} {disk : Disk} {l : Loaded} :
    (load asked env disk).2 = .ok l ↔
      ∃ d note, readFile disk (chooseFile asked env) = .ok (d, note) ∧
        (settle env d).check = .ok () ∧ l = ⟨chooseFile asked env, settle env d⟩ := by
  unfold load
  dsimp only
  cases readFile disk (chooseFile asked env) with
  | error e => simp
  | ok r =>
    obtain ⟨d, note⟩ := r
    dsimp only
    cases hcheck : (settle env d).check <;> simp [hcheck, eq_comm]

/-- **How loading ends.** Settings that are loaded pass all checks, and what they are refused for is
a fault of the configuration. Other failures are of two sorts: a directory stands at the path of
the file, or the file is damaged and no line before the damage is refused. -/
theorem load_ends (asked : Option Text) (env : Environment) (disk : Disk) :
    let path := chooseFile asked env
    let outcome := (load asked env disk).2
    (∀ l, outcome = .ok l →
      (∃ s, l.document.serverSettings = .ok s) ∧ (∃ s, l.document.loggingSettings = .ok s) ∧
        ∃ s, l.document.metricsSettings = .ok s) ∧
    (∀ f, outcome = .error (.listener f) → f.kind = .configuration) ∧
    (∀ f, outcome = .error (.disk f) ↔
      disk.find? path = some .directory ∧ f = ⟨.isDirectory, path⟩) ∧
    ((∃ u, outcome = .error (.damaged u)) ↔
      ∃ content, disk.find? path = some (.file content) ∧ ¬ Utf8.WellFormed content ∧
        ∃ r, Ini.Reader.initial.run 1 (TextFile.lines content).1 = .ok r) := by
  refine ⟨?_, ?_, ?_, ?_⟩
  · intro l hl
    obtain ⟨d, note, -, hcheck, hl⟩ := load_eq_ok_iff.mp hl
    have hdocument : l.document = settle env d := by rw [hl]
    rw [hdocument]
    exact (Document.check_ok_iff _).mp hcheck
  · -- the file is no settings file, or a setting does not pass
    intro f hf
    obtain hfile | ⟨d, -, g, -, hcheck, hg⟩ := load_eq_error_iff.mp hf
    · exact kind_of_readFile hfile
    · cases hg
      exact (settle env d).refuses_check f hcheck
  · intro f
    rw [load_eq_error_iff, ← readFile_eq_disk_iff]
    refine or_iff_left ?_
    rintro ⟨d, note, g, -, -, h⟩
    cases h
  · rw [← exists_damaged_iff]
    apply exists_congr
    intro u
    rw [load_eq_error_iff]
    refine or_iff_left ?_
    rintro ⟨d, note, g, -, -, h⟩
    cases h

/-- A directory or a file that is no text goes through loading. -/
theorem load_goes_through :
    (load (some "d") [] (.ofEntries ["srv"] [("d", .directory)])).2 =
        .error (.disk ⟨.isDirectory, "d"⟩) ∧
      ∃ u, (load (some "d") [] (.ofEntries ["srv"] [("d", .file [0xFF])])).2 =
        .error (.damaged u) :=
  ⟨rfl, _, rfl⟩

end JsonTap.Config
