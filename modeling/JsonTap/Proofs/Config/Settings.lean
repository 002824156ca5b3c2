import JsonTap.Proofs.Config.Document
import JsonTap.Proofs.Text.Split

/-!
# Settings depend on values

The getters of a section look at the values of its known options and at nothing else, so documents
with the same values pass or fail together. `Document.ofValues` is the document that has given
values and nothing besides; what the getters say about it is what they say about the values. What
each getter gives, and when, is told by the values as well (`serverSettings_eq_ok_iff` and its
likes).
-/

namespace JsonTap

/-- In a table whose names are distinct each name finds its own value. -/
theorem Named.get?_map_injective {α β : Type} (name : α → Text) (hname : Function.Injective name)
    (f : α → β) (xs : List α) {x : α} (hx : x ∈ xs) :
    Named.get? (xs.map fun y => (name y, f y)) (name x) = some (f x) := by
  induction xs with
  | nil => cases hx
  | cons y ys ih =>
    rw [List.map_cons, Named.get?_cons]
    by_cases h : x = y
    · rw [if_pos (congrArg name h), h]
    · rw [if_neg (fun hn => h (hname hn))]
      exact ih ((List.mem_cons.mp hx).resolve_left h)

/-- Steps succeed together exactly if each does. -/
theorem Config.bind_eq_ok_iff {ε α β : Type} {x : Except ε α} {f : α → Except ε β} {b : β} :
    (x >>= f) = .ok b ↔ ∃ a, x = .ok a ∧ f a = .ok b := by
  cases x with
  | error e => simp [bind, Except.bind]
  | ok a => simp [bind, Except.bind]

theorem Config.toOption_eq_some_iff {ε α : Type} {r : Except ε α} {a : α} :
    r.toOption = some a ↔ r = .ok a := by
  cases r <;> simp [Except.toOption]

/-- A format is found by its name only. -/
theorem Config.LogFormat.find?_name_iff {name : Text} {f : LogFormat} :
    LogFormat.all.find? (·.name == name) = some f ↔ f.name = name := by
  constructor
  · intro h
    exact eq_of_beq (List.find?_some (p := fun f : LogFormat => f.name == name) h)
  · rintro rfl
    cases f <;> rfl

namespace Config.Document

/-! ### Documents with the same values -/

/-- Two documents show the same value for every known option of a section. -/
def Agree (t : Topic) (d d' : Document) : Prop :=
  ∀ k ∈ Known.all, k.topic = t → d.get? t.name k.key = d'.get? t.name k.key

/-- Documents that agree on a topic have the same values for it. -/
theorem Agree.value {t : Topic} {d d' : Document} (h : Agree t d d') (key : Text)
    (hkey : ∃ k ∈ Known.all, k.topic = t ∧ k.key = key) : d.value t key = d'.value t key := by
  obtain ⟨k, hk, ht, rfl⟩ := hkey
  unfold Document.value
  rw [h k hk ht]

/-- The settings of the server depend on its own values alone. -/
theorem Agree.serverSettings {d d' : Document} (h : Agree .server d d') :
    d.serverSettings = d'.serverSettings := by
  have hport := h.value "port" (by decide)
  have hhosts := h.value "hosts" (by decide)
  have hsize := h.value "max_body_size" (by decide)
  have hbacklog := h.value "backlog" (by decide)
  unfold Document.serverSettings Document.hosts Document.maxBodySize Document.backlog Document.port
  rw [hport, hhosts, hsize, hbacklog]

/-- The settings of logging depend on its own values alone. -/
theorem Agree.loggingSettings {d d' : Document} (h : Agree .logging d d') :
    d.loggingSettings = d'.loggingSettings := by
  have hlevel := h.value "log_level" (by decide)
  have hformat := h.value "log_format" (by decide)
  have hfile := h.value "log_file" (by decide)
  unfold Document.loggingSettings Document.logLevel Document.logFormat
  rw [hlevel, hformat, hfile]

/-- The settings of the metrics depend on their own values alone. -/
theorem Agree.metricsSettings {d d' : Document} (h : Agree .metrics d d') :
    d.metricsSettings = d'.metricsSettings := by
  have henabled := h.value "enabled" (by decide)
  have hhost := h.value "host" (by decide)
  have hport := h.value "port" (by decide)
  unfold Document.metricsSettings Document.port
  rw [henabled, hhost, hport]

theorem check_congr {d d' : Document} (h : ∀ t, Agree t d d') : d.check = d'.check := by
  unfold check
  rw [(h .server).serverSettings, (h .logging).loggingSettings, (h .metrics).metricsSettings]

/-- A document passes when all of its getters do. -/
theorem check_ok_iff (d : Document) :
    d.check = .ok () ↔
      (∃ s, d.serverSettings = .ok s) ∧ (∃ s, d.loggingSettings = .ok s) ∧
        ∃ s, d.metricsSettings = .ok s := by
  unfold check
  simp [bind_eq_ok_iff]

/-! ### The document of given values -/

/-- The document in which every known option has the value that a function gives it. -/
def ofValues (values : Known → Text) : Document where
  defaults := []
  sections := Topic.all.map fun t =>
    (t.name, t.defaults.map fun o => (o.1, values ⟨t, o.1, o.2⟩))

theorem defaults_get?_key :
    ∀ k ∈ Known.all, k.topic.defaults.get? k.key = some k.default := by
  decide +kernel

/-- A document of given values has them. -/
theorem get?_ofValues (values : Known → Text) {k : Known} (hk : k ∈ Known.all) :
    (ofValues values).get? k.topic.name k.key = some (values k) := by
  unfold ofValues get?
  dsimp only
  rw [Named.get?_map_injective Topic.name Topic.name_injective _ Topic.all k.topic.mem_all]
  dsimp only
  rw [Known.lower_key k hk, Named.get?_map_values (fun n x => values ⟨k.topic, n, x⟩),
    defaults_get?_key k hk]
  rfl

/-- Which document has the values is immaterial. -/
theorem check_eq_check_ofValues {d : Document} {values : Known → Text}
    (h : ∀ k ∈ Known.all, d.get? k.topic.name k.key = some (values k)) :
    d.check = (ofValues values).check := by
  apply check_congr
  intro t k hk ht
  rw [← ht, h k hk, get?_ofValues values hk]

/-! ### Hosts -/

/-- Hosts that were joined by commas come back in their order, each without the blanks around it,
if none of them is blank or has a comma. -/
theorem listItems_join {hs : List Text} (hne : hs ≠ [])
    (hplain : ∀ h ∈ hs, (',' : CodePoint) ∉ h ∧ Unicode.strip h ≠ []) :
    listItems (Text.join "," hs) = hs.map Unicode.strip := by
  unfold listItems
  show ((Text.splitAt ',' (Text.join [','] hs)).map Unicode.strip).filter _ = _
  rw [Text.splitAt_join hne (fun h hh => (hplain h hh).1)]
  apply List.filter_eq_self.mpr
  intro t ht
  obtain ⟨h, hh, rfl⟩ := List.mem_map.mp ht
  simpa using (hplain h hh).2

/-! ### What the getters give -/

section

variable {d : Document} {t : Topic}

/-- A port is a decimal number from 0 to 65535. -/
theorem port_eq_ok_iff {n : Nat} :
    d.port t = .ok n ↔ Written.int? (d.value t "port") = some (n : Int) ∧ n ≤ 65535 := by
  unfold port
  dsimp only
  cases Written.int? (d.value t "port") with
  | none => simp
  | some m =>
    dsimp only
    split
    · next hm =>
        rw [Bool.and_eq_true, decide_eq_true_eq, decide_eq_true_eq] at hm
        rw [Except.ok.injEq, Option.some.injEq]
        omega
    · next hm =>
        rw [Bool.and_eq_true, decide_eq_true_eq, decide_eq_true_eq] at hm
        refine iff_of_false nofun ?_
        rintro ⟨hn, hle⟩
        rw [Option.some.injEq] at hn
        omega

/-- The hosts are the items of the list, of which there is one at least. -/
theorem hosts_eq_ok_iff {hs : List Text} :
    d.hosts = .ok hs ↔ hs = listItems (d.value .server "hosts") ∧ hs ≠ [] := by
  unfold hosts
  cases listItems (d.value .server "hosts") with
  | nil => simp
  | cons item items =>
    rw [Except.ok.injEq]
    constructor
    · rintro rfl
      exact ⟨rfl, List.cons_ne_nil item items⟩
    · exact fun h => h.1.symm

/-- The cap is a size that is not below zero. -/
theorem maxBodySize_eq_ok_iff {n : Nat} :
    d.maxBodySize = .ok n ↔ parseSize? (d.value .server "max_body_size") = some (n : Int) := by
  unfold maxBodySize parseSize
  cases parseSize? (d.value .server "max_body_size") with
  | none => simp [bind, Except.bind]
  | some m =>
    show (if m < 0 then _ else Except.ok m.toNat) = .ok n ↔ _
    split
    · refine iff_of_false nofun ?_
      rw [Option.some.injEq]
      omega
    · rw [Except.ok.injEq, Option.some.injEq]
      omega

theorem backlog_eq_ok_iff {n : Int} :
    d.backlog = .ok n ↔ Written.int? (d.value .server "backlog") = some n := by
  unfold backlog
  dsimp only
  cases Written.int? (d.value .server "backlog") <;> simp

/-- The settings of the server are read exactly if each value is. -/
theorem serverSettings_eq_ok_iff {s : ServerSettings} :
    d.serverSettings = .ok s ↔
      (s.hosts = listItems (d.value .server "hosts") ∧ s.hosts ≠ []) ∧
        parseSize? (d.value .server "max_body_size") = some (s.maxBodySize : Int) ∧
        Written.int? (d.value .server "backlog") = some s.backlog ∧
        Written.int? (d.value .server "port") = some (s.port : Int) ∧ s.port ≤ 65535 := by
  unfold serverSettings
  simp only [bind_eq_ok_iff, hosts_eq_ok_iff, maxBodySize_eq_ok_iff, backlog_eq_ok_iff,
    port_eq_ok_iff]
  constructor
  · rintro ⟨hosts, hhosts, size, hsize, backlog, hbacklog, port, hport, h⟩
    cases h
    exact ⟨hhosts, hsize, hbacklog, hport⟩
  · rintro ⟨hhosts, hsize, hbacklog, hport⟩
    exact ⟨s.hosts, hhosts, s.maxBodySize, hsize, s.backlog, hbacklog, s.port, hport, rfl⟩

/-- The level is a known name, in upper case and without blanks around it. -/
theorem logLevel_eq_ok_iff {name : Text} :
    d.logLevel = .ok name ↔
      name = Unicode.upper (Unicode.strip (d.value .logging "log_level")) ∧
        (Log.Level.ofName? name).isSome = true := by
  unfold logLevel
  dsimp only
  split
  · next hknown =>
      rw [Except.ok.injEq]
      constructor
      · rintro rfl
        exact ⟨rfl, hknown⟩
      · exact fun h => h.1.symm
  · next hunknown =>
      refine iff_of_false nofun ?_
      rintro ⟨rfl, hknown⟩
      exact hunknown hknown

/-- The format is known by its name in lower case. -/
theorem logFormat_eq_ok_iff {f : LogFormat} :
    d.logFormat = .ok f ↔
      f.name = Unicode.lower (Unicode.strip (d.value .logging "log_format")) := by
  rw [← LogFormat.find?_name_iff]
  unfold logFormat
  dsimp only
  cases LogFormat.all.find? (·.name ==
    Unicode.lower (Unicode.strip (d.value .logging "log_format"))) <;> simp

/-- The settings of logging are read exactly if each value is. -/
theorem loggingSettings_eq_ok_iff {s : LoggingSettings} :
    d.loggingSettings = .ok s ↔
      (s.level = Unicode.upper (Unicode.strip (d.value .logging "log_level")) ∧
        (Log.Level.ofName? s.level).isSome = true) ∧
        s.format.name = Unicode.lower (Unicode.strip (d.value .logging "log_format")) ∧
        s.file = Unicode.strip (d.value .logging "log_file") := by
  unfold loggingSettings
  simp only [bind_eq_ok_iff, logLevel_eq_ok_iff, logFormat_eq_ok_iff]
  constructor
  · rintro ⟨level, hlevel, format, hformat, h⟩
    cases h
    exact ⟨hlevel, hformat, rfl⟩
  · rintro ⟨hlevel, hformat, hfile⟩
    exact ⟨s.level, hlevel, s.format, hformat, by rw [← hfile]⟩

/-- The settings of the metrics are read exactly if the port is. -/
theorem metricsSettings_eq_ok_iff {s : MetricsSettings} :
    d.metricsSettings = .ok s ↔
      s.enabled = trueWords.contains
          (Unicode.lower (Unicode.strip (d.value .metrics "enabled"))) ∧
        s.host = Unicode.strip (d.value .metrics "host") ∧
        Written.int? (d.value .metrics "port") = some (s.port : Int) ∧ s.port ≤ 65535 := by
  unfold metricsSettings
  simp only [bind_eq_ok_iff, port_eq_ok_iff]
  constructor
  · rintro ⟨port, hport, h⟩
    cases h
    exact ⟨rfl, rfl, hport⟩
  · rintro ⟨henabled, hhost, hport⟩
    exact ⟨s.port, hport, by rw [← henabled, ← hhost]⟩

/-- The hosts of settings are the items of the setting. -/
theorem hosts_of_serverSettings {s : ServerSettings} (h : d.serverSettings = .ok s) :
    s.hosts = listItems (d.value .server "hosts") :=
  (serverSettings_eq_ok_iff.mp h).1.1

end

end Config.Document

end JsonTap
