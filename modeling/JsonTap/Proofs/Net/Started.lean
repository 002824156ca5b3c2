import JsonTap.Proofs.Net.Ownership

/-!
# When a listener counts as started

A listener keeps its latest HTTP server after that server has returned, until another takes its
place. So what it says of itself is told by the last request that handed its sockets over
(`LastServed`): it has started exactly if that server has reported, and its latest attempt to serve
is in progress exactly if that server runs by itself and neither a stop nor an attempt in vain came
after it (`started_iff_last_server_reported`). A listener that was stopped still counts as started.
-/

namespace JsonTap.Net

def ServerMode.reports : ServerMode → Bool
  | .run | .ret => true
  | .neverStarts | .fail | .interrupt => false

def ServerMode.lasts : ServerMode → Bool
  | .run | .neverStarts => true
  | .ret | .fail | .interrupt => false

namespace Listener

variable {net : Network} {l l' start : Listener}

/-- How the HTTP server behaves that a request asks for, if it is a request to serve. -/
def Request.mode? : Request → Option ServerMode
  | .serve mode => some mode
  | .waitThenServe _ => some .run
  | _ => none

/-- A request that neither asks to serve nor stops. -/
def Request.Leaves (r : Request) : Prop := r.mode? = none ∧ r ≠ .stop

/-- A request has an HTTP server take the sockets over: it asks to serve, and there are sockets
then. -/
structure HandsOver (net : Network) (l : Listener) (r : Request) (mode : ServerMode) : Prop where
  asks : r.mode? = some mode
  bound : ∃ m, l.ensureBound net = (m, none)

/-- The last of some requests to hand the sockets over did so to an HTTP server that behaves as
`mode`; those `later` came after it. -/
inductive LastServed (net : Network) (start : Listener) :
    List Request → ServerMode → List Request → Prop
  | served {rs r mode} (h : HandsOver net (start.performAll net rs) r mode) :
      LastServed net start (rs ++ [r]) mode []
  | later {rs r mode later} (h : LastServed net start rs mode later)
      (hr : ∀ mode', ¬ HandsOver net (start.performAll net rs) r mode') :
      LastServed net start (rs ++ [r]) mode (later ++ [r])

/-! ## What leaves the HTTP server alone -/

/-- The HTTP server and the latest attempt to serve are the same. -/
structure SameServer (l l' : Listener) : Prop where
  server : l'.server = l.server
  serving : l'.serving = l.serving

theorem SameServer.trans {l'' : Listener} (h : l.SameServer l') (h' : l'.SameServer l'') :
    l.SameServer l'' :=
  ⟨h'.server.trans h.server, h'.serving.trans h.serving⟩

/-- An attempt to bind is kept. -/
theorem SameServer.keep (h : l.SameServer l') (b : Binding) : l.SameServer (l'.keep b) := by
  unfold Listener.keep
  cases b.outcome <;> exact ⟨h.server, h.serving⟩

/-- Binding a host leaves the HTTP server alone. -/
theorem sameServer_bind {host : Text} {r : Option Binding} (hb : l.bind net host = (l', r)) :
    l.SameServer l' := by
  have hsystem : ∀ s : System, l.SameServer { l with system := s } := fun _ => ⟨rfl, rfl⟩
  unfold bind at hb
  dsimp only at hb
  split at hb
  · cases hb
    exact (hsystem _).keep _
  · cases hb
    exact hsystem _
  · split at hb
    · cases hb
      exact (hsystem _).keep _
    · cases hb
      exact (hsystem _).keep _

theorem sameServer_bindAll (net : Network) (l : Listener) : l.SameServer (l.bindAll net).1 :=
  bindAll_keeps (fun _ _ h => h.trans (sameServer_bind rfl)) ⟨rfl, rfl⟩

theorem sameServer_ensureBound (net : Network) (l : Listener) :
    l.SameServer (l.ensureBound net).1 :=
  ensureBound_keeps (fun _ _ h => h.trans (sameServer_bind rfl)) ⟨rfl, rfl⟩

/-! ## Serving and stopping -/

/-- The HTTP server that takes over is known by how it behaves. -/
theorem server_handOver (l : Listener) (mode : ServerMode) :
    (l.handOver mode).server = some ⟨mode.reports, mode.lasts⟩ := by
  cases mode <;> rfl

/-- An attempt to serve is in progress exactly if its HTTP server lasts. -/
theorem serving_handOver (l : Listener) (mode : ServerMode) :
    (l.handOver mode).serving = some .running ↔ mode.lasts = true := by
  cases mode <;> simp [handOver, ServerMode.lasts]

/-- A stop makes the HTTP server return. -/
theorem server_stop (l : Listener) :
    l.stop.server = l.server.map fun s => ⟨s.started, false⟩ := by
  unfold stop
  split
  · next started h =>
      dsimp only
      split <;> simp [h]
  · next h =>
      cases hs : l.server with
      | none => rfl
      | some s =>
          obtain ⟨started, running⟩ := s
          cases running with
          | false => rfl
          | true => exact absurd hs (h started)

/-- After a stop no attempt to serve is in progress, if the HTTP server ran while one was. -/
theorem serving_stop (h : l.serving = some .running → ∃ started, l.server = some ⟨started, true⟩) :
    l.stop.serving ≠ some .running := by
  unfold stop
  split
  · dsimp only
    split
    · simp
    · next hserving => exact hserving
  · next hserver =>
      intro hserving
      obtain ⟨started, hs⟩ := h hserving
      exact hserver started hs

/-! ## One request -/

/-- A request to serve, by itself or after a wait was begun. -/
theorem perform_of_mode? {r : Request} {mode : ServerMode} (h : r.mode? = some mode) :
    (l.perform net r).1 = l.serve net mode := by
  cases r with
  | serve mode' =>
      cases h
      rfl
  | waitThenServe patient =>
      cases h
      rfl
  | _ => cases h

/-- A request that hands the sockets over leaves the listener as the HTTP server makes it. -/
theorem HandsOver.perform {r : Request} {mode : ServerMode} (h : HandsOver net l r mode) :
    ∃ m : Listener, (l.perform net r).1 = m.handOver mode := by
  obtain ⟨hasks, m, hm⟩ := h
  exact ⟨m, by rw [perform_of_mode? hasks, serve, hm]⟩

/-- An attempt to serve for which no host can be bound. -/
theorem serve_in_vain {mode : ServerMode} (h : ¬ ∃ m, l.ensureBound net = (m, none)) :
    (l.serve net mode).server = l.server ∧ (l.serve net mode).serving ≠ some .running := by
  have hsame := sameServer_ensureBound net l
  unfold serve
  cases hb : l.ensureBound net with
  | mk m e =>
      rw [hb] at hsame
      cases e with
      | none => exact absurd ⟨m, hb⟩ h
      | some e => exact ⟨hsame.server, by simp⟩

/-- What a request that does not hand the sockets over does: it stops the HTTP server, asks to serve
in vain, or leaves everything about serving as it is. -/
theorem perform_not_handsOver {r : Request} (h : ∀ mode, ¬ HandsOver net l r mode) :
    (r = .stop ∧ (l.perform net r).1 = l.stop) ∨
      (r ≠ .stop ∧ r.mode? ≠ none ∧ (l.perform net r).1.server = l.server ∧
        (l.perform net r).1.serving ≠ some .running) ∨
      (r.Leaves ∧ l.SameServer (l.perform net r).1) := by
  cases r with
  | stop => exact .inl ⟨rfl, rfl⟩
  | serve mode =>
      have hvain : ¬ ∃ m, l.ensureBound net = (m, none) := fun hm => h mode ⟨rfl, hm⟩
      exact .inr (.inl ⟨by simp, Option.some_ne_none _, serve_in_vain hvain⟩)
  | waitThenServe patient =>
      have hvain : ¬ ∃ m, l.ensureBound net = (m, none) := fun hm => h .run ⟨rfl, hm⟩
      exact .inr (.inl ⟨by simp, Option.some_ne_none _, serve_in_vain hvain⟩)
  | bind host =>
      refine .inr (.inr ⟨⟨rfl, by simp⟩, ?_⟩)
      rw [perform]
      cases hb : l.bind net host with
      | mk l' b => cases b <;> exact sameServer_bind hb
  | bindAll =>
      refine .inr (.inr ⟨⟨rfl, by simp⟩, ?_⟩)
      have hsame := sameServer_bindAll net l
      rw [perform]
      cases hb : l.bindAll net with
      | mk l' bs =>
          rw [hb] at hsame
          cases bs <;> exact hsame
  | setPort port => exact .inr (.inr ⟨⟨rfl, by simp⟩, rfl, rfl⟩)
  | waitStarted => exact .inr (.inr ⟨⟨rfl, by simp⟩, rfl, rfl⟩)
  | close => exact .inr (.inr ⟨⟨rfl, by simp⟩, rfl, rfl⟩)
  | look => exact .inr (.inr ⟨⟨rfl, by simp⟩, rfl, rfl⟩)

/-! ## Runs -/

/-- What a listener says of itself when the last HTTP server behaves as `mode` and `later` came
after. Unless it was stopped, the server still runs if it does so by itself. -/
structure Told (l : Listener) (mode : ServerMode) (later : List Request) : Prop where
  server : ∃ running, l.server = some ⟨mode.reports, running⟩ ∧
    (running = true ↔ mode.lasts = true ∧ .stop ∉ later)
  serving : l.serving = some .running ↔ mode.lasts = true ∧ ∀ r ∈ later, r.Leaves

/-- A listener counts as started exactly if its last HTTP server has reported. -/
theorem Told.started {mode : ServerMode} {later : List Request} (h : l.Told mode later) :
    l.started = mode.reports := by
  obtain ⟨running, hserver, -⟩ := h.server
  rw [Listener.started, hserver]
  rfl

/-- The HTTP server runs while an attempt to serve is in progress. -/
theorem Told.running {mode : ServerMode} {later : List Request} (h : l.Told mode later)
    (hserving : l.serving = some .running) : ∃ started, l.server = some ⟨started, true⟩ := by
  obtain ⟨running, hserver, hrunning⟩ := h.server
  obtain ⟨hlasts, hleaves⟩ := h.serving.mp hserving
  have hstop : .stop ∉ later := fun hmem => (hleaves .stop hmem).2 rfl
  obtain rfl : running = true := hrunning.mpr ⟨hlasts, hstop⟩
  exact ⟨_, hserver⟩

theorem told_handOver (m : Listener) (mode : ServerMode) : (m.handOver mode).Told mode [] := by
  refine ⟨⟨mode.lasts, server_handOver m mode, ?_⟩, ?_⟩
  · simp
  · rw [serving_handOver]
    simp

/-- One more request that does not hand the sockets over. -/
theorem Told.later {mode : ServerMode} {later : List Request} (h : l.Told mode later) {r : Request}
    (hr : ∀ mode', ¬ HandsOver net l r mode') : (l.perform net r).1.Told mode (later ++ [r]) := by
  obtain ⟨running, hserver, hrunning⟩ := h.server
  have hnot : ¬ r.Leaves → ¬ ∀ r' ∈ later ++ [r], r'.Leaves :=
    fun hleaves hall => hleaves (hall r (by simp))
  rcases perform_not_handsOver hr with
    ⟨rfl, hperform⟩ | ⟨hstop, hmode, hsame, hvain⟩ | ⟨hleaves, hsame⟩
  · -- a stop
    rw [hperform]
    refine ⟨⟨false, ?_, ?_⟩, ?_⟩
    · rw [server_stop, hserver]
      rfl
    · simp
    · have hleaves : ¬ Request.stop.Leaves := fun hleaves => hleaves.2 rfl
      exact iff_of_false (serving_stop h.running) fun hall => hnot hleaves hall.2
  · -- an attempt in vain
    refine ⟨⟨running, hsame.trans hserver, ?_⟩, ?_⟩
    · rw [hrunning]
      simp [hstop.symm]
    · have hleaves : ¬ r.Leaves := fun hleaves => hmode hleaves.1
      exact iff_of_false hvain fun hall => hnot hleaves hall.2
  · -- nothing about serving
    refine ⟨⟨running, hsame.server.trans hserver, ?_⟩, ?_⟩
    · rw [hrunning]
      simp [hleaves.2.symm]
    · rw [hsame.serving, h.serving, List.forall_mem_append, List.forall_mem_singleton]
      simp [hleaves]

/-- The last request to hand the sockets over tells what the listener says of itself. -/
theorem LastServed.told {rs later : List Request} {mode : ServerMode}
    (h : LastServed net start rs mode later) : (start.performAll net rs).Told mode later := by
  induction h with
  | served h =>
      obtain ⟨m, hm⟩ := h.perform
      rw [performAll_concat, hm]
      exact told_handOver m _
  | later _ hr ih =>
      rw [performAll_concat]
      exact ih.later hr

/-- While no request hands the sockets over there is no HTTP server. -/
theorem exists_lastServed (hstart : start.server = none) (rs : List Request)
    (h : (start.performAll net rs).server ≠ none) :
    ∃ mode later, LastServed net start rs mode later := by
  induction rs using List.reverseRecOn with
  | nil => exact absurd hstart h
  | append_singleton rs r ih =>
      by_cases hr : ∃ mode, HandsOver net (start.performAll net rs) r mode
      · obtain ⟨mode, hmode⟩ := hr
        exact ⟨mode, [], .served hmode⟩
      · have hnone := not_exists.mp hr
        rw [performAll_concat] at h
        have hbefore : (start.performAll net rs).server ≠ none := by
          intro hserver
          rcases perform_not_handsOver hnone with ⟨-, hstop⟩ | ⟨-, -, hsame, -⟩ | ⟨-, hsame⟩
          · rw [hstop, server_stop, hserver] at h
            exact h rfl
          · exact h (hsame.trans hserver)
          · exact h (hsame.server.trans hserver)
        obtain ⟨mode, later, hlast⟩ := ih hbefore
        exact ⟨mode, later ++ [r], .later hlast hnone⟩

/-- A listener counts as started exactly if the last HTTP server that took over has reported. -/
theorem started_iff (hstart : start.server = none) (rs : List Request) :
    (start.performAll net rs).started = true ↔
      ∃ mode later, LastServed net start rs mode later ∧ mode.reports = true := by
  constructor
  · intro hstarted
    have hserver : (start.performAll net rs).server ≠ none := by
      intro hnone
      rw [started, hnone] at hstarted
      cases hstarted
    obtain ⟨mode, later, hlast⟩ := exists_lastServed hstart rs hserver
    exact ⟨mode, later, hlast, hlast.told.started ▸ hstarted⟩
  · rintro ⟨mode, later, hlast, hreports⟩
    rw [hlast.told.started, hreports]

/-- A wait that is begun before the listener serves is over at once if it counts as started already,
and otherwise when the HTTP server that it hands its sockets over to reports in time. -/
theorem waitThenServe_nothing (net : Network) (l : Listener) (patient : Bool) :
    (l.perform net (.waitThenServe patient)).2 = .nothing ↔
      l.started = true ∨ patient = true ∧ HandsOver net l (.waitThenServe patient) .run := by
  have hafter : (l.serve net .run).started = true ↔
      l.started = true ∨ HandsOver net l (.waitThenServe patient) .run := by
    by_cases hr : HandsOver net l (.waitThenServe patient) .run
    · obtain ⟨m, hm⟩ := hr.perform
      have hserve : l.serve net .run = m.handOver .run := hm
      rw [hserve, (told_handOver m .run).started]
      simp [hr, ServerMode.reports]
    · have hvain : ¬ ∃ m, l.ensureBound net = (m, none) := fun hm => hr ⟨rfl, hm⟩
      rw [started, (serve_in_vain hvain).1, ← started]
      simp [hr]
  rw [perform]
  dsimp only
  split
  · next h =>
      rw [Bool.or_eq_true, Bool.and_eq_true, hafter] at h
      tauto
  · next h =>
      rw [Bool.or_eq_true, Bool.and_eq_true, hafter] at h
      simp only [reduceCtorEq, false_iff]
      tauto

/-- After any requests, on any network: a listener counts as started exactly if the last HTTP server
that took its sockets over has reported. The latest attempt to serve is in progress exactly if that
server runs by itself, and no request after it was a stop or asked to serve in vain. A wait for the
start is answered exactly if the listener counts as started, or will when it serves in time. -/
theorem started_iff_last_server_reported (net : Network) (port : Int) (hosts : List Text)
    (backlog : Int) (rs : List Request) :
    let start := create port hosts backlog
    let l := start.performAll net rs
    (l.started = true ↔ ∃ mode later, LastServed net start rs mode later ∧ mode.reports = true) ∧
      (∀ mode later, LastServed net start rs mode later →
        (l.serving = some .running ↔ mode.lasts = true ∧ ∀ r ∈ later, r.Leaves)) ∧
      ((l.perform net .waitStarted).2 = .nothing ↔ l.started = true) ∧
      ∀ patient, (l.perform net (.waitThenServe patient)).2 = .nothing ↔
        l.started = true ∨ patient = true ∧ HandsOver net l (.waitThenServe patient) .run := by
  intro start l
  refine ⟨started_iff rfl rs, fun _ _ hlast => hlast.told.serving, ?_, waitThenServe_nothing net l⟩
  rw [perform]
  cases l.started <;> simp

/-- A listener that is served, stopped and served again is started while its second HTTP server
runs. -/
theorem started_iff_last_server_reported_again :
    let l := (create 8888 ["::"] 128).performAll .plain [.serve .run, .stop, .serve .run, .look]
    l.started = true ∧ l.serving = some .running ∧
      (l.perform .plain .waitStarted).2 = .nothing := by
  intro l
  obtain ⟨hstarted, hserving, hwait, -⟩ :=
    started_iff_last_server_reported .plain 8888 ["::"] 128 [.serve .run, .stop, .serve .run, .look]
  have hagain : LastServed .plain (create 8888 ["::"] 128)
      ([.serve .run, .stop] ++ [.serve .run]) .run [] := .served ⟨rfl, _, rfl⟩
  have hlast : LastServed .plain (create 8888 ["::"] 128)
      ([.serve .run, .stop, .serve .run] ++ [.look]) .run ([] ++ [.look]) :=
    hagain.later fun _ hlook => nomatch hlook.asks
  have hl : l.started = true := hstarted.mpr ⟨.run, [.look], hlast, rfl⟩
  refine ⟨hl, ?_, hwait.mpr hl⟩
  refine (hserving .run [.look] hlast).mpr ⟨rfl, ?_⟩
  intro r hr
  rw [List.mem_singleton.mp hr]
  exact ⟨rfl, nofun⟩

/-- A listener that was served and stopped has no sockets, and nothing is in progress; yet it counts
as started, and a wait for its start is over at once. -/
theorem started_when_stopped :
    let l := (create 8888 ["::"] 128).performAll .plain [.serve .run, .stop]
    l.started = true ∧ (l.perform .plain .waitStarted).2 = .nothing ∧
      l.serving = some .done ∧ l.sockets = [] :=
  ⟨rfl, rfl, rfl, rfl⟩

end Listener

end JsonTap.Net
