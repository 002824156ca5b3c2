import JsonTap.Proofs.Net.Attempts
import JsonTap.Service

/-!
# The course of a run

A run of the service tries every host once. If none could be bound, it ends there; otherwise it
offers the metrics if they are wanted, and ends there if they cannot be offered; otherwise the HTTP
server is started on the sockets that were bound (`run_course`). Each of these courses ends with the
sockets being closed, and so does a run on any network whatever (`unclosed_run`).
-/

namespace JsonTap

/-! ## Closing -/

namespace Net.Listener

/-- Closing sockets is one call for each, in order. -/
theorem calls_foldl_close (s : System) (ns : List Nat) :
    (ns.foldl System.close s).calls = s.calls ++ ns.map .close := by
  induction ns generalizing s with
  | nil => exact (List.append_nil _).symm
  | cons n ns ih =>
    rw [List.foldl_cons, ih]
    exact List.append_assoc _ _ _

/-- A listener that closes closes its sockets in order. -/
theorem calls_close (l : Listener) :
    l.close.system.calls = l.system.calls ++ l.sockets.map .close :=
  calls_foldl_close l.system l.sockets

end Net.Listener

namespace Service

open Net (Attempts Binding Call Listener ServeFault ServerMode boundSockets unclosed)

variable {w : World} {s : Config.ServerSettings} {m : Config.MetricsSettings}

/-! ## What decides the course -/

def bindings (w : World) (s : Config.ServerSettings) : List Binding :=
  ((Listener.create s.port s.hosts s.backlog).bindEach w.network s.hosts).1.bindings

/-- Why the metrics cannot be offered, if so. -/
def exporterFault? (w : World) (m : Config.MetricsSettings) : Option ServeFault :=
  match w.exporter with
  | .run => none
  | .refuse r => some (.listener (Metrics.exporterFault m.port m.host r))
  | .fail => some .exporterFailed

/-- The call that offers the metrics, if they are wanted. -/
def exporterCalls (m : Config.MetricsSettings) : List Call :=
  if m.enabled = true then [.exporter m.port (Metrics.exporterHost m.host)] else []

/-- The failure that an HTTP server ends with; an interruption is none. -/
def serverFault? : ServerMode → Option ServeFault
  | .fail => some .failed
  | _ => none

/-- The calls around an HTTP server that is started on some sockets. One that fails or is
interrupted never returns. -/
def servingCalls (mode : ServerMode) (ns : List Nat) : List Call :=
  [.configure Listener.serverOptions, .serve ns] ++
    (if mode = .fail ∨ mode = .interrupt then [] else [.served])

/-- The courses of a run in which `attempts` are the calls that try the hosts: all calls of the run,
and the failure that it ends with. -/
inductive Course (w : World) (s : Config.ServerSettings) (m : Config.MetricsSettings)
    (attempts : List Call) : List Call → Option ServeFault → Prop
  | unbound : boundSockets (bindings w s) = [] →
      Course w s m attempts attempts
        (some (.listener (Listener.unbound s.port (bindings w s))))
  | unoffered {e : ServeFault} : boundSockets (bindings w s) ≠ [] → m.enabled = true →
      exporterFault? w m = some e →
      Course w s m attempts
        (attempts ++ exporterCalls m ++ (boundSockets (bindings w s)).map .close) (some e)
  | served : boundSockets (bindings w s) ≠ [] → (m.enabled = true → w.exporter = .run) →
      Course w s m attempts
        (attempts ++ exporterCalls m ++ servingCalls w.server (boundSockets (bindings w s)) ++
          (boundSockets (bindings w s)).map .close)
        (serverFault? w.server)

/-! ## The steps -/

/-- The hosts are tried, and at least one of them must be bound. -/
theorem bindAll_attempts (hnet : w.network.Resolves) (s : Config.ServerSettings) :
    ∃ attempts l, Attempts s.port s.backlog s.hosts attempts (bindings w s) ∧
      l.bindings = bindings w s ∧ l.system.calls = attempts ∧
      (Listener.create s.port s.hosts s.backlog).bindAll w.network =
        (l, if boundSockets (bindings w s) = [] then
            .error (.listener (Listener.unbound s.port (bindings w s)))
          else .ok (bindings w s)) := by
  obtain ⟨l, bs, attempts, htries, heach, hall⟩ :=
    Listener.bindAll_attempts (l := .create s.port s.hosts s.backlog) fun host _ => hnet.finds host
  have hbindings : bindings w s = bs := by
    have hfst : ((Listener.create s.port s.hosts s.backlog).bindEach w.network s.hosts).1 = l :=
      congrArg Prod.fst heach
    rw [bindings, hfst]
    exact htries.kept
  rw [hbindings]
  refine ⟨attempts, l, htries.attempts, htries.kept, htries.asked, ?_⟩
  have hnone : boundSockets bs = [] ↔ bs.any (·.isOk) = false := Net.boundSockets_eq_nil_iff
  rw [hall]
  cases hany : bs.any (·.isOk) <;> simp [hnone, hany, Listener.create]

/-- Offering the metrics is one call if they are wanted, and leaves the bindings. -/
theorem offerMetrics_eq (w : World) (m : Config.MetricsSettings) (l : Listener) :
    ∃ l', offerMetrics w m l = (l', if m.enabled = true then exporterFault? w m else none) ∧
      l'.bindings = l.bindings ∧ l'.system.calls = l.system.calls ++ exporterCalls m := by
  unfold offerMetrics exporterCalls exporterFault? Metrics.startExporter
  cases m.enabled with
  | false => exact ⟨l, rfl, rfl, (List.append_nil _).symm⟩
  | true => cases w.exporter <;> exact ⟨_, rfl, rfl, rfl⟩

/-- Serving on sockets that are bound. The listener is closed once more when the run ends. -/
theorem serveOut_eq (w : World) {l : Listener} (hbound : l.sockets ≠ []) :
    ∃ l', serveOut w l = (l', serverFault? w.server) ∧
      l'.close.system.calls =
        l.system.calls ++ servingCalls w.server l.sockets ++ l.sockets.map .close := by
  have hserve : l.serve w.network w.server = l.handOver w.server := by
    unfold Listener.serve Listener.ensureBound
    rw [if_neg (by simpa using hbound)]
  -- a listener that was closed has nothing more to close
  have hclosed : ∀ k : Listener,
      k.close.close.system.calls = k.system.calls ++ k.sockets.map .close := by
    intro k
    rw [Listener.calls_close k.close, Listener.calls_close k]
    exact List.append_nil _
  have hcalled : l.called.system.calls =
      l.system.calls ++ [.configure Listener.serverOptions, .serve l.sockets] := by
    simp [Listener.called, Listener.call, Net.System.note]
  have hreturned : (l.called.call .served).close.close.system.calls =
      l.system.calls ++ ([.configure Listener.serverOptions, .serve l.sockets] ++ [.served]) ++
        l.sockets.map .close := by
    rw [hclosed, ← List.append_assoc l.system.calls, ← hcalled]
    rfl
  have hbroken : l.called.close.close.system.calls =
      l.system.calls ++ ([.configure Listener.serverOptions, .serve l.sockets] ++ []) ++
        l.sockets.map .close := by
    rw [hclosed, List.append_nil, ← hcalled]
    rfl
  unfold serveOut
  rw [hserve]
  cases w.server with
  | run => exact ⟨_, rfl, hreturned⟩
  | ret => exact ⟨_, rfl, hreturned⟩
  | neverStarts => exact ⟨_, rfl, hreturned⟩
  | fail => exact ⟨_, rfl, hbroken⟩
  | interrupt => exact ⟨_, rfl, hbroken⟩

/-! ## Whole runs -/

/-- A run tries every host once, in order, and takes one of the three courses. -/
theorem run_course (hnet : w.network.Resolves) (s : Config.ServerSettings)
    (m : Config.MetricsSettings) :
    ∃ attempts, Attempts s.port s.backlog s.hosts attempts (bindings w s) ∧
      Course w s m attempts (run w s m).1.system.calls (run w s m).2 := by
  obtain ⟨attempts, l, hattempts, hkept, hcalls, hbind⟩ := bindAll_attempts hnet s
  have hsockets : l.sockets = boundSockets (bindings w s) := congrArg boundSockets hkept
  refine ⟨attempts, hattempts, ?_⟩
  unfold run upToEnd
  rw [hbind]
  by_cases hnone : boundSockets (bindings w s) = []
  · rw [if_pos hnone]
    dsimp only
    rw [Listener.calls_close, hsockets, hnone, hcalls, List.map_nil, List.append_nil]
    exact .unbound hnone
  · rw [if_neg hnone]
    dsimp only
    obtain ⟨l', hoffer, hkept', hcalls'⟩ := offerMetrics_eq w m l
    have hsockets' : l'.sockets = boundSockets (bindings w s) :=
      congrArg boundSockets (hkept'.trans hkept)
    rw [hcalls] at hcalls'
    rw [hoffer]
    cases hfault : (if m.enabled = true then exporterFault? w m else none) with
    | some e =>
      have henabled : m.enabled = true := by
        by_contra h
        rw [if_neg h] at hfault
        cases hfault
      rw [if_pos henabled] at hfault
      dsimp only
      rw [Listener.calls_close, hsockets', hcalls']
      exact .unoffered hnone henabled hfault
    | none =>
      have hrun : m.enabled = true → w.exporter = .run := by
        intro henabled
        rw [if_pos henabled, exporterFault?] at hfault
        cases hmode : w.exporter with
        | run => rfl
        | refuse r => simp [hmode] at hfault
        | fail => simp [hmode] at hfault
      -- serving closes the sockets, and the listener has none left to close
      obtain ⟨l'', hserve, hclose⟩ := serveOut_eq w (hsockets' ▸ hnone)
      dsimp only
      rw [hserve]
      dsimp only
      rw [hclose, hsockets', hcalls']
      exact .served hnone hrun

end Service

end JsonTap
