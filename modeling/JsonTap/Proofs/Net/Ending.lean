import JsonTap.Proofs.Net.Attempts
import JsonTap.Proofs.Net.Started

/-!
# How serving ends

When an attempt to serve ends that took the sockets over, the listener is as good as new: it keeps
nothing of its attempts to bind, and every socket that was made is closed. An attempt that is made
without sockets binds the hosts first, and nobody cleans up if that fails: what came of the hosts
until then is kept, open sockets among it (`Listener.serving_ends`).
-/

namespace JsonTap.Net.Listener

variable {net : Network} {l l' : Listener}

/-- An attempt to serve ends with a request: nothing is in progress after the attempt that it asks
for, or it stops the HTTP server that runs. -/
inductive EndsServing (net : Network) (l : Listener) (r : Request) : Prop
  | asked : r.mode? ≠ none → (l.perform net r).1.serving ≠ some .running → EndsServing net l r
  | stopped (started : Bool) : r = .stop → l.server = some ⟨started, true⟩ → EndsServing net l r

def FailsToBind (net : Network) (l : Listener) (r : Request) (e : ServeFault) : Prop :=
  r.mode? ≠ none ∧ ∃ m, l.ensureBound net = (m, some e)

/-- A listener with the same settings keeps nothing of any attempt to bind, and every socket that
was made is closed. -/
structure Released (l l' : Listener) : Prop where
  alike : l.SetAlike l'
  bindings : l'.bindings = []
  opened : l'.system.opened = []
  closed : unclosed l'.system.calls = []

/-- How binding the hosts fails when `bs` is what came of the attempts: all hosts were refused, or
the one after those that were tried has no address. -/
inductive BindsInVain (net : Network) (l : Listener) (bs : List Binding) : ServeFault → Prop
  | refused : bs.map (·.host) = l.hosts → boundSockets bs = [] →
      BindsInVain net l bs (.listener (unbound l.port bs))
  | nowhere {host : Text} {after : List Text} {moment : Nat} :
      l.hosts = bs.map (·.host) ++ host :: after → net.resolve moment host = .ok [] →
      BindsInVain net l bs .noAddress

/-! ## Settings that stay -/

/-- Binding a host changes no settings. -/
theorem bind_alike (net : Network) (l : Listener) (host : Text) :
    l.SetAlike (l.bind net host).1 := by
  by_cases hresolve : net.resolve (l.system.moment + 1) host = .ok []
  · rw [bind_of_nowhere hresolve]
    exact ⟨rfl, rfl, rfl⟩
  · obtain ⟨calls, l', b, hb, halike, -⟩ := bind_attempt hresolve
    rw [hb]
    exact halike

theorem ensureBound_alike (net : Network) (l : Listener) : l.SetAlike (l.ensureBound net).1 :=
  ensureBound_keeps (fun m host h => h.trans (bind_alike net m host)) (.refl l)

theorem handOver_alike (l : Listener) (mode : ServerMode) : l.SetAlike (l.handOver mode) := by
  cases mode <;> exact ⟨rfl, rfl, rfl⟩

theorem stop_alike (l : Listener) : l.SetAlike l.stop := by
  unfold stop
  split
  · dsimp only
    split <;> exact ⟨rfl, rfl, rfl⟩
  · exact .refl l

/-! ## Attempts that took the sockets over -/

/-- A listener without bindings has no open sockets either. -/
theorem Sound.released (h : l'.Sound) (halike : l.SetAlike l') (hbindings : l'.bindings = []) :
    l.Released l' := by
  have hnumbers : l'.system.openNumbers = [] := by
    rw [h.owned, sockets, hbindings]
    rfl
  refine ⟨halike, hbindings, List.map_eq_nil_iff.mp hnumbers, ?_⟩
  rw [← h.system.traced, hnumbers]

/-- An HTTP server that does not last gives its sockets up at once. -/
theorem bindings_handOver (l : Listener) {mode : ServerMode} (h : mode.lasts = false) :
    (l.handOver mode).bindings = [] := by
  cases mode with
  | run => cases h
  | neverStarts => cases h
  | _ => rfl

theorem bindings_stop {started : Bool} (h : l.server = some ⟨started, true⟩) :
    l.stop.bindings = [] := by
  unfold stop
  rw [h]
  dsimp only
  split <;> rfl

/-- The listener is released with the end of any attempt to serve for which its hosts are bound. -/
theorem EndsServing.released {r : Request} (h : EndsServing net l r) (hl : l.Sound)
    (hbound : ¬ ∃ e, FailsToBind net l r e) : l.Released (l.perform net r).1 := by
  have hsound : (l.perform net r).1.Sound := (perform_cases hl r).1
  obtain ⟨hmode, hserving⟩ | ⟨started, rfl, hserver⟩ := h
  · obtain ⟨mode, hasks⟩ := Option.ne_none_iff_exists'.mp hmode
    have halike := ensureBound_alike net l
    cases he : l.ensureBound net with
    | mk m e =>
      cases e with
      | some e => exact absurd ⟨e, hmode, m, he⟩ hbound
      | none =>
        have hperform : (l.perform net r).1 = m.handOver mode := by
          rw [perform_of_mode? hasks, serve, he]
        rw [he] at halike
        rw [hperform] at hserving hsound ⊢
        have hlasts : mode.lasts = false := by
          rw [ne_eq, serving_handOver, Bool.not_eq_true] at hserving
          exact hserving
        exact hsound.released (halike.trans (handOver_alike m mode)) (bindings_handOver m hlasts)
  · exact hsound.released (stop_alike l) (bindings_stop hserver)

/-! ## Attempts in vain -/

/-- When binding all hosts fails, what came of them is kept. -/
theorem bindAll_in_vain {e : ServeFault} (hb : l.bindAll net = (l', .error e)) :
    ∃ bs, l'.bindings = l.bindings ++ bs ∧ BindsInVain net l bs e := by
  unfold bindAll at hb
  obtain ⟨m, bs, calls, htries, heach⟩ |
    ⟨before, host, after, m, bs, calls, hhosts, htries, hnowhere, heach⟩ :=
      bindEach_ends net l l.hosts
  all_goals
    rw [heach] at hb
    dsimp only at hb
  · split at hb
    · cases hb
    · next hnone =>
        cases hb
        rw [htries.alike.port]
        rw [Bool.not_eq_true, ← boundSockets_eq_nil_iff] at hnone
        exact ⟨bs, htries.kept, .refused htries.attempts.hosts_eq hnone⟩
  · cases hb
    rw [← htries.attempts.hosts_eq] at hhosts
    exact ⟨bs, htries.kept, .nowhere hhosts hnowhere⟩

/-- Hosts are bound for an attempt to serve if the listener has no sockets. -/
theorem ensureBound_in_vain {e : ServeFault} (hb : l.ensureBound net = (l', some e)) :
    l.sockets = [] ∧ ∃ bs, l'.bindings = l.bindings ++ bs ∧ BindsInVain net l bs e := by
  unfold ensureBound at hb
  split at hb
  · next hempty =>
      refine ⟨List.isEmpty_iff.mp hempty, ?_⟩
      cases hall : l.bindAll net with
      | mk m r =>
        rw [hall] at hb
        cases r with
        | ok bs => cases hb
        | error e' =>
          cases hb
          exact bindAll_in_vain hall
  · cases hb

/-- **How serving ends.** After any requests, on any network: with the end of an attempt to serve
that took the sockets over, whatever ended it, the listener is released. An attempt for which the
hosts cannot be bound ends with that failure, and leaves everything as it is then: the refusals that
were kept before, and what came of the hosts, with their sockets open. So it releases the listener
exactly if nothing was kept before and nothing came of the hosts. -/
theorem serving_ends (past net : Network) (port : Int) (hosts : List Text) (backlog : Int)
    (rs : List Request) (r : Request) :
    let l := (create port hosts backlog).performAll past rs
    let l' := (l.perform net r).1
    EndsServing net l r →
      ((¬ ∃ e, FailsToBind net l r e) → l.Released l') ∧
        ∀ e, FailsToBind net l r e →
          l'.serving = some (.failed e) ∧ l.sockets = [] ∧
            ∃ bs, BindsInVain net l bs e ∧ l'.bindings = l.bindings ++ bs ∧
              unclosed l'.system.calls = boundSockets bs ∧
              (l.Released l' ↔ l.bindings = [] ∧ bs = []) := by
  intro l l' hends
  have hl : l.Sound := (sound_create port hosts backlog).performAll past rs
  have hl' : l'.Sound := (perform_cases hl r).1
  refine ⟨hends.released hl, ?_⟩
  rintro e ⟨hmode, m, hbind⟩
  obtain ⟨mode, hasks⟩ := Option.ne_none_iff_exists'.mp hmode
  have hperform : l' = { m with serving := some (.failed e) } := by
    show (l.perform net r).1 = _
    rw [perform_of_mode? hasks, serve, hbind]
  -- nothing was bound before, so the attempts of this request are all there is to release
  obtain ⟨hsockets, bs, hkept, hvain⟩ := ensureBound_in_vain hbind
  have hbindings : l'.bindings = l.bindings ++ bs := by
    rw [hperform]
    exact hkept
  refine ⟨by rw [hperform], hsockets, bs, hvain, hbindings, ?_, ?_⟩
  · rw [← hl'.system.traced, hl'.owned, sockets, hbindings, List.filterMap_append]
    show l.sockets ++ boundSockets bs = _
    rw [hsockets, List.nil_append]
  · rw [← List.append_eq_nil_iff, ← hbindings]
    constructor
    · exact Released.bindings
    · have halike := ensureBound_alike net l
      rw [hbind] at halike
      refine hl'.released ?_
      rw [hperform]
      exact ⟨halike.port, halike.hosts, halike.backlog⟩

/-- A listener that runs is stopped, and has nothing open then. -/
theorem serving_ends_stopped :
    let l := (create 8888 usualHosts usualBacklog).performAll .plain [.serve .run]
    unclosed l.system.calls = [1, 2] ∧ EndsServing .plain l .stop ∧
      l.Released (l.perform .plain .stop).1 := by
  intro l
  have hends : EndsServing .plain l .stop := .stopped true rfl rfl
  refine ⟨rfl, hends, ?_⟩
  apply (serving_ends .plain .plain 8888 usualHosts usualBacklog [.serve .run] .stop hends).1
  rintro ⟨e, hmode, -⟩
  exact hmode rfl

/-- A network on which one name leads nowhere, and is not refused. -/
def nowhereAt (name : Text) : Network :=
  { Network.plain with
    resolve := fun _ host => if host = name then .ok [] else resolveNumeric host }

/-- The first host is bound and the second one leads nowhere: the attempt to serve fails, and its
socket stays open. A later attempt serves that one alone, while one of a new listener tries both
hosts. Where every host is refused, the refusals stay. -/
theorem failed_attempt_is_not_released :
    let l := create 8888 ["::", "x"] 128
    let l' := (l.perform (nowhereAt "x") (.serve .run)).1
    let refused := ((create 8888 ["x"] 128).perform .plain (.serve .run)).1
    EndsServing (nowhereAt "x") l (.serve .run) ∧ l'.serving = some (.failed .noAddress) ∧
      unclosed l'.system.calls = [1] ∧
      (l'.serve .plain .run).bindings.map (·.host) = ["::"] ∧
      (l.serve .plain .run).bindings.map (·.host) = ["::", "x"] ∧
      EndsServing .plain (create 8888 ["x"] 128) (.serve .run) ∧
      refused.serving = some (.failed (.listener (unbound 8888 refused.bindings))) ∧
      refused.bindings.map (·.host) = ["x"] :=
  ⟨.asked nofun nofun, rfl, rfl, rfl, rfl, .asked nofun nofun, rfl, rfl⟩

end JsonTap.Net.Listener
