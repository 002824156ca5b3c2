import JsonTap.Net.Listener
import JsonTap.Proofs.Net.Sockets

/-!
# A listener owns its sockets

After any requests, on a network that may answer anything at any moment, the open sockets are those
of the bindings that succeeded, each once, and all of them listen (`Listener.Sound`). What a request
does to them is said once for each operation below; the HTTP server is started by `serve` alone, on
sockets that are open then (`perform_served`). So nothing is left open when a listener is closed,
and each of its addresses can be bound again (`owns_its_sockets`).
-/

namespace JsonTap.Net

def System.Listens (s : System) (n : Nat) : Prop :=
  ∃ x ∈ s.opened, x.number = n ∧ x.listening = true

/-- A binding has a socket or a refusal. -/
theorem Binding.refused_iff (b : Binding) : b.socket? = none ↔ b.refusal?.isSome = true := by
  unfold Binding.socket? Binding.refusal?
  cases b.outcome <;> simp [Except.toOption]

namespace Listener

variable {net : Network} {l l' : Listener}

/-- The open sockets are those of the bindings, and they listen. -/
structure Sound (l : Listener) : Prop where
  system : l.system.Sound
  owned : l.system.openNumbers = l.sockets
  listening : ∀ x ∈ l.system.opened, x.listening = true
  ports : ∀ b ∈ l.bindings, b.isOk = true → b.port ≠ 0

/-- A new listener is sound. -/
theorem sound_create (port : Int) (hosts : List Text) (backlog : Int) :
    (create port hosts backlog).Sound :=
  ⟨System.sound_initial, rfl, List.forall_mem_nil _, List.forall_mem_nil _⟩

/-- Only the system and the bindings count. -/
theorem Sound.congr (h : l.Sound) (hs : l'.system = l.system) (hb : l'.bindings = l.bindings) :
    l'.Sound := by
  refine ⟨?_, ?_, ?_, ?_⟩
  · rw [hs]
    exact h.system
  · rw [sockets, hs, hb]
    exact h.owned
  · rw [hs]
    exact h.listening
  · rw [hb]
    exact h.ports

/-- A call that neither makes nor closes a socket. -/
theorem Sound.call (h : l.Sound) {c : Call} (hc : ∀ ns, c.track ns = ns) : (l.call c).Sound :=
  ⟨h.system.note hc, h.owned, h.listening, h.ports⟩

@[simp] theorem port_call (l : Listener) (c : Call) : (l.call c).port = l.port := rfl

@[simp] theorem backlog_call (l : Listener) (c : Call) : (l.call c).backlog = l.backlog := rfl

/-- The sockets of a sound listener listen. -/
theorem Sound.listens (h : l.Sound) {n : Nat} (hn : n ∈ l.sockets) : l.system.Listens n := by
  rw [← h.owned] at hn
  obtain ⟨x, hx, rfl⟩ := List.mem_map.mp hn
  exact ⟨x, hx, rfl, h.listening x hx⟩

/-! ## Binding -/

@[simp] theorem system_keep (l : Listener) (b : Binding) : (l.keep b).system = l.system := by
  unfold keep
  cases b.outcome <;> rfl

@[simp] theorem bindings_keep (l : Listener) (b : Binding) :
    (l.keep b).bindings = l.bindings ++ [b] := by
  unfold keep
  cases b.outcome <;> rfl

/-- A binding that failed is kept, and the open sockets are the same. -/
theorem Sound.keep_failed (h : l.Sound) {b : Binding} {e : Text} (hb : b.outcome = .error e) :
    (l.keep b).Sound := by
  have hsocket : b.socket? = none := by rw [Binding.socket?, hb]; rfl
  refine ⟨?_, ?_, ?_, ?_⟩
  · rw [system_keep]
    exact h.system
  · rw [system_keep, sockets, bindings_keep, List.filterMap_append, h.owned]
    simp [sockets, hsocket]
  · rw [system_keep]
    exact h.listening
  · rw [bindings_keep]
    intro b' hb' hok
    rcases List.mem_append.mp hb' with hb' | hb'
    · exact h.ports b' hb' hok
    · rw [List.mem_singleton.mp hb', Binding.isOk, hsocket] at hok
      cases hok

/-- One more socket listens, and the binding that holds it is kept. -/
theorem Sound.keep_opened (h : l.Sound) {s : System} (hs : s.Sound) {b : Binding} {n : Nat}
    {family : Family} {address : Text × Int}
    (hopened : s.opened = l.system.opened ++ [⟨n, family, some address, true⟩])
    (hb : b.outcome = .ok n) (hport : b.port ≠ 0) : (keep { l with system := s } b).Sound := by
  have hsocket : b.socket? = some n := by rw [Binding.socket?, hb]; rfl
  refine ⟨?_, ?_, ?_, ?_⟩
  · rw [system_keep]
    exact hs
  · rw [system_keep, sockets, bindings_keep, List.filterMap_append]
    show s.opened.map _ = l.sockets ++ _
    rw [hopened, List.map_append, ← h.owned]
    simp [System.openNumbers, hsocket]
  · rw [system_keep]
    show ∀ x ∈ s.opened, _
    rw [hopened]
    intro x hx
    rcases List.mem_append.mp hx with hx | hx
    · exact h.listening x hx
    · rw [List.mem_singleton.mp hx]
  · rw [bindings_keep]
    intro b' hb' hok
    rcases List.mem_append.mp hb' with hb' | hb'
    · exact h.ports b' hb' hok
    · rw [List.mem_singleton.mp hb']
      exact hport

/-- What holds of a listener and is kept by every attempt to bind holds when hosts have been
bound, whatever comes of them. -/
theorem bindEach_keeps {p : Listener → Prop} (hbind : ∀ m host, p m → p (m.bind net host).1)
    (h : p l) (hosts : List Text) : p (l.bindEach net hosts).1 := by
  induction hosts generalizing l with
  | nil => exact h
  | cons host hosts ih =>
      have hone := hbind l host h
      rw [bindEach]
      cases h₁ : l.bind net host with
      | mk l₁ b =>
          rw [h₁] at hone
          cases b with
          | none => exact hone
          | some b =>
              have hall := ih hone
              dsimp only
              cases h₂ : l₁.bindEach net hosts with
              | mk l₂ bs =>
                  rw [h₂] at hall
                  cases bs <;> exact hall

/-- What binding one host keeps, binding all of them keeps. -/
theorem bindAll_keeps {p : Listener → Prop} (hbind : ∀ m host, p m → p (m.bind net host).1)
    (h : p l) : p (l.bindAll net).1 := by
  have heach := bindEach_keeps hbind h l.hosts
  unfold bindAll
  cases hb : l.bindEach net l.hosts with
  | mk l' bs =>
      rw [hb] at heach
      cases bs with
      | error e => exact heach
      | ok bs =>
          dsimp only
          split <;> exact heach

/-- What binding one host keeps, binding them when needed keeps. -/
theorem ensureBound_keeps {p : Listener → Prop} (hbind : ∀ m host, p m → p (m.bind net host).1)
    (h : p l) : p (l.ensureBound net).1 := by
  have hall := bindAll_keeps hbind h
  unfold ensureBound
  split
  · cases hb : l.bindAll net with
    | mk l' bs =>
        rw [hb] at hall
        cases bs <;> exact hall
  · exact h

/-- Binding a host keeps one more binding, or none if the host has no address. -/
theorem bind_cases (h : l.Sound) {host : Text} {r : Option Binding}
    (hb : l.bind net host = (l', r)) :
    l'.Sound ∧ l.system.Quiet l'.system ∧ l'.bindings = l.bindings ++ r.toList := by
  have hcall : (l.call (.resolve host l.port true true)).Sound := h.call fun _ => rfl
  have hquiet : l.system.Quiet (l.call (.resolve host l.port true true)).system :=
    System.quiet_note nofun
  unfold bind at hb
  dsimp only at hb
  split at hb
  · cases hb
    refine ⟨hcall.keep_failed rfl, ?_, bindings_keep _ _⟩
    rw [system_keep]
    exact hquiet
  · cases hb
    exact ⟨hcall, hquiet, (List.append_nil _).symm⟩
  · next family others _ =>
      split at hb
      · next s e ho =>
          obtain ⟨hs, hq, ⟨e', -, hopened⟩ | ⟨n, actual, hr, -⟩⟩ :=
            System.openListening_cases hcall.system ho
          · cases hb
            -- no socket has been added, so that the bindings still account for all
            have hsame : ({ l.call (.resolve host l.port true true) with system := s } :
                Listener).Sound := by
              refine ⟨hs, ?_, ?_, hcall.ports⟩
              · show s.opened.map _ = _
                rw [hopened]
                exact hcall.owned
              · show ∀ x ∈ s.opened, _
                rw [hopened]
                exact hcall.listening
            refine ⟨hsame.keep_failed rfl, ?_, bindings_keep _ _⟩
            rw [system_keep]
            exact hquiet.trans hq
          · cases hr
      · next s n port ho =>
          obtain ⟨hs, hq, ⟨e, hr, -⟩ | ⟨n', actual, hr, hport, hopened⟩⟩ :=
            System.openListening_cases hcall.system ho
          · cases hr
          · cases hr
            cases hb
            refine ⟨hcall.keep_opened hs hopened rfl hport, ?_, bindings_keep _ _⟩
            rw [system_keep]
            exact hquiet.trans hq

/-- Binding hosts keeps a listener sound, and calls no HTTP server. -/
theorem bindEach_cases (h : l.Sound) {hosts : List Text} {r : Except ServeFault (List Binding)}
    (hb : l.bindEach net hosts = (l', r)) :
    l'.Sound ∧ l.system.Quiet l'.system ∧ ∀ bs, r = .ok bs → l'.bindings = l.bindings ++ bs := by
  induction hosts generalizing l l' r with
  | nil =>
      cases hb
      refine ⟨h, .refl _, ?_⟩
      intro bs hbs
      cases hbs
      exact (List.append_nil _).symm
  | cons host hosts ih =>
      rw [bindEach] at hb
      cases h₁ : l.bind net host with
      | mk l₁ r₁ =>
          obtain ⟨hl₁, hq₁, hbs₁⟩ := bind_cases h h₁
          rw [h₁] at hb
          cases r₁ with
          | none =>
              cases hb
              exact ⟨hl₁, hq₁, nofun⟩
          | some b =>
              dsimp only at hb
              cases h₂ : l₁.bindEach net hosts with
              | mk l₂ r₂ =>
                  obtain ⟨hl₂, hq₂, hbs₂⟩ := ih hl₁ h₂
                  rw [h₂] at hb
                  cases r₂ with
                  | error e =>
                      cases hb
                      exact ⟨hl₂, hq₁.trans hq₂, nofun⟩
                  | ok bs =>
                      cases hb
                      refine ⟨hl₂, hq₁.trans hq₂, ?_⟩
                      intro bs' hbs'
                      cases hbs'
                      rw [hbs₂ bs rfl, hbs₁, Option.toList_some, List.append_assoc,
                        List.singleton_append]

/-- If binding all hosts does not fail, there is a socket. -/
theorem bindAll_cases (h : l.Sound) {r : Except ServeFault (List Binding)}
    (hb : l.bindAll net = (l', r)) :
    l'.Sound ∧ l.system.Quiet l'.system ∧ ∀ bs, r = .ok bs → l'.sockets ≠ [] := by
  unfold bindAll at hb
  cases h₁ : l.bindEach net l.hosts with
  | mk l₁ r₁ =>
      obtain ⟨hl₁, hq₁, hbs₁⟩ := bindEach_cases h h₁
      rw [h₁] at hb
      cases r₁ with
      | error e =>
          cases hb
          exact ⟨hl₁, hq₁, nofun⟩
      | ok bs =>
          dsimp only at hb
          split at hb
          · next hany =>
              cases hb
              refine ⟨hl₁, hq₁, ?_⟩
              intro bs' hbs' hnone
              obtain ⟨b, hb, hok⟩ := List.any_eq_true.mp hany
              obtain ⟨n, hn⟩ := Option.isSome_iff_exists.mp hok
              have hmem : n ∈ l'.sockets := by
                rw [sockets, hbs₁ bs rfl, List.filterMap_append]
                exact List.mem_append_right _ (List.mem_filterMap.mpr ⟨b, hb, hn⟩)
              rw [hnone] at hmem
              cases hmem
          · cases hb
            exact ⟨hl₁, hq₁, nofun⟩

/-- With its hosts bound when needed, a listener is sound and has sockets. -/
theorem ensureBound_cases (h : l.Sound) {r : Option ServeFault}
    (hb : l.ensureBound net = (l', r)) :
    l'.Sound ∧ l.system.Quiet l'.system ∧ (r = none → l'.sockets ≠ []) := by
  unfold ensureBound at hb
  split at hb
  · cases h₁ : l.bindAll net with
    | mk l₁ r₁ =>
        obtain ⟨hl₁, hq₁, hbs₁⟩ := bindAll_cases h h₁
        rw [h₁] at hb
        cases r₁ with
        | error e =>
            cases hb
            exact ⟨hl₁, hq₁, nofun⟩
        | ok bs =>
            cases hb
            exact ⟨hl₁, hq₁, fun _ => hbs₁ bs rfl⟩
  · next hne =>
      cases hb
      refine ⟨h, .refl _, ?_⟩
      intro _ hnone
      exact hne (List.isEmpty_iff.mpr hnone)

/-! ## Closing -/

/-- Closing sockets leaves the others, and calls no HTTP server. -/
theorem closeAll_cases (s : System) (ns : List Nat) :
    s.Quiet (ns.foldl System.close s) ∧ (s.Sound → (ns.foldl System.close s).Sound) ∧
      (ns.foldl System.close s).opened = s.opened.filter (·.number ∉ ns) := by
  induction ns generalizing s with
  | nil => exact ⟨.refl s, id, by simp⟩
  | cons n ns ih =>
      obtain ⟨hq, hs, hopened⟩ := ih (s.close n)
      refine ⟨(s.quiet_close n).trans hq, fun h => hs (h.close n), ?_⟩
      rw [List.foldl_cons, hopened, System.opened_close, List.filter_filter]
      simp [Bool.and_comm]

/-- When a listener is closed nothing is open. -/
theorem Sound.opened_close (h : l.Sound) : l.close.system.opened = [] := by
  have hopened := (closeAll_cases l.system l.sockets).2.2
  show (l.sockets.foldl System.close l.system).opened = []
  rw [hopened, List.filter_eq_nil_iff]
  intro x hx
  have hmem : x.number ∈ l.sockets := by
    rw [← h.owned]
    exact List.mem_map_of_mem hx
  simpa using hmem

/-- A listener that closes stays sound. -/
theorem Sound.close (h : l.Sound) : l.close.Sound := by
  refine ⟨(closeAll_cases l.system l.sockets).2.1 h.system, ?_, ?_, List.forall_mem_nil _⟩
  · rw [System.openNumbers, h.opened_close]
    rfl
  · rw [h.opened_close]
    exact List.forall_mem_nil _

theorem quiet_close (l : Listener) : l.system.Quiet l.close.system :=
  (closeAll_cases l.system l.sockets).1

/-! ## Serving -/

def called (l : Listener) : Listener :=
  (l.call (.configure serverOptions)).call (.serve l.sockets)

theorem Sound.called (h : l.Sound) : l.called.Sound :=
  (h.call fun _ => rfl).call fun _ => rfl

/-- Handing the sockets over keeps a listener sound. -/
theorem handOver_cases (h : l.Sound) (mode : ServerMode) :
    (l.handOver mode).Sound ∧ l.called.system.Quiet (l.handOver mode).system := by
  have hcalled := h.called
  have hclosed := hcalled.close
  have hreturned : ((l.called.call .served).close).Sound := (hcalled.call fun _ => rfl).close
  have hserved : l.called.system.Quiet (l.called.call .served).system := System.quiet_note nofun
  have hquiet : l.called.system.Quiet (l.called.call .served).close.system :=
    hserved.trans (quiet_close _)
  cases mode with
  | run => exact ⟨hcalled.congr rfl rfl, .refl _⟩
  | neverStarts => exact ⟨hcalled.congr rfl rfl, .refl _⟩
  | ret => exact ⟨hreturned.congr rfl rfl, hquiet⟩
  | fail => exact ⟨hclosed.congr rfl rfl, quiet_close _⟩
  | interrupt => exact ⟨hclosed.congr rfl rfl, quiet_close _⟩

/-- The HTTP server is called with `ns`, after the calls `before`, when `l` is asked to serve: `m`
is the listener with its hosts bound, and `ns` are its sockets. -/
structure Starts (net : Network) (l m : Listener) (before : List Call) (ns : List Nat) : Prop where
  bound : l.ensureBound net = (m, none)
  calls : before = m.system.calls ++ [.configure serverOptions]
  sockets : ns = m.sockets

/-- The HTTP server is called with sockets that are open and listen, at least one. -/
theorem Starts.listens {m : Listener} {before : List Call} {ns : List Nat}
    (hs : l.Starts net m before ns) (h : l.Sound) :
    ns ≠ [] ∧ ∀ n ∈ ns, n ∈ unclosed before ∧ m.system.Listens n := by
  obtain ⟨hbound, rfl, rfl⟩ := hs
  obtain ⟨hm, -, hsome⟩ := ensureBound_cases h hbound
  refine ⟨hsome rfl, ?_⟩
  intro n hn
  refine ⟨?_, hm.listens hn⟩
  rw [unclosed_concat, ← hm.system.traced, hm.owned]
  exact hn

/-- What the HTTP server is called with up to the end of a hand-over: the sockets of the listener,
or what it was called with before. -/
theorem handOver_served (h : l.Sound) {mode : ServerMode} {before : List Call} {ns : List Nat}
    (hp : before ++ [.serve ns] <+: (l.handOver mode).system.calls) :
    before ++ [.serve ns] <+: l.system.calls ∨
      before = l.system.calls ++ [.configure serverOptions] ∧ ns = l.sockets := by
  have hcalled := (handOver_cases h mode).2.served hp
  have hcalls : l.called.system.calls =
      (l.system.calls ++ [.configure serverOptions]) ++ [.serve l.sockets] := rfl
  rw [hcalls, List.prefix_concat_iff] at hcalled
  rcases hcalled with heq | hearlier
  · obtain ⟨hbefore, hns⟩ := List.append_inj' heq rfl
    exact .inr ⟨hbefore, Call.serve.inj (List.singleton_inj.mp hns)⟩
  · have hquiet : l.system.Quiet (l.call (.configure serverOptions)).system :=
      System.quiet_note nofun
    exact .inl (hquiet.served hearlier)

/-- An attempt to serve keeps a listener sound, and starts the HTTP server on its sockets only. -/
theorem serve_cases (h : l.Sound) (mode : ServerMode) :
    (l.serve net mode).Sound ∧
      ∀ before ns, before ++ [.serve ns] <+: (l.serve net mode).system.calls →
        before ++ [.serve ns] <+: l.system.calls ∨ ∃ m, l.Starts net m before ns := by
  unfold serve
  cases hb : l.ensureBound net with
  | mk m r =>
      obtain ⟨hm, hq, -⟩ := ensureBound_cases h hb
      cases r with
      | some e =>
          refine ⟨hm.congr rfl rfl, ?_⟩
          intro before ns hp
          exact .inl (hq.served hp)
      | none =>
          refine ⟨(handOver_cases hm mode).1, ?_⟩
          intro before ns hp
          rcases handOver_served hm hp with hearlier | ⟨hbefore, hns⟩
          · exact .inl (hq.served hearlier)
          · exact .inr ⟨m, hb, hbefore, hns⟩

/-- Stopping keeps a listener sound, and calls no HTTP server. -/
theorem stop_cases (h : l.Sound) : l.stop.Sound ∧ l.system.Quiet l.stop.system := by
  have hreturned := (h.call (c := .served) fun _ => rfl).close
  have hserved : l.system.Quiet (l.call .served).system := System.quiet_note nofun
  have hquiet := hserved.trans (quiet_close _)
  unfold stop
  split
  · dsimp only
    split
    · exact ⟨hreturned.congr rfl rfl, hquiet⟩
    · exact ⟨hreturned.congr rfl rfl, hquiet⟩
  · exact ⟨h, .refl _⟩

/-! ## Requests -/

/-- A request leaves the listener sound, and calls the HTTP server only as `Starts` says. -/
theorem perform_cases (h : l.Sound) (r : Request) :
    (l.perform net r).1.Sound ∧
      ∀ before ns, before ++ [.serve ns] <+: (l.perform net r).1.system.calls →
        before ++ [.serve ns] <+: l.system.calls ∨ ∃ m, l.Starts net m before ns := by
  have quiet : ∀ {l' : Listener}, l.system.Quiet l'.system → ∀ before ns,
      before ++ [.serve ns] <+: l'.system.calls →
        before ++ [.serve ns] <+: l.system.calls ∨ ∃ m, l.Starts net m before ns :=
    fun hq before ns hp => .inl (hq.served hp)
  cases r with
  | bind host =>
      rw [perform]
      cases hb : l.bind net host with
      | mk l' b =>
          obtain ⟨hl', hq, -⟩ := bind_cases h hb
          cases b <;> exact ⟨hl', quiet hq⟩
  | bindAll =>
      rw [perform]
      cases hb : l.bindAll net with
      | mk l' bs =>
          obtain ⟨hl', hq, -⟩ := bindAll_cases h hb
          cases bs <;> exact ⟨hl', quiet hq⟩
  | setPort port => exact ⟨h.congr rfl rfl, quiet (.refl _)⟩
  | serve mode => exact serve_cases h mode
  | waitStarted => exact ⟨h, quiet (.refl _)⟩
  | waitThenServe patient => exact serve_cases h .run
  | stop => exact ⟨(stop_cases h).1, quiet (stop_cases h).2⟩
  | close => exact ⟨h.close, quiet (quiet_close l)⟩
  | look => exact ⟨h, quiet (.refl _)⟩

theorem performAll_concat (net : Network) (l : Listener) (rs : List Request) (r : Request) :
    l.performAll net (rs ++ [r]) = ((l.performAll net rs).perform net r).1 := by
  rw [performAll, List.foldl_append]
  rfl

/-- After any requests a listener is sound. -/
theorem Sound.performAll (h : l.Sound) (net : Network) (rs : List Request) :
    (l.performAll net rs).Sound := by
  induction rs using List.reverseRecOn with
  | nil => exact h
  | append_singleton rs r ih =>
      rw [performAll_concat]
      exact (perform_cases ih r).1

/-- Whenever the HTTP server is called, some request of the run has started it. -/
theorem performAll_starts (h : l.Sound) {rs : List Request} {before : List Call} {ns : List Nat}
    (hp : before ++ [.serve ns] <+: (l.performAll net rs).system.calls)
    (hnew : ¬ before ++ [.serve ns] <+: l.system.calls) :
    ∃ earlier m, earlier <+: rs ∧ (l.performAll net earlier).Starts net m before ns := by
  induction rs using List.reverseRecOn with
  | nil => exact absurd hp hnew
  | append_singleton rs r ih =>
      rw [performAll_concat] at hp
      rcases (perform_cases (h.performAll net rs) r).2 before ns hp with hearlier | ⟨m, hm⟩
      · obtain ⟨earlier, m, hprefix, hm⟩ := ih hearlier
        exact ⟨earlier, m, hprefix.trans (List.prefix_append rs [r]), hm⟩
      · exact ⟨rs, m, List.prefix_append rs [r], hm⟩

/-- Where nothing is open, a host can be bound at any port that the network admits. -/
theorem bind_of_opened_nil (hl : l.system.opened = []) {host : Text} {family : Family}
    (hnet : net.Admits host l.port family) (hport : l.port ≠ 0) :
    ∃ n, (l.bind net host).2 = some ⟨host, l.port, some family, .ok n⟩ := by
  obtain ⟨others, hresolve⟩ := hnet.resolves (l.call (.resolve host l.port true true)).system.moment
  have hfree : (l.call (.resolve host l.port true true)).system.holds host l.port = false := by
    show l.system.opened.any _ = false
    rw [hl]
    rfl
  obtain ⟨s, hs⟩ := System.openListening_free hnet hport _ hfree l.backlog
  unfold bind
  simp only [hresolve, port_call, backlog_call, hs]
  exact ⟨_, rfl⟩

/-- After any requests, on any network: the sockets that were made and not closed are those of the
bindings, each once, and a binding that was refused has none. Each call of the HTTP server is with
sockets that are open and listen then, at least one. When the listener is closed there are no
bindings and no open sockets, and each of its addresses can be bound again. -/
theorem owns_its_sockets (net : Network) (port : Int) (hosts : List Text) (backlog : Int)
    (rs : List Request) :
    let start := create port hosts backlog
    let l := start.performAll net rs
    unclosed l.system.calls = l.sockets ∧ l.sockets.Nodup ∧
      (∀ b ∈ l.bindings, b.socket? = none ↔ b.refusal?.isSome = true) ∧
      (∀ before ns, before ++ [.serve ns] <+: l.system.calls →
        ∃ earlier m, earlier <+: rs ∧ (start.performAll net earlier).Starts net m before ns ∧
          ns ≠ [] ∧ ∀ n ∈ ns, n ∈ unclosed before ∧ m.system.Listens n) ∧
      l.close.bindings = [] ∧ unclosed l.close.system.calls = [] ∧
      ∀ b ∈ l.bindings, b.isOk = true → ∀ (later : Network) family,
        later.Admits b.host b.port family →
          ∃ n, ((l.performAll later [.close, .setPort b.port]).bind later b.host).2 =
            some ⟨b.host, b.port, some family, .ok n⟩ := by
  intro start l
  have hstart : start.Sound := sound_create port hosts backlog
  have hl : l.Sound := hstart.performAll net rs
  have hclosed := hl.close
  refine ⟨?_, ?_, fun b _ => b.refused_iff, ?_, rfl, ?_, ?_⟩
  · rw [← hl.system.traced, hl.owned]
  · rw [← hl.owned]
    exact hl.system.nodup
  · -- a listener that has done nothing has called no server
    intro before ns hp
    have hnew : ¬ before ++ [.serve ns] <+: start.system.calls := by
      show ¬ _ <+: []
      simp
    obtain ⟨earlier, m, hprefix, hstarts⟩ := performAll_starts hstart hp hnew
    exact ⟨earlier, m, hprefix, hstarts, hstarts.listens (hstart.performAll net earlier)⟩
  · rw [← hclosed.system.traced, System.openNumbers, hl.opened_close]
    rfl
  · intro b hb hok later family hlater
    exact bind_of_opened_nil (l := l.performAll later [.close, .setPort b.port]) hl.opened_close
      hlater (hl.ports b hb hok)

/-- A listener that has bound a host twice, the second time in vain, and serves. -/
def boundTwice : Listener :=
  (create 8888 ["::"] 128).performAll .plain [.bind "::", .bind "::", .serve .run]

/-- The second attempt leaves no socket behind, and the first one's is the socket that is served. -/
theorem owns_its_sockets_bound_twice :
    boundTwice.bindings.length = 2 ∧ unclosed boundTwice.system.calls = [1] ∧
      (∃ (before : List Call) (m : Listener), before ++ [.serve [1]] <+: boundTwice.system.calls ∧
        1 ∈ unclosed before ∧ m.system.Listens 1) ∧
      ∃ n, ((boundTwice.performAll .plain [.close, .setPort 8888]).bind .plain "::").2 =
        some ⟨"::", 8888, some .inet6, .ok n⟩ := by
  obtain ⟨howned, -, -, hserved, -, -, hagain⟩ :=
    owns_its_sockets .plain 8888 ["::"] 128 [.bind "::", .bind "::", .serve .run]
  have hsockets : boundTwice.sockets = [1] := by decide
  have hlast : boundTwice.system.calls.getLast? = some (.serve [1]) := by rfl
  have hfirst : boundTwice.bindings.head? = some ⟨"::", 8888, some .inet6, .ok 1⟩ := by rfl
  have hcalls : boundTwice.system.calls.dropLast ++ [.serve [1]] <+: boundTwice.system.calls :=
    ⟨[], by rw [List.append_nil, List.dropLast_append_getLast? _ hlast]⟩
  refine ⟨by decide, ?_, ?_, ?_⟩
  · rw [← hsockets]
    exact howned
  · obtain ⟨-, m, -, -, -, hlisten⟩ := hserved _ _ hcalls
    obtain ⟨hopen, hlistens⟩ := hlisten 1 (List.mem_singleton.mpr rfl)
    exact ⟨_, m, hcalls, hopen, hlistens⟩
  · exact hagain _ (List.mem_of_mem_head? hfirst) rfl .plain .inet6
      ⟨fun _ => ⟨[], rfl⟩, fun _ => rfl, fun _ => rfl, fun _ => rfl⟩

end Listener

end JsonTap.Net
