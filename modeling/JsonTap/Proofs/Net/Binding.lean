import JsonTap.Proofs.Net.Attempts

/-!
# What comes of binding a host

An attempt to bind a host is refused by the first call that fails (`Listener.Refuses`), and has a
socket if none does (`Listener.Accepts`). Either way it is kept, and a socket that was made in vain
is closed. Only a host whose name leads to no address at all, without a refusal, gets no binding
(`Listener.bind_ends`).

The network may answer something else at each moment, so that a condition on a call is about the
moment at which it is made.
-/

namespace JsonTap.Net

/-! ## What a call answers -/

namespace System

/-- The port that a socket gets if it is bound to a host's port. -/
def portFor (net : Network) (s : System) (host : Text) (port : Int) : Int :=
  if port = 0 then net.freePort s.picked host else port

/-- What binding answers: a refusal, or that the address is in use, or the port. -/
theorem bind_snd (net : Network) (s : System) (n : Nat) (host : Text) (port : Int) :
    (s.bind net n host port).2 =
      match net.bindRefusal (s.moment + 1) host with
      | some r => .error r
      | none =>
        if s.holds host (s.portFor net host port) ||
            net.isBusy (s.moment + 1) host (s.portFor net host port) then .error .inUse
        else .ok (s.portFor net host port) := by
  unfold bind portFor
  dsimp only
  rw [moment_note]
  cases net.bindRefusal (s.moment + 1) host with
  | some r => rfl
  | none =>
    by_cases hport : port = 0 <;>
      simp [hport, holds, moment, note, apply_ite Prod.snd]

theorem listen_snd (net : Network) (s : System) (n : Nat) (host : Text) (backlog : Int) :
    (s.listen net n host backlog).2 = net.listenRefusal (s.moment + 1) host := by
  unfold listen
  dsimp only
  rw [moment_note]
  cases net.listenRefusal (s.moment + 1) host <;> rfl

/-- The moment at which a new socket of a family is bound. -/
def bindMoment (s : System) (family : Family) : Nat :=
  s.moment + (makeCalls (s.created + 1) family).length + 1

theorem moment_prepare (s : System) (family : Family) :
    (s.prepare family).1.moment + 1 = s.bindMoment family := by
  rw [moment, calls_prepare, List.length_append]
  rfl

theorem portFor_prepare (net : Network) (s : System) (family : Family) (host : Text) (port : Int) :
    (s.prepare family).1.portFor net host port = s.portFor net host port := by
  cases family <;> rfl

/-- A socket that is not bound holds no address. -/
theorem holds_prepare (s : System) (family : Family) (host : Text) (port : Int) :
    (s.prepare family).1.holds host port = s.holds host port := by
  obtain ⟨s₀, hp, -, hopened, -⟩ := prepare_eq s family
  rw [hp, holds, holds, hopened, List.any_append]
  simp

/-- What binding a new socket answers. -/
theorem bind_prepare_snd (net : Network) (s : System) (family : Family) (n : Nat) (host : Text)
    (port : Int) :
    ((s.prepare family).1.bind net n host port).2 =
      match net.bindRefusal (s.bindMoment family) host with
      | some r => .error r
      | none =>
        if s.holds host (s.portFor net host port) ||
            net.isBusy (s.bindMoment family) host (s.portFor net host port) then .error .inUse
        else .ok (s.portFor net host port) := by
  rw [bind_snd, moment_prepare, portFor_prepare, holds_prepare]

/-- A socket that cannot be bound is not opened, for the same reason. -/
theorem openListening_of_bind_error {net : Network} {s : System} {family : Family} {host : Text}
    {port : Int} {r : Refusal}
    (h : ((s.prepare family).1.bind net (s.prepare family).2 host port).2 = .error r)
    (backlog : Int) : (s.openListening net family host port backlog).2 = .error r := by
  unfold openListening
  cases hp : s.prepare family with
  | mk s₀ n =>
    rw [hp] at h
    dsimp only at h ⊢
    cases hb : s₀.bind net n host port with
    | mk s₁ r₁ =>
      rw [hb] at h
      cases h
      rfl

/-- Whether a socket that is bound is opened depends on whether it can listen. -/
theorem openListening_of_bind_ok {net : Network} {s : System} {family : Family} {host : Text}
    {port actual : Int}
    (h : ((s.prepare family).1.bind net (s.prepare family).2 host port).2 = .ok actual)
    (backlog : Int) :
    (s.openListening net family host port backlog).2 =
      match net.listenRefusal (s.bindMoment family + 1) host with
      | some r => .error r
      | none => .ok (s.created + 1, actual) := by
  have hnumber := prepare_number s family
  have hmoment := moment_prepare s family
  unfold openListening
  cases hp : s.prepare family with
  | mk s₀ n =>
    rw [hp] at h hnumber hmoment
    dsimp only at h hnumber hmoment ⊢
    have hcalls := calls_bind net s₀ n host port
    cases hb : s₀.bind net n host port with
    | mk s₁ r₁ =>
      rw [hb] at h hcalls
      dsimp only at hcalls
      cases h
      -- the network is asked about listening at the moment after the bind
      have hlisten := listen_snd net s₁ n host backlog
      have hmoment₁ : s₁.moment = s.bindMoment family := by
        rw [moment, hcalls, List.length_append]
        exact hmoment
      rw [hmoment₁] at hlisten
      dsimp only
      cases hl : s₁.listen net n host backlog with
      | mk s₂ r₂ =>
        rw [hl] at hlisten
        dsimp only at hlisten
        rw [← hlisten, hnumber]
        cases r₂ <;> rfl

/-- Opening a listening socket is refused, by the first call that fails. -/
inductive Refuses (net : Network) (s : System) (family : Family) (host : Text) (port : Int) :
    Refusal → Prop
  | unbound {r : Refusal} :
      net.bindRefusal (s.bindMoment family) host = some r → Refuses net s family host port r
  | taken :
      net.bindRefusal (s.bindMoment family) host = none →
      (s.holds host (s.portFor net host port) = true ∨
        net.isBusy (s.bindMoment family) host (s.portFor net host port) = true) →
      Refuses net s family host port .inUse
  | deaf {r : Refusal} :
      net.bindRefusal (s.bindMoment family) host = none →
      s.holds host (s.portFor net host port) = false →
      net.isBusy (s.bindMoment family) host (s.portFor net host port) = false →
      net.listenRefusal (s.bindMoment family + 1) host = some r →
      Refuses net s family host port r

/-- Every call that opens a listening socket succeeds. -/
structure Accepts (net : Network) (s : System) (family : Family) (host : Text) (port : Int) :
    Prop where
  binds : net.bindRefusal (s.bindMoment family) host = none
  free : s.holds host (s.portFor net host port) = false
  idle : net.isBusy (s.bindMoment family) host (s.portFor net host port) = false
  listens : net.listenRefusal (s.bindMoment family + 1) host = none

/-- Opening a listening socket succeeds if every call does, and otherwise ends as the first call
that fails. -/
theorem openListening_ends (net : Network) (s : System) (family : Family) (host : Text)
    (port backlog : Int) :
    s.Accepts net family host port ∧
        (s.openListening net family host port backlog).2 =
          .ok (s.created + 1, s.portFor net host port) ∨
      ∃ r, s.Refuses net family host port r ∧
        (s.openListening net family host port backlog).2 = .error r := by
  have hbind := bind_prepare_snd net s family (s.prepare family).2 host port
  cases hrefusal : net.bindRefusal (s.bindMoment family) host with
  | some r =>
    rw [hrefusal] at hbind
    exact .inr ⟨r, .unbound hrefusal, openListening_of_bind_error hbind backlog⟩
  | none =>
    rw [hrefusal] at hbind
    dsimp only at hbind
    split at hbind
    · next htaken =>
        -- the system itself refuses a port that is in use
        rw [Bool.or_eq_true] at htaken
        exact .inr ⟨_, .taken hrefusal htaken, openListening_of_bind_error hbind backlog⟩
    · next hfree =>
        rw [Bool.not_eq_true, Bool.or_eq_false_iff] at hfree
        obtain ⟨hfree, hidle⟩ := hfree
        have hopen := openListening_of_bind_ok hbind backlog
        cases hlisten : net.listenRefusal (s.bindMoment family + 1) host with
        | some r =>
          rw [hlisten] at hopen
          exact .inr ⟨r, .deaf hrefusal hfree hidle hlisten, hopen⟩
        | none =>
          rw [hlisten] at hopen
          exact .inl ⟨⟨hrefusal, hfree, hidle, hlisten⟩, hopen⟩

theorem Accepts.not_refuses {net : Network} {s : System} {family : Family} {host : Text}
    {port : Int} (h : s.Accepts net family host port) (r : Refusal) :
    ¬ s.Refuses net family host port r := by
  intro hr
  cases hr with
  | unbound hbind =>
    rw [h.binds] at hbind
    cases hbind
  | taken _ htaken =>
    rw [h.free, h.idle] at htaken
    exact htaken.elim nofun nofun
  | deaf _ _ _ hlisten =>
    rw [h.listens] at hlisten
    cases hlisten

end System

/-! ## What binding a host ends with -/

namespace Listener

variable {net : Network} {l : Listener} {host : Text}

/-- The system when a host has been looked up. -/
def lookedUp (l : Listener) (host : Text) : System :=
  l.system.note (.resolve host l.port true true)

/-- Binding a host is refused, by the first call that fails. The family is that of the address, if
there is one. -/
inductive Refuses (net : Network) (l : Listener) (host : Text) : Option Family → Refusal → Prop
  | unresolved {r : Refusal} :
      net.resolve (l.system.moment + 1) host = .error r → Refuses net l host none r
  | refused {family : Family} {others : List Family} {r : Refusal} :
      net.resolve (l.system.moment + 1) host = .ok (family :: others) →
      (l.lookedUp host).Refuses net family host l.port r → Refuses net l host (some family) r

/-- A host's name leads to an address, and every call for it succeeds. -/
structure Accepts (net : Network) (l : Listener) (host : Text) (family : Family) : Prop where
  resolves : ∃ others, net.resolve (l.system.moment + 1) host = .ok (family :: others)
  opens : (l.lookedUp host).Accepts net family host l.port

theorem Accepts.not_refuses {family : Family} (h : l.Accepts net host family)
    (family' : Option Family) (r : Refusal) : ¬ l.Refuses net host family' r := by
  obtain ⟨others, hresolve⟩ := h.resolves
  intro hr
  cases hr with
  | unresolved herror =>
    rw [hresolve] at herror
    cases herror
  | refused hresolve' hrefuses =>
    rw [hresolve] at hresolve'
    cases hresolve'
    exact h.opens.not_refuses r hrefuses

theorem Accepts.resolve_ne {family : Family} (h : l.Accepts net host family) :
    net.resolve (l.system.moment + 1) host ≠ .ok [] := by
  obtain ⟨others, hresolve⟩ := h.resolves
  rw [hresolve]
  nofun

theorem Refuses.resolve_ne {family : Option Family} {r : Refusal}
    (h : l.Refuses net host family r) : net.resolve (l.system.moment + 1) host ≠ .ok [] := by
  cases h with
  | unresolved hresolve =>
    rw [hresolve]
    nofun
  | refused hresolve _ =>
    rw [hresolve]
    nofun

/-- The socket of a binding is open besides those that were open before. It listens at the host and
the port that the binding tells. -/
def Opens (l l' : Listener) (host : Text) (b : Binding) : Prop :=
  ∃ family n, b = ⟨host, b.port, some family, .ok n⟩ ∧ b.port ≠ 0 ∧
    l'.system.opened = l.system.opened ++ [⟨n, family, some (host, b.port), true⟩]

/-- The sockets are as before: what was made since is closed. -/
def OpensNothing (l l' : Listener) : Prop :=
  l'.system.opened = l.system.opened ∧ unclosed l'.system.calls = unclosed l.system.calls

theorem Opens.isOk {l' : Listener} {b : Binding} (h : l.Opens l' host b) : b.isOk = true := by
  obtain ⟨family, n, hb, -⟩ := h
  rw [hb]
  rfl

/-- A name that is refused is kept as a refusal, and no socket is made. -/
theorem bind_of_unresolved {r : Refusal}
    (h : net.resolve (l.system.moment + 1) host = .error r) :
    l.bind net host =
      ((l.call (.resolve host l.port true true)).keep ⟨host, l.port, none, .error r.message⟩,
        some ⟨host, l.port, none, .error r.message⟩) := by
  have hmoment : (l.call (.resolve host l.port true true)).system.moment = l.system.moment + 1 :=
    System.moment_note _ _
  rw [bind]
  dsimp only
  rw [hmoment, h]
  rfl

/-- Of the addresses that a name leads to, the first one is opened. -/
theorem bind_of_resolved {family : Family} {others : List Family}
    (h : net.resolve (l.system.moment + 1) host = .ok (family :: others)) :
    l.bind net host =
      let b : Binding :=
        match ((l.lookedUp host).openListening net family host l.port l.backlog).2 with
        | .error r => ⟨host, l.port, some family, .error r.message⟩
        | .ok (n, port) => ⟨host, port, some family, .ok n⟩
      (keep { l with system :=
        ((l.lookedUp host).openListening net family host l.port l.backlog).1 } b, some b) := by
  have hmoment : (l.call (.resolve host l.port true true)).system.moment = l.system.moment + 1 :=
    System.moment_note _ _
  rw [bind]
  dsimp only
  rw [hmoment, h]
  dsimp only
  rcases hopen : (l.lookedUp host).openListening net family host l.port l.backlog with ⟨s, r⟩
  have hopen' : (l.call (.resolve host l.port true true)).system.openListening net family host
    (l.call (.resolve host l.port true true)).port
    (l.call (.resolve host l.port true true)).backlog = (s, r) := hopen
  rw [hopen']
  cases r <;> rfl

/-- Between sound listeners with the same sockets nothing was opened. -/
theorem Sound.opensNothing (h : l.Sound) {l' : Listener} (h' : l'.Sound)
    (hopened : l'.system.opened = l.system.opened) : l.OpensNothing l' := by
  refine ⟨hopened, ?_⟩
  rw [← h'.system.traced, ← h.system.traced, System.openNumbers, hopened]
  rfl

/-- The three ways in which binding a host ends. -/
theorem Sound.bind_outcome (h : l.Sound) (net : Network) (host : Text) :
    (net.resolve (l.system.moment + 1) host = .ok [] ∧ (l.bind net host).2 = none ∧
      l.OpensNothing (l.bind net host).1) ∨
    (∃ family b, l.Accepts net host family ∧ (l.bind net host).2 = some b ∧
      l.Opens (l.bind net host).1 host b) ∨
    ∃ family r, l.Refuses net host family r ∧
      (l.bind net host).2 = some ⟨host, l.port, family, .error r.message⟩ ∧
      l.OpensNothing (l.bind net host).1 := by
  have hsound : (l.bind net host).1.Sound := (bind_cases h rfl).1
  have hlooked : (l.lookedUp host).Sound := h.system.note fun _ => rfl
  cases hresolve : net.resolve (l.system.moment + 1) host with
  | error r =>
    refine .inr (.inr ⟨none, r, .unresolved hresolve, ?_, h.opensNothing hsound ?_⟩)
    · rw [bind_of_unresolved hresolve]
    · rw [bind_of_unresolved hresolve, system_keep]
      rfl
  | ok families =>
    cases families with
    | nil =>
      refine .inl ⟨rfl, ?_, h.opensNothing hsound ?_⟩
      · rw [bind_of_nowhere hresolve]
      · rw [bind_of_nowhere hresolve]
        rfl
    | cons family others =>
      have hbind := bind_of_resolved hresolve
      have hends := System.openListening_ends net (l.lookedUp host) family host l.port l.backlog
      cases hopen : (l.lookedUp host).openListening net family host l.port l.backlog with
      | mk s result =>
        -- what the sockets are afterwards, beside what the calls answered
        obtain ⟨-, -, hcases⟩ := System.openListening_cases hlooked hopen
        rw [hopen] at hbind hends
        rcases hends with ⟨haccepts, hresult⟩ | ⟨r, hrefuses, hresult⟩
        · cases hresult
          obtain ⟨e, hr, -⟩ | ⟨n, actual, hr, hactual, hopened⟩ := hcases
          · cases hr
          · cases hr
            refine .inr (.inl ⟨family, _, ⟨⟨others, hresolve⟩, haccepts⟩, by rw [hbind], family, _,
              rfl, hactual, ?_⟩)
            rw [hbind]
            dsimp only
            rw [system_keep]
            exact hopened
        · cases hresult
          obtain ⟨e, hr, hopened⟩ | ⟨n, actual, hr, -⟩ := hcases
          · refine .inr (.inr ⟨some family, r, .refused hresolve hrefuses, by rw [hbind],
              h.opensNothing hsound ?_⟩)
            rw [hbind]
            dsimp only
            rw [system_keep]
            exact hopened
          · cases hr

/-- After any requests, on any network: binding a host gives a binding, and keeps it behind those
that were there, unless the host's name leads to no address and is not refused either; then nothing
is kept, and nothing is opened. The binding has a socket exactly if the name leads to an address and
every later call succeeds. The socket is then open and listens at the port of the binding. Otherwise
the binding has the words of the call that failed, and no socket is left open. -/
theorem bind_ends (past net : Network) (port : Int) (hosts : List Text) (backlog : Int)
    (rs : List Request) (host : Text) :
    let l := (create port hosts backlog).performAll past rs
    let l' := (l.bind net host).1
    let r := (l.bind net host).2
    (r = none ↔ net.resolve (l.system.moment + 1) host = .ok []) ∧
      l'.bindings = l.bindings ++ r.toList ∧ (r = none → l.OpensNothing l') ∧
      ∀ b, r = some b →
        (b.isOk = true ↔ ∃ family, l.Accepts net host family) ∧
        (b.isOk = true → l.Opens l' host b) ∧
        (b.isOk = false → l.OpensNothing l' ∧ ∃ family refusal,
          l.Refuses net host family refusal ∧
            b = ⟨host, l.port, family, .error refusal.message⟩) := by
  intro l l' r
  have hl : l.Sound := (sound_create port hosts backlog).performAll past rs
  have hkept : l'.bindings = l.bindings ++ r.toList := (bind_cases hl rfl).2.2
  have kept : ∀ {b : Binding}, (l.bind net host).2 = some b → r ≠ none := by
    intro b hr hnone
    cases hr.symm.trans hnone
  -- the host leads nowhere, is listened at, or is refused
  rcases hl.bind_outcome net host with
    ⟨hnowhere, hr, hnothing⟩ | ⟨family, b, haccepts, hr, hopens⟩ |
      ⟨family, refusal, hrefuses, hr, hnothing⟩
  · refine ⟨iff_of_true hr hnowhere, hkept, fun _ => hnothing, ?_⟩
    intro b hb
    cases hr.symm.trans hb
  · refine ⟨iff_of_false (kept hr) haccepts.resolve_ne, hkept,
      fun hnone => absurd hnone (kept hr), ?_⟩
    intro b' hb
    obtain rfl := Option.some.inj (hr.symm.trans hb)
    refine ⟨iff_of_true hopens.isOk ⟨family, haccepts⟩, fun _ => hopens, ?_⟩
    intro hfailed
    rw [hopens.isOk] at hfailed
    cases hfailed
  · refine ⟨iff_of_false (kept hr) hrefuses.resolve_ne, hkept,
      fun hnone => absurd hnone (kept hr), ?_⟩
    intro b hb
    obtain rfl := Option.some.inj (hr.symm.trans hb)
    refine ⟨iff_of_false nofun ?_, nofun, fun _ => ⟨hnothing, family, refusal, hrefuses, rfl⟩⟩
    rintro ⟨family', haccepts⟩
    exact haccepts.not_refuses family refusal hrefuses

/-- A listener that has bound a host cannot bind it again, and can bind another one. -/
theorem bind_ends_bound_once :
    let l := (create 8888 ["::"] 128).performAll .plain [.bind "::"]
    (∃ b, (l.bind .plain "::").2 = some b ∧ b.refusal? = some Refusal.inUse.message ∧
      l.OpensNothing (l.bind .plain "::").1) ∧
      ∃ b, (l.bind .plain "0.0.0.0").2 = some b ∧ b.port = 8888 ∧
        l.Opens (l.bind .plain "0.0.0.0").1 "0.0.0.0" b := by
  intro l
  have hagain : (l.bind .plain "::").2 =
      some ⟨"::", 8888, some .inet6, .error Refusal.inUse.message⟩ := by rfl
  have hother : (l.bind .plain "0.0.0.0").2 = some ⟨"0.0.0.0", 8888, some .inet, .ok 2⟩ := by rfl
  obtain ⟨-, -, -, hfirst⟩ := bind_ends .plain .plain 8888 ["::"] 128 [.bind "::"] "::"
  obtain ⟨-, -, -, hsecond⟩ := bind_ends .plain .plain 8888 ["::"] 128 [.bind "::"] "0.0.0.0"
  obtain ⟨-, -, hfailed⟩ := hfirst _ hagain
  obtain ⟨-, hopens, -⟩ := hsecond _ hother
  exact ⟨⟨_, hagain, rfl, (hfailed rfl).1⟩, _, hother, rfl, hopens rfl⟩

/-- A network on which every name leads nowhere, and is not refused. -/
def nowhere : Network := { Network.plain with resolve := fun _ _ => .ok [] }

/-- A host whose name leads nowhere gets no binding: nothing is kept and nothing is logged. -/
theorem name_without_address_has_no_binding :
    let l := create 8888 ["::"] 128
    nowhere.resolve (l.system.moment + 1) "::" = .ok [] ∧ (l.bind nowhere "::").2 = none ∧
      (l.bind nowhere "::").1.bindings = [] ∧ (l.bind nowhere "::").1.records = [] ∧
      (l.perform nowhere (.bind "::")).2 = .failed .noAddress :=
  ⟨rfl, rfl, rfl, rfl, rfl⟩

end Listener

end JsonTap.Net
