import JsonTap.Proofs.Net.Ownership

/-!
# Attempts to bind

What an attempt to bind a host asks of the system, call by call (`Attempt`). The listener makes one
attempt for each of its hosts, in their order, and stops only at a name that leads to no address
without being refused (`Listener.bindEach_ends`). If there is no such name it tries them all
(`Listener.bindAll_attempts`); the sockets that it holds afterwards are those of the attempts.
-/

namespace JsonTap.Net

/-- A name leads to an address, or is refused, at every moment. -/
def Network.Finds (net : Network) (host : Text) : Prop := ∀ moment, net.resolve moment host ≠ .ok []

/-- Every name leads to an address, or is refused. -/
def Network.Resolves (net : Network) : Prop := ∀ moment host, net.resolve moment host ≠ .ok []

theorem Network.Resolves.finds {net : Network} (h : net.Resolves) (host : Text) : net.Finds host :=
  fun moment => h moment host

/-- Where only numeric addresses are known, a name leads to one address or is refused. -/
theorem Network.resolves_plain : Network.plain.Resolves := by
  intro moment host
  show resolveNumeric host ≠ .ok []
  unfold resolveNumeric
  split
  · nofun
  · split <;> nofun

/-- The calls that make a socket of a family and set its options. -/
def makeCalls (n : Nat) : Family → List Call
  | .inet => [.create n .inet, .reuseAddress n]
  | .inet6 => [.create n .inet6, .reuseAddress n, .newerOnly n]

/-- The calls of an attempt to bind a host at a port, and what comes of it. An attempt ends with the
first call that is refused, and a socket that was made by then is closed. -/
inductive Attempt (port backlog : Int) (host : Text) : List Call → Binding → Prop
  | unresolved (e : Text) :
      Attempt port backlog host [.resolve host port true true] ⟨host, port, none, .error e⟩
  | unbound (n : Nat) (family : Family) (e : Text) :
      Attempt port backlog host
        (.resolve host port true true :: makeCalls n family ++ [.bind n host port, .close n])
        ⟨host, port, some family, .error e⟩
  | deaf (n : Nat) (family : Family) (e : Text) :
      Attempt port backlog host
        (.resolve host port true true :: makeCalls n family ++
          [.bind n host port, .listen n backlog, .close n])
        ⟨host, port, some family, .error e⟩
  | listening (n : Nat) (family : Family) {actual : Int} (hactual : port ≠ 0 → actual = port) :
      Attempt port backlog host
        (.resolve host port true true :: makeCalls n family ++
          [.bind n host port, .listen n backlog, .nonBlocking n])
        ⟨host, actual, some family, .ok n⟩

/-- One attempt for each host, in their order: the calls of all of them, and what comes of each. -/
inductive Attempts (port backlog : Int) : List Text → List Call → List Binding → Prop
  | nil : Attempts port backlog [] [] []
  | cons {host : Text} {hosts : List Text} {calls more : List Call} {b : Binding}
      {bs : List Binding} :
      Attempt port backlog host calls b → Attempts port backlog hosts more bs →
      Attempts port backlog (host :: hosts) (calls ++ more) (b :: bs)

section

variable {port backlog : Int} {calls : List Call}

theorem Attempt.host_eq {host : Text} {b : Binding} (h : Attempt port backlog host calls b) :
    b.host = host := by
  cases h <;> rfl

/-- A port of its own is that of the attempt, whatever comes of it. -/
theorem Attempt.port_eq {host : Text} {b : Binding} (h : Attempt port backlog host calls b)
    (hport : port ≠ 0) : b.port = port := by
  cases h with
  | listening n family hactual => exact hactual hport
  | _ => rfl

variable {hosts : List Text} {bs : List Binding}

/-- What comes of the attempts tells the hosts that were tried. -/
theorem Attempts.hosts_eq (h : Attempts port backlog hosts calls bs) : bs.map (·.host) = hosts := by
  induction h with
  | nil => rfl
  | cons hattempt _ ih => rw [List.map_cons, hattempt.host_eq, ih]

theorem Attempts.port_eq (h : Attempts port backlog hosts calls bs) (hport : port ≠ 0) :
    ∀ b ∈ bs, b.port = port := by
  induction h with
  | nil => exact List.forall_mem_nil _
  | cons hattempt _ ih => exact List.forall_mem_cons.mpr ⟨hattempt.port_eq hport, ih⟩

end

def boundSockets (bs : List Binding) : List Nat := bs.filterMap (·.socket?)

/-- There are sockets exactly if some attempt has one. -/
theorem boundSockets_eq_nil_iff {bs : List Binding} :
    boundSockets bs = [] ↔ bs.any (·.isOk) = false := by
  rw [boundSockets, List.filterMap_eq_nil_iff, List.any_eq_false]
  simp [Binding.isOk]

/-! ## Opening a socket -/

namespace System

@[simp] theorem moment_note (s : System) (c : Call) : (s.note c).moment = s.moment + 1 :=
  List.length_append

theorem calls_prepare (s : System) (family : Family) :
    (s.prepare family).1.calls = s.calls ++ makeCalls (s.created + 1) family := by
  cases family <;> simp [prepare, create, note, makeCalls]

theorem prepare_number (s : System) (family : Family) :
    (s.prepare family).2 = s.created + 1 := by
  cases family <;> rfl

/-- Binding is one call, whatever is answered. -/
theorem calls_bind (net : Network) (s : System) (n : Nat) (host : Text) (port : Int) :
    (s.bind net n host port).1.calls = s.calls ++ [.bind n host port] := by
  unfold bind
  dsimp only
  split
  · rfl
  · split <;> split <;> rfl

/-- A port of its own is the port that is bound. -/
theorem bind_actual {net : Network} {s s' : System} {n : Nat} {host : Text} {port actual : Int}
    (h : s.bind net n host port = (s', .ok actual)) (hport : port ≠ 0) : actual = port := by
  unfold bind at h
  dsimp only at h
  split at h
  · cases h
  · simp only [if_neg hport] at h
    split at h
    · cases h
    · cases h
      rfl

theorem calls_listen (net : Network) (s : System) (n : Nat) (host : Text) (backlog : Int) :
    (s.listen net n host backlog).1.calls = s.calls ++ [.listen n backlog] := by
  unfold listen
  dsimp only
  split <;> rfl

/-- Opening a listening socket for a host that was looked up is the rest of an attempt. -/
theorem openListening_attempt (net : Network) (s : System) (family : Family) (host : Text)
    (port backlog : Int) :
    ∃ calls s' b, s'.calls = s.calls ++ calls ∧
      Attempt port backlog host (.resolve host port true true :: calls) b ∧
      ((∃ e, s.openListening net family host port backlog = (s', .error e) ∧
          b = ⟨host, port, some family, .error e.message⟩) ∨
        ∃ n actual, s.openListening net family host port backlog = (s', .ok (n, actual)) ∧
          b = ⟨host, actual, some family, .ok n⟩) := by
  have hprepare := calls_prepare s family
  have hnumber := prepare_number s family
  unfold openListening
  cases hp : s.prepare family with
  | mk s₀ n =>
    rw [hp] at hprepare hnumber
    dsimp only at hprepare hnumber ⊢
    have hbind := calls_bind net s₀ n host port
    cases hb : s₀.bind net n host port with
    | mk s₁ r₁ =>
      rw [hb] at hbind
      cases r₁ with
      | error e =>
        refine ⟨makeCalls n family ++ [.bind n host port, .close n], s₁.close n, _, ?_,
          .unbound n family e.message, .inl ⟨e, rfl, rfl⟩⟩
        -- a socket that is not bound is closed
        show s₁.calls ++ _ = _
        rw [hbind, hprepare, hnumber]
        simp
      | ok actual =>
        have hlisten := calls_listen net s₁ n host backlog
        dsimp only
        cases hl : s₁.listen net n host backlog with
        | mk s₂ r₂ =>
          rw [hl] at hlisten
          cases r₂ with
          | some e =>
            refine ⟨makeCalls n family ++ [.bind n host port, .listen n backlog, .close n],
              s₂.close n, _, ?_, .deaf n family e.message, .inl ⟨e, rfl, rfl⟩⟩
            show s₂.calls ++ _ = _
            rw [hlisten, hbind, hprepare, hnumber]
            simp
          | none =>
            refine ⟨makeCalls n family ++ [.bind n host port, .listen n backlog, .nonBlocking n],
              s₂.note (.nonBlocking n), _, ?_, .listening n family (bind_actual hb),
              .inr ⟨n, actual, rfl, rfl⟩⟩
            show s₂.calls ++ _ = _
            rw [hlisten, hbind, hprepare, hnumber]
            simp

end System

/-! ## Binding hosts -/

namespace Listener

/-- Two listeners have the same settings, so that they bind the same hosts in the same way. -/
structure SetAlike (l l' : Listener) : Prop where
  port : l'.port = l.port
  hosts : l'.hosts = l.hosts
  backlog : l'.backlog = l.backlog

theorem SetAlike.refl (l : Listener) : l.SetAlike l := ⟨rfl, rfl, rfl⟩

theorem SetAlike.trans {l l' l'' : Listener} (h : l.SetAlike l') (h' : l'.SetAlike l'') :
    l.SetAlike l'' :=
  ⟨h'.port.trans h.port, h'.hosts.trans h.hosts, h'.backlog.trans h.backlog⟩

theorem SetAlike.keep {l l' : Listener} (h : l.SetAlike l') (b : Binding) :
    l.SetAlike (l'.keep b) := by
  unfold Listener.keep
  cases b.outcome <;> exact ⟨h.port, h.hosts, h.backlog⟩

/-- What a listener keeps of an attempt that began with a call, and of the calls after it. -/
theorem keep_attempt (l : Listener) (c : Call) {s : System} {calls : List Call}
    (hcalls : s.calls = (l.call c).system.calls ++ calls) (b : Binding) :
    l.SetAlike (keep { l.call c with system := s } b) ∧
      (keep { l.call c with system := s } b).bindings = l.bindings ++ [b] ∧
      (keep { l.call c with system := s } b).system.calls = l.system.calls ++ c :: calls := by
  have hcall : l.SetAlike { l.call c with system := s } := ⟨rfl, rfl, rfl⟩
  refine ⟨hcall.keep b, bindings_keep _ _, ?_⟩
  rw [system_keep]
  show s.calls = _
  rw [hcalls]
  exact List.append_assoc _ _ _

/-- From one listener to the other some hosts have been tried: there was one attempt for each of
them, in their order, and all of them are kept. -/
structure Tries (l l' : Listener) (hosts : List Text) (bs : List Binding) (calls : List Call) :
    Prop where
  alike : l.SetAlike l'
  kept : l'.bindings = l.bindings ++ bs
  asked : l'.system.calls = l.system.calls ++ calls
  attempts : Attempts l.port l.backlog hosts calls bs

theorem Tries.nil (l : Listener) : l.Tries l [] [] [] :=
  ⟨.refl l, (List.append_nil _).symm, (List.append_nil _).symm, .nil⟩

/-- An attempt, and the attempts at the other hosts after it. -/
theorem Tries.cons {l₀ l₁ l₂ : Listener} {host : Text} {hosts : List Text} {b : Binding}
    {bs : List Binding} {calls more : List Call} (halike : l₀.SetAlike l₁)
    (hkept : l₁.bindings = l₀.bindings ++ [b]) (hcalls : l₁.system.calls = l₀.system.calls ++ calls)
    (hattempt : Attempt l₀.port l₀.backlog host calls b) (h : l₁.Tries l₂ hosts bs more) :
    l₀.Tries l₂ (host :: hosts) (b :: bs) (calls ++ more) where
  alike := halike.trans h.alike
  kept := by rw [h.kept, hkept, List.append_assoc, List.singleton_append]
  asked := by rw [h.asked, hcalls, List.append_assoc]
  attempts := by
    have hmore := h.attempts
    rw [halike.port, halike.backlog] at hmore
    exact .cons hattempt hmore

variable {net : Network} {l : Listener} {host : Text}

/-- A name that leads to no address is looked up, and that is all. -/
theorem bind_of_nowhere (h : net.resolve (l.system.moment + 1) host = .ok []) :
    l.bind net host = (l.call (.resolve host l.port true true), none) := by
  have hmoment : (l.call (.resolve host l.port true true)).system.moment = l.system.moment + 1 :=
    System.moment_note _ _
  rw [bind]
  dsimp only
  rw [hmoment, h]

/-- Binding a host is one attempt, which is kept, unless its name leads to no address then. -/
theorem bind_attempt (h : net.resolve (l.system.moment + 1) host ≠ .ok []) :
    ∃ calls l' b, l.bind net host = (l', some b) ∧ l.SetAlike l' ∧
      l'.bindings = l.bindings ++ [b] ∧ l'.system.calls = l.system.calls ++ calls ∧
      Attempt l.port l.backlog host calls b := by
  have hmoment : (l.call (.resolve host l.port true true)).system.moment = l.system.moment + 1 :=
    System.moment_note _ _
  unfold bind
  dsimp only
  rw [hmoment]
  cases hr : net.resolve (l.system.moment + 1) host with
  | error e =>
    obtain ⟨halike, hkept, hcalls⟩ :=
      keep_attempt l (.resolve host l.port true true) (List.append_nil _).symm
        ⟨host, l.port, none, .error e.message⟩
    exact ⟨_, _, _, rfl, halike, hkept, hcalls, .unresolved e.message⟩
  | ok families =>
    cases families with
    | nil => exact absurd hr h
    | cons family others =>
      simp only [port_call, backlog_call]
      obtain ⟨calls, s, b, hcalls, hattempt, hopen⟩ :=
        System.openListening_attempt net (l.call (.resolve host l.port true true)).system family
          host l.port l.backlog
      obtain ⟨halike, hkept, hcalls⟩ := keep_attempt l _ hcalls b
      rcases hopen with ⟨e, hopen, rfl⟩ | ⟨n, actual, hopen, rfl⟩
      all_goals
        rw [hopen]
        exact ⟨_, _, _, rfl, halike, hkept, hcalls, hattempt⟩

/-- Binding hosts tries them all, or it tries those before one whose name leads to no address, and
ends when that one is looked up. -/
theorem bindEach_ends (net : Network) (l : Listener) (hosts : List Text) :
    (∃ l' bs calls, l.Tries l' hosts bs calls ∧ l.bindEach net hosts = (l', .ok bs)) ∨
      ∃ before host after m bs calls, hosts = before ++ host :: after ∧
        l.Tries m before bs calls ∧ net.resolve (m.system.moment + 1) host = .ok [] ∧
        l.bindEach net hosts = (m.call (.resolve host m.port true true), .error .noAddress) := by
  induction hosts generalizing l with
  | nil => exact .inl ⟨l, [], [], .nil l, rfl⟩
  | cons host hosts ih =>
    rw [bindEach]
    by_cases hresolve : net.resolve (l.system.moment + 1) host = .ok []
    · refine .inr ⟨[], host, hosts, l, [], [], rfl, .nil l, hresolve, ?_⟩
      rw [bind_of_nowhere hresolve]
    · obtain ⟨calls, l₁, b, hb, halike, hkept, hcalls, hattempt⟩ := bind_attempt hresolve
      rw [hb]
      dsimp only
      obtain ⟨l₂, bs, more, htries, heach⟩ |
        ⟨before, nowhere, after, m, bs, more, rfl, htries, hnowhere, heach⟩ := ih l₁
      all_goals
        have hall := Tries.cons halike hkept hcalls hattempt htries
        rw [heach]
      · exact .inl ⟨l₂, b :: bs, _, hall, rfl⟩
      · exact .inr ⟨host :: before, nowhere, after, m, b :: bs, _, rfl, hall, hnowhere, rfl⟩

/-- A listener tries all of its hosts if each of their names leads to an address or is refused. It
fails if no attempt has a socket; the attempts before do not count. -/
theorem bindAll_attempts (h : ∀ host ∈ l.hosts, net.Finds host) :
    ∃ l' bs calls, l.Tries l' l.hosts bs calls ∧ l.bindEach net l.hosts = (l', .ok bs) ∧
      l.bindAll net = (l', if bs.any (·.isOk) then .ok bs
        else .error (.listener (unbound l.port bs))) := by
  obtain ⟨l', bs, calls, htries, heach⟩ |
    ⟨before, host, after, m, -, -, hhosts, -, hnowhere, -⟩ := bindEach_ends net l l.hosts
  · refine ⟨l', bs, calls, htries, heach, ?_⟩
    unfold bindAll
    rw [heach]
    dsimp only
    rw [htries.alike.port]
    split <;> rfl
  · have hmem : host ∈ l.hosts := by simp [hhosts]
    exact absurd hnowhere (h host hmem _)

end Listener

end JsonTap.Net
