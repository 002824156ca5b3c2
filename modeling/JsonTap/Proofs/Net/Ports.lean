import JsonTap.Proofs.Net.Binding
import Mathlib.Data.List.Forall2

/-!
# The ports of a listener

A listener that binds its hosts tries each of them once, whatever came of the others. The sockets
share its port if that is a number of its own. At port zero the network picks a port for every one
of them anew, so that they share a port only if the network picks one that it has picked before
(`Listener.bindAll_tries_every_host`).
-/

namespace JsonTap.Net

def boundOf (bs : List Binding) : List Binding := bs.filter (·.isOk)

def boundPorts (bs : List Binding) : List Int := (boundOf bs).map (·.port)

theorem boundOf_append (bs bs' : List Binding) : boundOf (bs ++ bs') = boundOf bs ++ boundOf bs' :=
  List.filter_append ..

theorem boundOf_of_isOk {b : Binding} (h : b.isOk = true) : boundOf [b] = [b] := by
  rw [boundOf, List.filter_singleton, h]
  rfl

theorem boundOf_of_not_isOk {b : Binding} (h : b.isOk = false) : boundOf [b] = [] := by
  rw [boundOf, List.filter_singleton, h]
  rfl

/-- Each of some bindings has the port that the network picks after as many others as it says
beside it. -/
def Network.Picks (net : Network) (picks : List Nat) (bs : List Binding) : Prop :=
  List.Forall₂ (fun picked b => b.port = net.freePort picked b.host) picks bs

/-- From the pick `lo` on and before `hi` the network picks no port twice. -/
def Network.PicksApart (net : Network) (lo hi : Nat) : Prop :=
  ∀ picked picked' host host', lo ≤ picked → picked < picked' → picked' < hi →
    net.freePort picked host ≠ net.freePort picked' host'

/-- Ports that are picked in turn differ. -/
theorem Network.picksApart_plain (lo hi : Nat) : Network.plain.PicksApart lo hi := by
  intro picked picked' host host' _ hlt _ h
  have hsame : (40000 + picked : Int) = 40000 + picked' := h
  omega

/-! ## Rising counts -/

/-- Numbers from `lo` on and below `hi`, each greater than those before it. -/
structure Rising (lo hi : Nat) (ns : List Nat) : Prop where
  le : lo ≤ hi
  within : ∀ n ∈ ns, lo ≤ n ∧ n < hi
  sorted : ns.Pairwise (· < ·)

namespace Rising

variable {lo mid hi : Nat} {ns more : List Nat}

theorem nil (h : lo ≤ hi) : Rising lo hi [] := ⟨h, List.forall_mem_nil _, .nil⟩

theorem single (lo : Nat) : Rising lo (lo + 1) [lo] := by
  refine ⟨by omega, ?_, List.pairwise_singleton _ _⟩
  intro n hn
  rw [List.mem_singleton.mp hn]
  omega

/-- Counts that rise to `mid`, and on from there. -/
theorem append (h : Rising lo mid ns) (h' : Rising mid hi more) : Rising lo hi (ns ++ more) := by
  refine ⟨Nat.le_trans h.le h'.le, ?_, List.pairwise_append.mpr ⟨h.sorted, h'.sorted, ?_⟩⟩
  · intro n hn
    rcases List.mem_append.mp hn with hn | hn
    · exact ⟨(h.within n hn).1, Nat.lt_of_lt_of_le (h.within n hn).2 h'.le⟩
    · exact ⟨Nat.le_trans h.le (h'.within n hn).1, (h'.within n hn).2⟩
  · intro n hn m hm
    exact Nat.lt_of_lt_of_le (h.within n hn).2 (h'.within m hm).1

end Rising

/-- Ports that are picked one after the other agree exactly if there is one at most, on a network
that picks none of them twice. -/
theorem Network.Picks.all_eq_iff {net : Network} {lo hi : Nat} {picks : List Nat}
    {bs : List Binding} (h : net.Picks picks bs) (hrising : Rising lo hi picks)
    (hnet : net.PicksApart lo hi) :
    (∀ p ∈ bs.map (·.port), ∀ q ∈ bs.map (·.port), p = q) ↔ (bs.map (·.port)).length ≤ 1 := by
  cases h with
  | nil => simp
  | @cons picked b picks bs hport hrest =>
    cases hrest with
    | nil => simp
    | @cons picked' b' picks bs hport' hrest =>
      have hlt : picked < picked' :=
        (List.pairwise_cons.mp hrising.sorted).1 picked' List.mem_cons_self
      have hfirst : lo ≤ picked := (hrising.within picked (by simp)).1
      have hsecond : picked' < hi := (hrising.within picked' (by simp)).2
      refine iff_of_false ?_ (by simp)
      intro hsame
      have heq : b.port = b'.port := hsame b.port (by simp) b'.port (by simp)
      rw [hport, hport'] at heq
      exact hnet picked picked' b.host b'.host hfirst hlt hsecond heq

/-! ## How many ports are picked -/

namespace System

theorem picked_prepare (s : System) (family : Family) : (s.prepare family).1.picked = s.picked := by
  cases family <;> rfl

/-- Binding picks a port at port zero, unless it is refused at once. -/
theorem picked_bind (net : Network) (s : System) (n : Nat) (host : Text) (port : Int) :
    (s.bind net n host port).1.picked =
      if port = 0 ∧ net.bindRefusal (s.moment + 1) host = none then s.picked + 1 else s.picked := by
  unfold bind
  dsimp only
  rw [moment_note]
  cases net.bindRefusal (s.moment + 1) host with
  | some r => simp [note]
  | none =>
    by_cases hport : port = 0
    · simp only [hport, if_true, and_self]
      split <;> rfl
    · simp only [hport, if_false, false_and]
      split <;> rfl

theorem picked_listen (net : Network) (s : System) (n : Nat) (host : Text) (backlog : Int) :
    (s.listen net n host backlog).1.picked = s.picked := by
  unfold listen
  dsimp only
  split <;> rfl

/-- A port is picked only for binding, and only at port zero. -/
theorem picked_openListening (net : Network) (s : System) (family : Family) (host : Text)
    (port backlog : Int) :
    (s.openListening net family host port backlog).1.picked =
      if port = 0 ∧ net.bindRefusal (s.bindMoment family) host = none then s.picked + 1
      else s.picked := by
  have hbind := picked_bind net (s.prepare family).1 (s.prepare family).2 host port
  rw [moment_prepare, picked_prepare] at hbind
  rw [← hbind]
  unfold openListening
  obtain ⟨s₀, n⟩ := s.prepare family
  dsimp only
  obtain ⟨s₁, r₁⟩ := s₀.bind net n host port
  cases r₁ with
  | error r => rfl
  | ok actual =>
    have hlisten := picked_listen net s₁ n host backlog
    dsimp only
    cases hl : s₁.listen net n host backlog with
    | mk s₂ r₂ =>
      rw [hl] at hlisten
      cases r₂ <;> exact hlisten

end System

namespace Listener

variable {net : Network} {l l' : Listener} {host : Text}

/-- At port zero a socket has the port that is picked for it. -/
theorem bind_picks (hport : l.port = 0) {b : Binding} (hb : l.bind net host = (l', some b)) :
    ∃ picks, Rising l.system.picked l'.system.picked picks ∧ net.Picks picks (boundOf [b]) := by
  cases hresolve : net.resolve (l.system.moment + 1) host with
  | error r =>
    rw [bind_of_unresolved hresolve] at hb
    cases hb
    rw [system_keep, boundOf_of_not_isOk rfl]
    exact ⟨[], .nil (Nat.le_refl _), .nil⟩
  | ok families =>
    cases families with
    | nil =>
      rw [bind_of_nowhere hresolve] at hb
      cases hb
    | cons family others =>
      have hpicked :=
        System.picked_openListening net (l.lookedUp host) family host l.port l.backlog
      rw [bind_of_resolved hresolve] at hb
      dsimp only at hb
      rw [Prod.mk.injEq, Option.some.injEq] at hb
      -- keeping the attempt calls nothing, so that the count of picks is that of the opening
      obtain ⟨rfl, hb⟩ := hb
      rw [system_keep]
      dsimp only
      rcases System.openListening_ends net (l.lookedUp host) family host l.port l.backlog with
        ⟨haccepts, hresult⟩ | ⟨r, -, hresult⟩
      · rw [hresult] at hb
        rw [if_pos ⟨hport, haccepts.binds⟩] at hpicked
        rw [hpicked, ← hb, boundOf_of_isOk rfl]
        refine ⟨[l.system.picked], .single _, .cons ?_ .nil⟩
        exact if_pos hport
      · rw [hresult] at hb
        rw [hpicked, ← hb, boundOf_of_not_isOk rfl]
        refine ⟨[], .nil ?_, .nil⟩
        show l.system.picked ≤ _
        split
        · exact Nat.le_succ _
        · exact Nat.le_refl _

/-- At port zero each socket has a port that is picked for it, one after the other. -/
theorem bindEach_picks (hport : l.port = 0) {hosts : List Text} {bs : List Binding}
    (hb : l.bindEach net hosts = (l', .ok bs)) :
    ∃ picks, Rising l.system.picked l'.system.picked picks ∧ net.Picks picks (boundOf bs) := by
  induction hosts generalizing l bs with
  | nil =>
    cases hb
    exact ⟨[], .nil (Nat.le_refl _), .nil⟩
  | cons host hosts ih =>
    rw [bindEach] at hb
    by_cases hresolve : net.resolve (l.system.moment + 1) host = .ok []
    · rw [bind_of_nowhere hresolve] at hb
      cases hb
    · obtain ⟨-, l₁, b, hb₁, halike, -⟩ := bind_attempt hresolve
      rw [hb₁] at hb
      dsimp only at hb
      cases heach : l₁.bindEach net hosts with
      | mk l₂ r =>
        rw [heach] at hb
        cases r with
        | error e => cases hb
        | ok bs' =>
          cases hb
          obtain ⟨picks, hrising, hpicks⟩ := bind_picks hport hb₁
          obtain ⟨more, hrising', hpicks'⟩ := ih (halike.port.trans hport) heach
          have hbound := boundOf_append [b] bs'
          rw [List.singleton_append] at hbound
          rw [hbound]
          exact ⟨picks ++ more, hrising.append hrising', List.rel_append hpicks hpicks'⟩

/-- **Binding all hosts.** A listener, whatever it has done before, tries each of its hosts in order
and keeps what comes of each attempt, if every name leads to an address or is refused. It fails
exactly if none of these attempts has a socket. Those that have one share the port of the listener
unless that is zero; then the port of each is one that the network picks anew. If the network picks
none of these twice, they share a port exactly if that of the listener is not zero, or there is one
at most. -/
theorem bindAll_tries_every_host (net : Network) (l : Listener)
    (h : ∀ host ∈ l.hosts, net.Finds host) :
    ∃ bs calls, l.Tries (l.bindAll net).1 l.hosts bs calls ∧ bs.map (·.host) = l.hosts ∧
      (l.bindAll net).2 = (if bs.any (·.isOk) then .ok bs
        else .error (.listener (unbound l.port bs))) ∧
      (l.port ≠ 0 → ∀ p ∈ boundPorts bs, p = l.port) ∧
      (l.port = 0 → ∃ picks, Rising l.system.picked (l.bindAll net).1.system.picked picks ∧
        net.Picks picks (boundOf bs)) ∧
      (net.PicksApart l.system.picked (l.bindAll net).1.system.picked →
        ((∀ p ∈ boundPorts bs, ∀ q ∈ boundPorts bs, p = q) ↔
          l.port ≠ 0 ∨ (boundPorts bs).length ≤ 1)) := by
  obtain ⟨l', bs, calls, htries, heach, hall⟩ := bindAll_attempts h
  have hshared : l.port ≠ 0 → ∀ p ∈ boundPorts bs, p = l.port := by
    intro hport p hp
    obtain ⟨b, hb, rfl⟩ := List.mem_map.mp hp
    exact htries.attempts.port_eq hport b (List.mem_of_mem_filter hb)
  have hpicked : l.port = 0 → ∃ picks, Rising l.system.picked l'.system.picked picks ∧
      net.Picks picks (boundOf bs) := fun hport => bindEach_picks hport heach
  rw [hall]
  refine ⟨bs, calls, htries, htries.attempts.hosts_eq, rfl, hshared, hpicked, ?_⟩
  intro hnet
  by_cases hport : l.port = 0
  · obtain ⟨picks, hrising, hpicks⟩ := hpicked hport
    exact (hpicks.all_eq_iff hrising hnet).trans (or_iff_right (not_not_intro hport)).symm
  · refine iff_of_true ?_ (.inl hport)
    intro p hp q hq
    rw [hshared hport p hp, hshared hport q hq]

/-- One of the hosts is bound already; that attempt counts neither for the result nor among its
bindings. At port zero the ports of two hosts are picked one after the other, and differ. -/
theorem bindAll_tries_every_host_bound_before :
    (let l := (create 8888 ["::", "0.0.0.0"] 128).performAll .plain [.bind "::"]
    ∃ bs, (l.bindAll .plain).2 = .ok bs ∧ bs.map (·.host) = ["::", "0.0.0.0"] ∧
      bs.map (·.isOk) = [false, true] ∧ ∀ p ∈ boundPorts bs, p = 8888) ∧
    ∃ bs, ((create 0 usualHosts usualBacklog).bindAll .plain).2 = .ok bs ∧
      (boundPorts bs).length = 2 ∧ ¬ ∀ p ∈ boundPorts bs, ∀ q ∈ boundPorts bs, p = q := by
  constructor
  · intro l
    obtain ⟨bs, calls, htries, hhosts, hresult, hports, -⟩ :=
      bindAll_tries_every_host .plain l fun host _ => Network.resolves_plain.finds host
    have hoks : (l.bindings ++ bs).map (·.isOk) = [true] ++ [false, true] := by
      rw [← htries.kept]
      rfl
    have hok : bs.map (·.isOk) = [false, true] := by
      rw [List.map_append] at hoks
      exact (List.append_inj hoks rfl).2
    have hany : bs.any (·.isOk) = true := by
      have hid : (bs.map (·.isOk)).any id = true := by
        rw [hok]
        rfl
      rw [List.any_map] at hid
      exact hid
    rw [hany, if_pos rfl] at hresult
    exact ⟨bs, hresult, hhosts, hok, hports (by decide)⟩
  · obtain ⟨bs, calls, htries, -, hresult, -, -, hshare⟩ :=
      bindAll_tries_every_host .plain (create 0 usualHosts usualBacklog) fun host _ =>
        Network.resolves_plain.finds host
    obtain rfl : ((create 0 usualHosts usualBacklog).bindAll .plain).1.bindings = bs := htries.kept
    refine ⟨_, hresult, rfl, ?_⟩
    rw [hshare (Network.picksApart_plain _ _)]
    decide

/-- At port zero the wildcard addresses of the two kinds get different ports. -/
theorem port_zero_is_not_shared :
    Network.plain.Resolves ∧ ∃ b b',
      ((create 0 usualHosts usualBacklog).bindAll .plain).2 = .ok [b, b'] ∧
        b.isOk = true ∧ b'.isOk = true ∧ b.port ≠ b'.port :=
  ⟨Network.resolves_plain, _, _, rfl, rfl, rfl, by decide⟩

end Listener

end JsonTap.Net
