import JsonTap.Net.System
import Mathlib.Data.List.Induction
import Mathlib.Data.List.Nodup

/-!
# Open sockets

The calls tell which sockets are open: those that were made and not closed since (`unclosed`). A
system is sound if its own list of open sockets says the same, names no socket twice, and leaves the
next number free (`System.Sound`). Every operation keeps this up. `openListening_cases` is all that
opening a listening socket can do: there is one socket more, bound and listening, or there are the
sockets that were there before.
-/

namespace JsonTap.Net

/-! ## What the calls tell -/

/-- The open sockets after one more call. -/
def Call.track (ns : List Nat) : Call → List Nat
  | .create n _ => ns ++ [n]
  | .close n => ns.filter (· ≠ n)
  | _ => ns

def unclosed (calls : List Call) : List Nat := calls.foldl Call.track []

/-- One more call opens or closes at most one socket. -/
theorem unclosed_concat (calls : List Call) (c : Call) :
    unclosed (calls ++ [c]) = c.track (unclosed calls) := by
  rw [unclosed, List.foldl_append]
  rfl

namespace System

variable {s s' s'' : System}

/-! ## Quiet stretches -/

/-- From one state to the other there are only further calls, none of them of the HTTP server. -/
def Quiet (s s' : System) : Prop :=
  ∃ more, s'.calls = s.calls ++ more ∧ ∀ ns, Call.serve ns ∉ more

theorem Quiet.refl (s : System) : s.Quiet s := ⟨[], by simp, fun _ => List.not_mem_nil⟩

/-- Quiet stretches put together are one. -/
theorem Quiet.trans (h : s.Quiet s') (h' : s'.Quiet s'') : s.Quiet s'' := by
  obtain ⟨more, hcalls, hmore⟩ := h
  obtain ⟨more', hcalls', hmore'⟩ := h'
  refine ⟨more ++ more', by rw [hcalls', hcalls, List.append_assoc], ?_⟩
  intro ns hns
  rcases List.mem_append.mp hns with hns | hns
  · exact hmore ns hns
  · exact hmore' ns hns

/-- A call of another kind than that of the HTTP server is quiet. -/
theorem quiet_note {c : Call} (hc : ∀ ns, c ≠ .serve ns) : s.Quiet (s.note c) := by
  refine ⟨[c], rfl, ?_⟩
  intro ns hns
  exact hc ns (List.mem_singleton.mp hns).symm

theorem quiet_create (s : System) (family : Family) : s.Quiet (s.create family).1 :=
  ⟨[.create (s.created + 1) family], rfl, by simp⟩

theorem quiet_close (s : System) (n : Nat) : s.Quiet (s.close n) := ⟨[.close n], rfl, by simp⟩

/-- What the HTTP server was called with up to the end of a quiet stretch it was called with
before. -/
theorem Quiet.served (h : s.Quiet s') {before : List Call} {ns : List Nat}
    (hp : before ++ [.serve ns] <+: s'.calls) : before ++ [.serve ns] <+: s.calls := by
  obtain ⟨more, hcalls, hmore⟩ := h
  rw [hcalls] at hp
  rcases List.prefix_or_prefix_of_prefix hp (List.prefix_append s.calls more) with h | ⟨t, ht⟩
  · exact h
  · rw [← ht] at hp ⊢
    obtain rfl | ⟨t', c, rfl⟩ := List.eq_nil_or_concat' t
    · simp
    · -- the last call would be one of the stretch
      rw [← List.append_assoc] at ht
      have hc : c = .serve ns := List.singleton_inj.mp (List.append_inj_right' ht rfl)
      have hmem : c ∈ more := by
        apply ((List.prefix_append_right_inj _).mp hp).subset
        simp
      exact absurd (hc ▸ hmem) (hmore ns)

/-! ## Sound systems -/

/-- The open sockets are those that the calls tell, each once, and their numbers are in use. -/
structure Sound (s : System) : Prop where
  traced : s.openNumbers = unclosed s.calls
  made : ∀ n ∈ s.openNumbers, n ≤ s.created
  nodup : s.openNumbers.Nodup

theorem sound_initial : initial.Sound := ⟨rfl, nofun, List.nodup_nil⟩

/-- A call that neither makes nor closes a socket. -/
theorem Sound.note (h : s.Sound) {c : Call} (hc : ∀ ns, c.track ns = ns) : (s.note c).Sound := by
  refine ⟨?_, h.made, h.nodup⟩
  show s.openNumbers = unclosed (s.calls ++ [c])
  rw [unclosed_concat, hc, h.traced]

/-- A socket that is made has a number of its own. -/
theorem Sound.create (h : s.Sound) (family : Family) : (s.create family).1.Sound := by
  have hnumbers : (s.create family).1.openNumbers = s.openNumbers ++ [s.created + 1] := by
    simp [System.create, openNumbers, System.note]
  refine ⟨?_, ?_, ?_⟩
  · show _ = unclosed (s.calls ++ [.create (s.created + 1) family])
    rw [hnumbers, unclosed_concat, h.traced]
    rfl
  · rw [hnumbers]
    intro n hn
    show n ≤ s.created + 1
    rcases List.mem_append.mp hn with hn | hn
    · exact Nat.le_succ_of_le (h.made n hn)
    · exact Nat.le_of_eq (List.mem_singleton.mp hn)
  · rw [hnumbers, List.nodup_append]
    refine ⟨h.nodup, List.nodup_singleton _, ?_⟩
    intro n hn m hm
    have hle := h.made n hn
    rw [List.mem_singleton.mp hm]
    omega

/-- A socket that is closed is gone, from the calls as from the list. -/
theorem Sound.close (h : s.Sound) (n : Nat) : (s.close n).Sound := by
  have hnumbers : (s.close n).openNumbers = s.openNumbers.filter (· ≠ n) := by
    rw [openNumbers, openNumbers, List.filter_map]
    rfl
  refine ⟨?_, ?_, ?_⟩
  · show _ = unclosed (s.calls ++ [.close n])
    rw [hnumbers, unclosed_concat, h.traced]
    rfl
  · rw [hnumbers]
    intro m hm
    exact h.made m (List.mem_of_mem_filter hm)
  · rw [hnumbers]
    exact h.nodup.filter _

theorem opened_close (s : System) (n : Nat) :
    (s.close n).opened = s.opened.filter (·.number ≠ n) := rfl

/-! ## The socket that was made last -/

variable {xs : List Socket} {x : Socket}

/-- The socket that was made last is no other. -/
theorem Sound.ne_last (h : s.Sound) (hx : s.opened = xs ++ [x]) :
    ∀ y ∈ xs, y.number ≠ x.number := by
  have hnodup := h.nodup
  rw [openNumbers, hx, List.map_append, List.nodup_append] at hnodup
  intro y hy
  exact hnodup.2.2 _ (List.mem_map_of_mem hy) _ (List.mem_singleton.mpr rfl)

/-- A change of the last socket leaves the others. -/
theorem Sound.opened_change (h : s.Sound) (hx : s.opened = xs ++ [x]) (f : Socket → Socket) :
    (s.change x.number f).opened = xs ++ [f x] := by
  have hsame : xs.map (fun y => if y.number = x.number then f y else y) = xs := by
    rw [List.map_congr_left fun y hy => if_neg (h.ne_last hx y hy), List.map_id']
  show s.opened.map _ = _
  rw [hx, List.map_append, hsame, List.map_singleton, if_pos rfl]

/-- A change that keeps the numbers of sockets keeps a system sound. -/
theorem Sound.change (h : s.Sound) (n : Nat) {f : Socket → Socket}
    (hf : ∀ y, (f y).number = y.number) : (s.change n f).Sound := by
  have hnumbers : (s.change n f).openNumbers = s.openNumbers := by
    rw [openNumbers, openNumbers, System.change, List.map_map]
    apply List.map_congr_left
    intro y _
    rw [Function.comp_apply]
    split
    · exact hf y
    · rfl
  refine ⟨?_, ?_, ?_⟩
  · rw [hnumbers]
    exact h.traced
  · rw [hnumbers]
    exact h.made
  · rw [hnumbers]
    exact h.nodup

/-- Closing the last socket leaves those before it. -/
theorem Sound.opened_close_last (h : s.Sound) (hx : s.opened = xs ++ [x]) :
    (s.close x.number).opened = xs := by
  have hsame : xs.filter (·.number ≠ x.number) = xs := by
    apply List.filter_eq_self.mpr
    intro y hy
    exact decide_eq_true (h.ne_last hx y hy)
  rw [opened_close, hx, List.filter_append, hsame, List.filter_singleton]
  simp

/-! ## Opening a listening socket -/

/-- A port was picked. -/
theorem Sound.advance (h : s.Sound) : ({ s with picked := s.picked + 1 } : System).Sound :=
  ⟨h.traced, h.made, h.nodup⟩

/-- Binding the last socket gives it an address, or changes nothing. -/
theorem bind_cases {net : Network} (h : s.Sound) (hx : s.opened = xs ++ [x]) {host : Text}
    {port : Int} {r : Except Refusal Int} (hb : s.bind net x.number host port = (s', r)) :
    s'.Sound ∧ s.Quiet s' ∧
      ((∃ e, r = .error e ∧ s'.opened = xs ++ [x]) ∨
        ∃ actual, r = .ok actual ∧ actual ≠ 0 ∧
          s'.opened = xs ++ [{ x with bound := some (host, actual) }]) := by
  have hnote : (s.note (.bind x.number host port)).Sound := h.note fun _ => rfl
  have hquiet : s.Quiet (s.note (.bind x.number host port)) := quiet_note nofun
  unfold System.bind at hb
  dsimp only at hb
  split at hb
  · cases hb
    exact ⟨hnote, hquiet, .inl ⟨_, rfl, hx⟩⟩
  · -- a port that the network picks is not zero either
    by_cases hport : port = 0
    · simp only [if_pos hport] at hb
      split at hb
      · cases hb
        exact ⟨hnote.advance, hquiet, .inl ⟨_, rfl, hx⟩⟩
      · cases hb
        exact ⟨hnote.advance.change _ fun _ => rfl, hquiet,
          .inr ⟨_, rfl, (Int.ne_of_lt (net.freePort_pos _ _)).symm,
            hnote.advance.opened_change hx _⟩⟩
    · simp only [if_neg hport] at hb
      split at hb
      · cases hb
        exact ⟨hnote, hquiet, .inl ⟨_, rfl, hx⟩⟩
      · cases hb
        exact ⟨hnote.change _ fun _ => rfl, hquiet,
          .inr ⟨_, rfl, hport, hnote.opened_change hx _⟩⟩

/-- Setting the last socket to listen does so, or changes nothing. -/
theorem listen_cases {net : Network} (h : s.Sound) (hx : s.opened = xs ++ [x]) {host : Text}
    {backlog : Int} {r : Option Refusal}
    (hl : s.listen net x.number host backlog = (s', r)) :
    s'.Sound ∧ s.Quiet s' ∧
      ((∃ e, r = some e ∧ s'.opened = xs ++ [x]) ∨
        r = none ∧ s'.opened = xs ++ [{ x with listening := true }]) := by
  have hnote : (s.note (.listen x.number backlog)).Sound := h.note fun _ => rfl
  have hquiet : s.Quiet (s.note (.listen x.number backlog)) := quiet_note nofun
  unfold System.listen at hl
  dsimp only at hl
  split at hl
  · cases hl
    exact ⟨hnote, hquiet, .inl ⟨_, rfl, hx⟩⟩
  · cases hl
    exact ⟨hnote.change _ fun _ => rfl, hquiet, .inr ⟨rfl, hnote.opened_change hx _⟩⟩

/-- A socket is made and its options are set. -/
theorem prepare_eq (s : System) (family : Family) :
    ∃ s', s.prepare family = (s', s.created + 1) ∧ s.Quiet s' ∧
      s'.opened = s.opened ++ [⟨s.created + 1, family, none, false⟩] ∧
      (s.Sound → s'.Sound) := by
  have hquiet : s.Quiet ((s.create family).1.note (.reuseAddress (s.created + 1))) :=
    (s.quiet_create family).trans (quiet_note nofun)
  have hsound : s.Sound → ((s.create family).1.note (.reuseAddress (s.created + 1))).Sound :=
    fun h => (h.create family).note fun _ => rfl
  cases family with
  | inet => exact ⟨_, rfl, hquiet, rfl, hsound⟩
  | inet6 =>
      exact ⟨_, rfl, hquiet.trans (quiet_note nofun), rfl, fun h => (hsound h).note fun _ => rfl⟩

/-- Opening a listening socket leaves one more socket, with an address and listening, or none. -/
theorem openListening_cases {net : Network} (h : s.Sound) {family : Family} {host : Text}
    {port backlog : Int} {r : Except Refusal (Nat × Int)}
    (ho : s.openListening net family host port backlog = (s', r)) :
    s'.Sound ∧ s.Quiet s' ∧
      ((∃ e, r = .error e ∧ s'.opened = s.opened) ∨
        ∃ n actual, r = .ok (n, actual) ∧ actual ≠ 0 ∧
          s'.opened = s.opened ++ [⟨n, family, some (host, actual), true⟩]) := by
  obtain ⟨s₀, hp, hquiet, hopened, hprepare⟩ := prepare_eq s family
  rw [openListening, hp] at ho
  dsimp only at ho
  cases hb : s₀.bind net (s.created + 1) host port with
  | mk s₁ r₁ =>
      obtain ⟨hs₁, hq₁, ⟨e, rfl, hx₁⟩ | ⟨actual, rfl, hactual, hx₁⟩⟩ :=
        bind_cases (hprepare h) hopened hb
      · -- the socket that was made is the last one, so closing it undoes the making
        rw [hb] at ho
        cases ho
        exact ⟨hs₁.close _, (hquiet.trans hq₁).trans (s₁.quiet_close _),
          .inl ⟨e, rfl, hs₁.opened_close_last hx₁⟩⟩
      · rw [hb] at ho
        dsimp only at ho
        cases hl : s₁.listen net (s.created + 1) host backlog with
        | mk s₂ r₂ =>
            obtain ⟨hs₂, hq₂, ⟨e, rfl, hx₂⟩ | ⟨rfl, hx₂⟩⟩ := listen_cases hs₁ hx₁ hl
            · rw [hl] at ho
              cases ho
              exact ⟨hs₂.close _, ((hquiet.trans hq₁).trans hq₂).trans (s₂.quiet_close _),
                .inl ⟨e, rfl, hs₂.opened_close_last hx₂⟩⟩
            · rw [hl] at ho
              cases ho
              exact ⟨hs₂.note fun _ => rfl,
                ((hquiet.trans hq₁).trans hq₂).trans (quiet_note nofun),
                .inr ⟨_, actual, rfl, hactual, hx₂⟩⟩

/-! ## Addresses that are free -/

end System

/-- A host's name leads to an address of a family first, and the network lets listen there. -/
structure Network.Admits (net : Network) (host : Text) (port : Int) (family : Family) : Prop where
  resolves : ∀ t, ∃ others, net.resolve t host = .ok (family :: others)
  binds : ∀ t, net.bindRefusal t host = none
  listens : ∀ t, net.listenRefusal t host = none
  free : ∀ t, net.isBusy t host port = false

namespace System

/-- An address that nobody holds can be listened at. -/
theorem openListening_free {net : Network} {family : Family} {host : Text} {port : Int}
    (hnet : net.Admits host port family) (hport : port ≠ 0) (s : System)
    (hfree : s.holds host port = false) (backlog : Int) :
    ∃ s', s.openListening net family host port backlog = (s', .ok (s.created + 1, port)) := by
  obtain ⟨s₀, hp, -, hopened, -⟩ := prepare_eq s family
  have hholds : (s₀.note (.bind (s.created + 1) host port)).holds host port = false := by
    rw [← hfree]
    show s₀.opened.any _ = s.opened.any _
    rw [hopened]
    simp
  rw [openListening, hp]
  dsimp only
  rw [System.bind]
  dsimp only
  rw [hnet.binds]
  dsimp only
  rw [if_neg hport, if_neg hport, hholds, hnet.free, Bool.or_false, if_neg Bool.false_ne_true]
  simp only [System.listen, hnet.listens]
  exact ⟨_, rfl⟩

end System

end JsonTap.Net
