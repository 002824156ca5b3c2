import JsonTap.Log.Logger
import JsonTap.Proofs.Named

/-!
# What calls see of the open blocks

In a run of a task, blocks are entered and left, loggers are made, and calls are processed. A call
sees a field as the innermost of the open blocks has it that binds it to something, unless its
logger has a field of that name, and null fields count for nothing (`calls_see_open_blocks`).
Leaving a block brings back what was bound before.

`visible` says so of the fields as they were given. The fields of a scope are merged when a block is
entered, and `Session.Sees` is the invariant that the merged fields show the same.
-/

namespace JsonTap

/-! ## Fields that are not null -/

namespace Fields

/-- What a field holds, unless it is null. -/
def given? (fs : Fields) (name : Text) : Option Datum :=
  match fs.get? name with
  | some .null => none
  | found => found

/-- A field is present unless it is null. -/
theorem get?_present {fs : Fields} (h : fs.Distinct) (name : Text) :
    fs.present.get? name = fs.given? name := by
  unfold given?
  induction fs with
  | nil => rfl
  | cons f fs ih =>
      obtain ⟨n, d⟩ := f
      obtain ⟨hn, hfs⟩ := Named.distinct_cons.mp h
      cases d with
      | null =>
          by_cases hname : name = n
          · -- there is no other field of this name that the null could uncover
            have hlater : Named.get? (present fs) name = none := by
              rw [ih hfs, hname, hn]
            rw [Named.get?_cons, if_pos hname]
            exact hlater
          · rw [Named.get?_cons, if_neg hname]
            exact ih hfs
      | _ =>
          rw [Named.get?_cons]
          by_cases hname : name = n
          · rw [if_pos hname]
            exact (Named.get?_cons _ _ _ _).trans (if_pos hname)
          · rw [if_neg hname, ← ih hfs]
            exact (Named.get?_cons _ _ _ _).trans (if_neg hname)

theorem distinct_present {fs : Fields} (h : fs.Distinct) : fs.present.Distinct := h.filter _

theorem present_present (fs : Fields) : fs.present.present = fs.present := by
  unfold present
  rw [List.filter_filter]
  simp only [Bool.and_self]

end Fields

namespace Log

/-! ## Runs -/

inductive Leaving where
  | atEnd
  | byException

inductive Act where
  | enter (fields : Fields)
  | leave (how : Leaving)
  /-- Makes a logger that is kept under `id`. -/
  | make (id name : Text) (static : Fields)
  /-- Has the arguments of a call processed by a logger. -/
  | call (id : Text) (arguments : Fields)

/-- The open blocks of a task, and its loggers. -/
structure Session where
  scope : Scope
  loggers : Named Logger

namespace Session

def initial : Session := ⟨[], []⟩

/-- However a block is left, what was bound before is bound again. -/
def step (s : Session) : Act → Session
  | .enter fields => { s with scope := s.scope.enter fields }
  | .leave _ => { s with scope := s.scope.leave }
  | .make id name static => { s with loggers := s.loggers.put id (.get name static) }
  | .call _ _ => s

def after (s : Session) (acts : List Act) : Session := acts.foldl step s

/-- The arguments that a call passes on, if there is its logger. -/
def passed? (s : Session) (id : Text) (arguments : Fields) : Option (Except CallFault Fields) :=
  (s.loggers.get? id).map fun l => process l s.scope.bound arguments

end Session

/-- Runs in which every block that is entered is left again, the inner ones first. -/
inductive Nested : List Act → Prop
  | nil : Nested []
  | make {id name : Text} {static : Fields} {acts : List Act} :
      Nested acts → Nested (.make id name static :: acts)
  | call {id : Text} {arguments : Fields} {acts : List Act} :
      Nested acts → Nested (.call id arguments :: acts)
  | block {fields : Fields} {inside acts : List Act} {how : Leaving} :
      Nested inside → Nested acts → Nested (.enter fields :: (inside ++ .leave how :: acts))

/-! ## What is visible -/

/-- The fields of the open blocks as they were given, innermost first. -/
def Act.onBlocks (blocks : List Fields) : Act → List Fields
  | .enter fields => fields :: blocks
  | .leave _ => blocks.tail
  | _ => blocks

def openBlocks (acts : List Act) : List Fields := acts.foldl Act.onBlocks []

/-- The fields of the loggers as they were given. -/
def Act.onStatic (own : Named Fields) : Act → Named Fields
  | .make id _ static => own.put id static
  | _ => own

def staticFields (acts : List Act) : Named Fields := acts.foldl Act.onStatic []

/-- What a field holds in the first of some layers in which it is not null. -/
def visible : List Fields → Text → Option Datum
  | [], _ => none
  | fs :: layers, name => (fs.given? name).or (visible layers name)

/-- The fields given at once have distinct names. -/
def Act.Distinct : Act → Prop
  | .enter fields => fields.Distinct
  | .make _ _ static => static.Distinct
  | _ => True

instance : DecidablePred Act.Distinct := fun a =>
  match a with
  | .enter fields => inferInstanceAs (Decidable fields.Distinct)
  | .make _ _ static => inferInstanceAs (Decidable static.Distinct)
  | .leave _ => inferInstanceAs (Decidable True)
  | .call _ _ => inferInstanceAs (Decidable True)

/-- The same, without the null fields of blocks and loggers. -/
def Act.withoutNulls : Act → Act
  | .enter fields => .enter fields.present
  | .make id name static => .make id name static.present
  | a => a

/-- A context holds what is visible in some layers; there is none if nothing is visible. -/
inductive Shows (layers : List Fields) : Option Datum → Prop
  | nothing : (∀ name, visible layers name = none) → Shows layers none
  | fields {fs : Fields} : fs.isEmpty = false → fs.Distinct →
      (∀ name, fs.get? name = visible layers name) → Shows layers (some (.map fs))

/-! ## Scopes -/

/-- The merged fields of the open blocks, against the blocks as they were given. -/
def Scope.Sees : Scope → List Fields → Prop
  | [], [] => True
  | fs :: s, b :: blocks =>
    fs.Distinct ∧ (∀ name, fs.get? name = visible (b :: blocks) name) ∧ Sees s blocks
  | _, _ => False

/-- What is bound is what the open blocks show. -/
theorem Scope.Sees.bound {s : Scope} {blocks : List Fields} (h : s.Sees blocks) :
    s.bound.Distinct ∧ ∀ name, s.bound.get? name = visible blocks name := by
  cases s with
  | nil =>
      cases blocks with
      | nil => exact ⟨Named.distinct_nil, fun _ => rfl⟩
      | cons b blocks => exact h.elim
  | cons fs s =>
      cases blocks with
      | nil => exact h.elim
      | cons b blocks => exact ⟨h.1, h.2.1⟩

/-- A block that is entered shows its fields over the others. -/
theorem Scope.Sees.enter {s : Scope} {blocks : List Fields} (h : s.Sees blocks) {fields : Fields}
    (hfields : fields.Distinct) : (s.enter fields).Sees (fields :: blocks) := by
  obtain ⟨hdistinct, hbound⟩ := h.bound
  refine ⟨hdistinct.merge _, fun name => ?_, h⟩
  rw [Named.get?_merge _ (Fields.distinct_present hfields), Fields.get?_present hfields, hbound]
  rfl

/-- A block that is left shows its fields no more. -/
theorem Scope.Sees.leave {s : Scope} {blocks : List Fields} (h : s.Sees blocks) :
    s.leave.Sees blocks.tail := by
  cases s with
  | nil =>
      cases blocks with
      | nil => exact h
      | cons b blocks => exact h.elim
  | cons fs s =>
      cases blocks with
      | nil => exact h.elim
      | cons b blocks => exact h.2.2

/-! ## Sessions -/

/-- A session shows what is visible of some blocks and loggers. -/
structure Session.Sees (s : Session) (blocks : List Fields) (own : Named Fields) : Prop where
  scope : s.scope.Sees blocks
  loggers : ∀ id, (s.loggers.get? id).map (·.static) = (own.get? id).map Fields.present
  distinct : ∀ id static, own.get? id = some static → static.Distinct

/-- One act changes what is seen as it changes the open blocks. -/
theorem Session.Sees.step {s : Session} {blocks : List Fields} {own : Named Fields}
    (h : s.Sees blocks own) {a : Act} (ha : a.Distinct) :
    (s.step a).Sees (a.onBlocks blocks) (a.onStatic own) := by
  cases a with
  | enter fields => exact ⟨h.scope.enter ha, h.loggers, h.distinct⟩
  | leave how => exact ⟨h.scope.leave, h.loggers, h.distinct⟩
  | call id arguments => exact h
  | make id name static =>
      refine ⟨h.scope, fun other => ?_, fun other fs => ?_⟩
      · show ((s.loggers.put id (.get name static)).get? other).map _ =
          ((own.put id static).get? other).map _
        rw [Named.get?_put, Named.get?_put]
        by_cases hid : other = id
        · rw [if_pos hid, if_pos hid]
          rfl
        · rw [if_neg hid, if_neg hid]
          exact h.loggers other
      · show (own.put id static).get? other = some fs → _
        rw [Named.get?_put]
        by_cases hid : other = id
        · rw [if_pos hid]
          intro hfs
          exact Option.some.inj hfs ▸ ha
        · rw [if_neg hid]
          exact h.distinct other fs

/-- After any acts a session sees the blocks that are open then. -/
theorem Session.Sees.after {s : Session} {blocks : List Fields} {own : Named Fields}
    (h : s.Sees blocks own) {acts : List Act} (hacts : ∀ a ∈ acts, a.Distinct) :
    (s.after acts).Sees (acts.foldl Act.onBlocks blocks) (acts.foldl Act.onStatic own) := by
  induction acts generalizing s blocks own with
  | nil => exact h
  | cons a acts ih =>
      obtain ⟨ha, hrest⟩ := List.forall_mem_cons.mp hacts
      exact ih (h.step ha) hrest

theorem Session.sees_initial : initial.Sees [] [] := ⟨trivial, fun _ => rfl, nofun⟩

theorem Session.after_append (s : Session) (acts later : List Act) :
    s.after (acts ++ later) = (s.after acts).after later :=
  List.foldl_append

/-- Blocks that are left again leave nothing behind. -/
theorem Nested.scope {acts : List Act} (h : Nested acts) (s : Session) :
    (s.after acts).scope = s.scope := by
  induction h generalizing s with
  | nil => rfl
  | make _ ih => exact ih _
  | call _ ih => exact ih _
  | @block fields inside acts how _ _ ihInside ihAfter =>
      show ((s.step (.enter fields)).after (inside ++ .leave how :: acts)).scope = s.scope
      rw [Session.after_append]
      show ((((s.step (.enter fields)).after inside).step (.leave how)).after acts).scope = _
      rw [ihAfter]
      show ((s.step (.enter fields)).after inside).scope.leave = _
      rw [ihInside]
      rfl

/-- Null fields change nothing in one act. -/
theorem Session.step_withoutNulls (s : Session) (a : Act) : s.step a.withoutNulls = s.step a := by
  cases a with
  | enter fields =>
      show Session.mk (s.scope.enter fields.present) s.loggers = _
      rw [Scope.enter, Fields.present_present]
      rfl
  | make id name static =>
      show Session.mk s.scope (s.loggers.put id (.get name static.present)) = _
      rw [Logger.get, Fields.present_present]
      rfl
  | leave how => rfl
  | call id arguments => rfl

/-- Null fields change nothing in a run. -/
theorem Session.after_withoutNulls (s : Session) (acts : List Act) :
    s.after (acts.map Act.withoutNulls) = s.after acts := by
  induction acts generalizing s with
  | nil => rfl
  | cons a acts ih =>
      show (s.step a.withoutNulls).after (acts.map Act.withoutNulls) = (s.step a).after acts
      rw [step_withoutNulls, ih]

/-! ## Calls -/

/-- The argument `extra` of a call, which is empty if it is not given. -/
inductive Extra (arguments : Fields) : Fields → Prop
  | given {extra : Fields} : arguments.get? "extra" = some (.map extra) → Extra arguments extra
  | missing : arguments.get? "extra" = none → Extra arguments []

theorem isSteering_extra : isSteering "extra" = true := by decide

/-- The arguments that a call passes on are the steering ones, and everything else in `extra`. -/
theorem process_ok {l : Logger} {bound arguments extra : Fields} (h : Extra arguments extra) :
    ∃ passed, process l bound arguments = .ok passed ∧
      passed.get? "extra" = some (.map (callExtra l bound extra arguments)) ∧
      ∀ name : Text, name ≠ "extra" →
        passed.get? name = if isSteering name then arguments.get? name else none := by
  have hfind : ∀ name, Named.get?
      (Named.putNew (arguments.filter fun a => isSteering a.1) "extra" (.map [])) name =
        (if isSteering name then arguments.get? name else none).or
          (if name = "extra" then some (.map []) else none) := by
    intro name
    rw [Named.get?_putNew, Named.get?_filter]
  have hextra : Named.get?
      (Named.putNew (arguments.filter fun a => isSteering a.1) "extra" (.map [])) "extra" =
        some (.map extra) := by
    rw [hfind, if_pos isSteering_extra, if_pos rfl]
    cases h with
    | given hgiven => rw [hgiven]; rfl
    | missing hnone => rw [hnone]; rfl
  unfold process
  dsimp only
  rw [hextra]
  refine ⟨_, rfl, ?_, fun name hname => ?_⟩
  · rw [Named.get?_put, if_pos rfl]
  · rw [Named.get?_put, if_neg hname, hfind, if_neg hname, Option.or_none]

/-- What is passed as `extra` comes first, then the arguments that do not steer the call. -/
theorem get?_callExtra {l : Logger} {bound arguments extra : Fields} {name : Text}
    (hname : name ≠ "context") :
    (callExtra l bound extra arguments).get? name =
      (extra.get? name).or (if isSteering name then none else arguments.get? name) := by
  have hgiven : (extra.fill (arguments.filter fun a => !isSteering a.1)).get? name =
      (extra.get? name).or (if isSteering name then none else arguments.get? name) := by
    rw [Named.get?_fill, Named.get?_filter fun n => !isSteering n]
    cases isSteering name <;> rfl
  unfold callExtra
  dsimp only
  split
  · exact hgiven
  · rw [Named.get?_putNew, if_neg hname, Option.or_none]
    exact hgiven

/-- Unless a context is given, it is that of the logger and the blocks. -/
theorem context_callExtra {l : Logger} {bound arguments extra : Fields}
    (harguments : arguments.get? "context" = none) (hextra : extra.get? "context" = none) :
    (callExtra l bound extra arguments).get? "context" =
      if (callContext l bound).isEmpty then none else some (.map (callContext l bound)) := by
  have hgiven : (extra.fill (arguments.filter fun a => !isSteering a.1)).get? "context" = none := by
    rw [Named.get?_fill, Named.get?_filter fun n => !isSteering n, hextra, harguments]
    rfl
  unfold callExtra
  dsimp only
  split
  · exact hgiven
  · rw [Named.get?_putNew, if_pos rfl, hgiven]
    rfl

/-- The context of a call is what its logger and the open blocks show. -/
theorem Session.Sees.shows {s : Session} {blocks : List Fields} {own : Named Fields}
    (h : s.Sees blocks own) {id : Text} {static : Fields} (hid : own.get? id = some static)
    {l : Logger} (hl : l.static = static.present) :
    Shows (static :: blocks) (if (callContext l s.scope.bound).isEmpty then none
      else some (.map (callContext l s.scope.bound))) := by
  have hstatic := h.distinct id static hid
  obtain ⟨hdistinct, hbound⟩ := h.scope.bound
  have hcontext : ∀ name,
      (callContext l s.scope.bound).get? name = visible (static :: blocks) name := by
    intro name
    unfold callContext
    rw [hl, Named.get?_merge _ (Fields.distinct_present hstatic), Fields.get?_present hstatic,
      hbound]
    rfl
  by_cases hempty : (callContext l s.scope.bound).isEmpty = true
  · rw [if_pos hempty]
    refine .nothing fun name => ?_
    rw [← hcontext]
    exact Named.isEmpty_iff_get?.mp hempty name
  · rw [if_neg hempty]
    exact .fields (Bool.eq_false_iff.mpr hempty) (hdistinct.merge _) hcontext

/-- After any acts of a task, let a call be made by a logger that was given the fields `static`, and
let neither its arguments nor the argument `extra` have the name `context`. Then the call is not
refused. The arguments that do not steer it are in `extra`, unless that had something of their name
already. The context holds what is visible in the logger's own fields and in the open blocks, and is
missing if nothing is. When a block is left, at its end or by an exception, the blocks are again as
before it was entered. And nothing changes if null fields are left out. -/
theorem calls_see_open_blocks (acts : List Act) (hacts : ∀ a ∈ acts, a.Distinct) :
    (∀ id static arguments extra, (staticFields acts).get? id = some static →
      Extra arguments extra → arguments.get? "context" = none → extra.get? "context" = none →
      ∃ (passed all : Fields),
        (Session.initial.after acts).passed? id arguments = some (.ok passed) ∧
        passed.get? "extra" = some (.map all) ∧
        (∀ name : Text, name ≠ "extra" →
          passed.get? name = if isSteering name then arguments.get? name else none) ∧
        (∀ name : Text, name ≠ "context" → all.get? name =
          (extra.get? name).or (if isSteering name then none else arguments.get? name)) ∧
        Shows (static :: openBlocks acts) (all.get? "context")) ∧
    (∀ fields inside how, Nested inside →
      (Session.initial.after (acts ++ .enter fields :: inside ++ [.leave how])).scope =
        (Session.initial.after acts).scope) ∧
    Session.initial.after (acts.map Act.withoutNulls) = Session.initial.after acts := by
  have hsees : (Session.initial.after acts).Sees (openBlocks acts) (staticFields acts) :=
    Session.sees_initial.after hacts
  refine ⟨?_, ?_, Session.after_withoutNulls _ acts⟩
  · intro id static arguments extra hid hextra harguments hcontext
    -- the logger that the acts made under this name, with the fields given then
    obtain ⟨l, hl, hstatic⟩ : ∃ l, (Session.initial.after acts).loggers.get? id = some l ∧
        l.static = static.present := by
      have hkept := hsees.loggers id
      rw [hid] at hkept
      exact Option.map_eq_some_iff.mp hkept
    obtain ⟨passed, hprocess, hall, hsteering⟩ :=
      @process_ok l (Session.initial.after acts).scope.bound arguments extra hextra
    refine ⟨passed, _, ?_, hall, hsteering, fun name hname => get?_callExtra hname, ?_⟩
    · unfold Session.passed?
      rw [hl, Option.map_some, hprocess]
    · rw [context_callExtra harguments hcontext]
      exact hsees.shows hid hstatic
  · intro fields inside how hinside
    have hblock : Nested (.enter fields :: (inside ++ .leave how :: [])) := .block hinside .nil
    rw [List.append_assoc, Session.after_append]
    exact hblock.scope _

/-- A logger is made in an outer block, and another block is entered. -/
def twoBlocks : List Act :=
  [.enter [("x", .int 1), ("y", .int 2)], .make "log" "service" [("user", .str "u"), ("y", .null)],
    .enter [("x", .int 3), ("user", .null), ("y", .null)]]

/-- In the inner block a call sees the inner `x`, the outer `y`, which a null does not hide, and the
`user` of the logger. When an exception ends a third block, the scope is as before. -/
theorem calls_see_open_blocks_two :
    (∀ a ∈ twoBlocks, a.Distinct) ∧
    (∃ (passed all context : Fields),
      (Session.initial.after twoBlocks).passed? "log" [("k", .int 4), ("exc_info", .bool true)] =
        some (.ok passed) ∧
      passed.get? "extra" = some (.map all) ∧ passed.get? "exc_info" = some (.bool true) ∧
      all.get? "k" = some (.int 4) ∧ all.get? "exc_info" = none ∧
      all.get? "context" = some (.map context) ∧ context.get? "x" = some (.int 3) ∧
      context.get? "y" = some (.int 2) ∧ context.get? "user" = some (.str "u") ∧
      context.get? "k" = none) ∧
    (Session.initial.after (twoBlocks ++ .enter [("x", .int 5)] :: [] ++
      [.leave .byException])).scope = (Session.initial.after twoBlocks).scope := by
  have hacts : ∀ a ∈ twoBlocks, a.Distinct := by decide
  obtain ⟨hcalls, hleave, -⟩ := calls_see_open_blocks twoBlocks hacts
  obtain ⟨passed, all, hpassed, hall, hsteering, hothers, hcontext⟩ :=
    hcalls "log" [("user", .str "u"), ("y", .null)] [("k", .int 4), ("exc_info", .bool true)] []
      rfl (.missing rfl) rfl rfl
  refine ⟨hacts, ?_, hleave _ _ _ .nil⟩
  cases hc : all.get? "context" with
  | none =>
      rw [hc] at hcontext
      cases hcontext with
      | nothing hnone => cases hnone "x"
  | some d =>
      rw [hc] at hcontext
      cases hcontext with
      | @fields context _ _ hshows =>
          exact ⟨passed, all, context, hpassed, hall, hsteering "exc_info" (by decide),
            hothers "k" (by decide), hothers "exc_info" (by decide), hc, hshows "x", hshows "y",
            hshows "user", hshows "k"⟩

end Log

end JsonTap
