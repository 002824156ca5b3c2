import JsonTap.Log.Logger
import JsonTap.Proofs.Log.Entries
import JsonTap.Proofs.Log.Written

/-!
# Calls with fields

A call with fields of any names is to write one line. Names and values decide alone whether it does
(`fields_decide_the_call`): it is refused for a name that has a place in the call or belongs to
records (`isTaken`), and what is written is lost if the field `context` holds something other than a
map, or if an integer that would be shown is too long (`IsWritten`).
-/

namespace JsonTap.Log

/-! ## The record of a call with fields -/

/-- Whether a field of this name is refused. -/
def isTaken (name : Text) : Bool := placed.contains name || Record.reservedNames.contains name

/-- What is passed on as `extra` for fields that do not steer the call. -/
def fieldsExtra (l : Logger) (bound arguments : Fields) : Fields :=
  if (callContext l bound).isEmpty then arguments
  else arguments.putNew "context" (.map (callContext l bound))

/-- Fields that do not steer the call are all passed on. -/
theorem callExtra_fields (l : Logger) (bound : Fields) {arguments : Fields}
    (hdistinct : arguments.Distinct) (h : ∀ a ∈ arguments, isSteering a.1 = false) :
    callExtra l bound [] arguments = fieldsExtra l bound arguments := by
  have hall : arguments.filter (fun a => !isSteering a.1) = arguments :=
    List.filter_eq_self.mpr fun a ha => by rw [h a ha]; rfl
  have hfill : Named.fill ([] : Fields) arguments = arguments := Named.fill_of_nodup hdistinct
  unfold callExtra
  rw [hall, hfill]
  rfl

/-- Without arguments that steer the call, everything is in `extra`. -/
theorem process_of_fields (l : Logger) (bound : Fields) {arguments : Fields}
    (h : ∀ a ∈ arguments, isSteering a.1 = false) :
    process l bound arguments = .ok [("extra", .map (callExtra l bound [] arguments))] := by
  have hsteering : arguments.filter (fun a => isSteering a.1) = [] :=
    List.filter_eq_nil_iff.mpr fun a ha => Bool.eq_false_iff.mp (h a ha)
  unfold process
  rw [hsteering]
  rfl

/-- The name of the context is none that a record has itself. -/
theorem any_reserved_fieldsExtra (l : Logger) (bound arguments : Fields) :
    (fieldsExtra l bound arguments).any (fun f => Record.reservedNames.contains f.1) =
      arguments.any (fun f => Record.reservedNames.contains f.1) := by
  unfold fieldsExtra
  split
  · rfl
  · unfold Named.putNew
    split
    · rfl
    · have hcontext : Record.reservedNames.contains (Text.ofString "context") = false := by decide
      rw [List.any_append, List.any_cons, hcontext]
      simp

/-- The record of a call with fields that it takes. -/
def fieldsRecord (l : Logger) (bound : Fields) (level : Level) (template : Text)
    (args : List Datum) (arguments : Fields) : Record :=
  ⟨level, l.name, template, args, ((fieldsExtra l bound arguments).get? "context").getD .null,
    (fieldsExtra l bound arguments).filter (fun f => f.1 ≠ Text.ofString "context"), none⟩

/-- A call with fields is refused, or it makes their record. -/
theorem call_fields (l : Logger) (bound : Fields) (level : Level) (template : Text)
    (args : List Datum) {arguments : Fields} (hdistinct : arguments.Distinct)
    (h : ∀ a ∈ arguments, isSteering a.1 = false) :
    if arguments.any (fun a => isTaken a.1) then
      ∃ f, call l true bound level template args none arguments = .error f
    else
      call l true bound level template args none arguments =
        .ok (some (fieldsRecord l bound level template args arguments)) := by
  -- a name is refused for a place among the arguments, or later by the record
  have htaken : arguments.any (fun a => isTaken a.1) =
      (arguments.any (fun a => placed.contains a.1) ||
        arguments.any (fun a => Record.reservedNames.contains a.1)) := by
    rw [Bool.eq_iff_iff]
    simp only [isTaken, List.any_eq_true, Bool.or_eq_true, and_or_left, exists_or]
  rw [htaken]
  unfold call
  cases hplaced : arguments.find? (fun a => placed.contains a.1) with
  | some a =>
      have hany : arguments.any (fun a => placed.contains a.1) = true := by
        rw [← List.isSome_find?, hplaced]
        rfl
      rw [hany, Bool.true_or, if_pos rfl]
      exact ⟨_, rfl⟩
  | none =>
      have hany : arguments.any (fun a => placed.contains a.1) = false := by
        rw [← List.isSome_find?, hplaced]
        rfl
      rw [hany, Bool.false_or, process_of_fields l bound h, callExtra_fields l bound hdistinct h,
        ← any_reserved_fieldsExtra l bound, ← List.isSome_find?]
      show if _ then ∃ f, (makeRecord l level template args none
          (fieldsExtra l bound arguments)).bind (fun r => .ok (some r)) = Except.error f
        else (makeRecord l level template args none
          (fieldsExtra l bound arguments)).bind (fun r => .ok (some r)) = _
      unfold makeRecord
      cases (fieldsExtra l bound arguments).find?
          (fun f => Record.reservedNames.contains f.1) with
      | some f => exact ⟨_, rfl⟩
      | none => rfl

/-! ## What the line of a call shows -/

/-- The fields of the context of a call: a field of that name that is a map and holds something; for
another one only what is bound; and without one the logger's own fields over what is bound. -/
def callFields (l : Logger) (bound arguments : Fields) : Fields :=
  match arguments.get? "context" with
  | some (.map (e :: es)) => e :: es
  | some _ => bound
  | none => callContext l bound

/-- What is shown of a name, but for the entries of the record itself. -/
def shownField? (l : Logger) (bound arguments : Fields) (name : Text) : Option Datum :=
  if ownEntryNames.contains name then none
  else ((callFields l bound arguments).get? name).or
    (if isShown name then arguments.get? name else none)

/-- A field `context` that holds something is a map. -/
def UsableContext (arguments : Fields) : Prop :=
  ∀ d, arguments.get? "context" = some d → d.isSomething = true → ∃ es, d = .map es

/-- The record of a call is written: its context has fields, and no integer that is shown is too
long. -/
structure IsWritten (l : Logger) (bound arguments : Fields) : Prop where
  context : UsableContext arguments
  integers : ∀ name d, shownField? l bound arguments name = some d → d.hasLongInteger = false

section

variable (l : Logger) (bound : Fields) (level : Level) (template : Text) (args : List Datum)
  (arguments : Fields)

/-- The context overrides no other field. -/
theorem get?_fieldsExtra {name : Text} (h : name ≠ Text.ofString "context") :
    (fieldsExtra l bound arguments).get? name = arguments.get? name := by
  unfold fieldsExtra
  split
  · rfl
  · rw [Named.get?_putNew, if_neg h, Option.or_none]

/-- A field that is called `context` takes the place of the context. -/
theorem context_fieldsRecord :
    (fieldsRecord l bound level template args arguments).context =
      (arguments.get? "context").getD
        (if (callContext l bound).isEmpty then .null else .map (callContext l bound)) := by
  unfold fieldsRecord fieldsExtra
  dsimp only
  split
  · cases arguments.get? "context" <;> rfl
  · rw [Named.get?_putNew, if_pos rfl]
    cases arguments.get? "context" <;> rfl

/-- The context of the record has fields if the field `context` is usable, and is refused if not. -/
theorem contextFields_fieldsRecord :
    UsableContext arguments ∧
        contextFields bound (fieldsRecord l bound level template args arguments) =
          .ok (callFields l bound arguments) ∨
      ¬ UsableContext arguments ∧
        ∃ f, contextFields bound (fieldsRecord l bound level template args arguments) =
          .error f := by
  unfold contextFields callFields UsableContext
  rw [context_fieldsRecord]
  cases hcontext : arguments.get? "context" with
  | none =>
      refine .inl ⟨nofun, ?_⟩
      rw [Option.getD_none]
      dsimp only
      by_cases hempty : (callContext l bound).isEmpty = true
      · -- nothing is bound then
        have hnil := List.isEmpty_iff.mp hempty
        rw [if_pos hempty, hnil, Named.eq_nil_of_merge hnil]
        rfl
      · have hsomething : (Datum.map (callContext l bound)).isSomething = true := by
          show (!(callContext l bound).isEmpty) = true
          rw [Bool.eq_false_iff.mpr hempty]
          rfl
        rw [if_neg hempty, hsomething, if_pos rfl]
  | some d =>
      rw [Option.getD_some]
      by_cases hsomething : d.isSomething = true
      · rw [hsomething, if_pos rfl]
        cases d with
        | map es =>
            refine .inl ⟨fun _ h _ => ⟨es, (Option.some.inj h).symm⟩, ?_⟩
            cases es with
            | nil => cases hsomething
            | cons e es => rfl
        | _ =>
            refine .inr ⟨fun h => ?_, _, rfl⟩
            obtain ⟨es, hes⟩ := h _ rfl hsomething
            cases hes
      · rw [if_neg hsomething]
        refine .inl ⟨fun _ h hd => absurd (Option.some.inj h ▸ hd) hsomething, ?_⟩
        cases d with
        | map es =>
            cases es with
            | nil => rfl
            | cons e es => exact absurd rfl hsomething
        | _ => rfl

/-- The entries of a record's own are known by name. -/
theorem has_ownEntries (time message : Text) (r : Record) (name : Text) :
    ((ownEntries time message r).get? name).isSome = ownEntryNames.contains name := by
  rw [← Named.has_eq_isSome, Named.has_eq_contains]
  rfl

/-- Apart from the record's own entries, what a line tells is what is shown of the fields. -/
theorem entryFor?_fieldsRecord (time message name : Text) :
    entryFor? time message (callFields l bound arguments)
        (fieldsRecord l bound level template args arguments) name =
      ((ownEntries time message (fieldsRecord l bound level template args arguments)).get? name).or
        (shownField? l bound arguments name) := by
  have hextra : (if isShown name then
      (fieldsRecord l bound level template args arguments).extra.get? name else none) =
        if isShown name then arguments.get? name else none := by
    by_cases hshown : isShown name = true
    · have hname : name ≠ Text.ofString "context" := by
        rintro rfl
        exact absurd hshown (by decide)
      rw [if_pos hshown, if_pos hshown]
      show Named.get? ((fieldsExtra l bound arguments).filter
        (fun f => f.1 ≠ Text.ofString "context")) name = _
      rw [Named.get?_filter (fun n => decide (n ≠ Text.ofString "context")),
        if_pos (decide_eq_true hname), get?_fieldsExtra l bound arguments hname]
    · rw [if_neg hshown, if_neg hshown]
  have hown := has_ownEntries time message (fieldsRecord l bound level template args arguments) name
  unfold entryFor? shownField?
  rw [hextra]
  cases hfound : (ownEntries time message
      (fieldsRecord l bound level template args arguments)).get? name with
  | some d => rfl
  | none =>
      rw [hfound] at hown
      rw [← hown, Option.none_or, Option.none_or]
      show (if name = Text.ofString "error" then none else none).or _ = _
      rw [ite_self]
      rfl

/-- No entry of a record's own is too long. -/
theorem hasLongInteger_ownEntries {time message : Text} {r : Record} {name : Text} {d : Datum}
    (h : (ownEntries time message r).get? name = some d) : d.hasLongInteger = false := by
  have hmem := Named.mem_of_get? h
  simp only [ownEntries, List.mem_cons, Prod.mk.injEq, List.not_mem_nil, or_false] at hmem
  rcases hmem with ⟨-, rfl⟩ | ⟨-, rfl⟩ | ⟨-, rfl⟩ | ⟨-, rfl⟩ | ⟨-, rfl⟩ <;> rfl

/-- An integer on the line is too long exactly if one of the fields shown is. -/
theorem anyEntryLong_fieldsRecord (time message : Text) :
    Datum.anyEntryLong (entries time message (callFields l bound arguments)
        (fieldsRecord l bound level template args arguments)) = false ↔
      ∀ name d, shownField? l bound arguments name = some d → d.hasLongInteger = false := by
  have hdistinct := distinct_entries time message (callFields l bound arguments)
    (fieldsRecord l bound level template args arguments)
  have hentry : ∀ name d, (name, d) ∈ entries time message (callFields l bound arguments)
      (fieldsRecord l bound level template args arguments) ↔
        ((ownEntries time message
          (fieldsRecord l bound level template args arguments)).get? name).or
          (shownField? l bound arguments name) = some d := by
    intro name d
    rw [← hdistinct.get?_eq_some_iff, get?_entries, entryFor?_fieldsRecord]
  rw [Datum.anyEntryLong_eq, List.any_eq_false]
  constructor
  · intro h name d hshown
    -- a field is shown only under a name that no entry of the record's own has
    have hfree : (ownEntries time message
        (fieldsRecord l bound level template args arguments)).get? name = none := by
      have hown := has_ownEntries time message
        (fieldsRecord l bound level template args arguments) name
      unfold shownField? at hshown
      split at hshown
      · cases hshown
      · next hnot =>
          rw [Bool.eq_false_iff.mpr hnot] at hown
          exact Option.isNone_iff_eq_none.mp (Option.isSome_eq_false_iff.mp hown)
    have hmem := (hentry name d).mpr (by rw [hfree, Option.none_or, hshown])
    exact Bool.eq_false_iff.mpr (h _ hmem)
  · rintro h ⟨name, d⟩ hmem
    apply Bool.eq_false_iff.mp
    rcases Option.or_eq_some_iff.mp ((hentry name d).mp hmem) with hown | ⟨-, hshown⟩
    · exact hasLongInteger_ownEntries hown
    · exact h name d hshown

end

/-- The record has a line exactly if it is written. -/
theorem jsonLine_fieldsRecord {created : Double} {time message : Text} (l : Logger)
    (bound : Fields) (level : Level) {template : Text} {args : List Datum} (arguments : Fields)
    (htime : Timestamp.iso created = .ok time)
    (hmessage : Template.fill template args = .ok message) :
    IsWritten l bound arguments ∧
        (∃ t, t.AsciiLine ∧
          jsonLine created bound (fieldsRecord l bound level template args arguments) = .ok t) ∨
      ¬ IsWritten l bound arguments ∧
        ∃ f, jsonLine created bound (fieldsRecord l bound level template args arguments) =
          .error f := by
  rcases contextFields_fieldsRecord l bound level template args arguments with
    ⟨husable, hcontext⟩ | ⟨hnot, f, hcontext⟩
  · have hline := jsonLine_of_parts htime
      (show (fieldsRecord l bound level template args arguments).message = .ok message
        from hmessage) hcontext
    have hlong := anyEntryLong_fieldsRecord l bound level template args arguments time message
    -- with a usable context only an integer that is too long is in the way
    by_cases hintegers : ∀ name d, shownField? l bound arguments name = some d →
        d.hasLongInteger = false
    · rw [hlong.mpr hintegers, if_neg Bool.false_ne_true] at hline
      exact .inl ⟨⟨husable, hintegers⟩, _, Json.Value.asciiLine_line _, hline⟩
    · rw [Bool.eq_true_of_not_eq_false (fun hfalse => hintegers (hlong.mp hfalse)),
        if_pos rfl] at hline
      exact .inr ⟨fun h => hintegers h.integers, _, hline⟩
  · refine .inr ⟨fun h => hnot h.context, f, ?_⟩
    have hfinished :
        (fieldsRecord l bound level template args arguments).message = .ok message := hmessage
    unfold jsonLine
    rw [htime, hfinished, hcontext]
    rfl

/-! ## Calls -/

/-- Makes a call, and writes its record to all places of a sink. -/
def Output.call (o : Output) (s : Sink) (created : Double) (l : Logger) (bound : Fields)
    (level : Level) (template : Text) (args : List Datum) (arguments : Fields) :
    Except CallFault Output :=
  (Log.call l (s.isEnabled level) bound level template args none arguments).map fun record =>
    match record with
    | some r => o.emit s created bound r
    | none => o

/-- Let a sink have a single handler for a standard stream, in JSON, and let a call be made at a
level that both let through, at a time that can be written, with a message that can be filled in,
and with fields of which none steers the call. If a name is taken, the call is refused. Otherwise it
is not, and it writes one line of ASCII to the stream if `IsWritten` holds of the fields, and
nothing if it does not. -/
theorem fields_decide_the_call {s : Sink} {target : Target} {h : Handler} {created : Double}
    {time message template : Text} {args : List Datum} {level : Level} {arguments : Fields}
    (hstream : target.isStream = true) (honly : s.handlers.filter (·.target = target) = [h])
    (hjson : h.style = .json) (henabled : s.isEnabled level = true) (hlevel : h.level ≤ level)
    (htime : Timestamp.iso created = .ok time)
    (hmessage : Template.fill template args = .ok message) (hdistinct : arguments.Distinct)
    (hfields : ∀ a ∈ arguments, isSteering a.1 = false) (l : Logger) (bound : Fields)
    (o : Output) :
    (arguments.any (fun a => isTaken a.1) = true →
      ∃ f, o.call s created l bound level template args arguments = .error f) ∧
    (arguments.any (fun a => isTaken a.1) = false →
      ∃ o', o.call s created l bound level template args arguments = .ok o' ∧
        (IsWritten l bound arguments →
          ∃ t, t.AsciiLine ∧ o'.stream target = o.stream target ++ (t ++ Text.ofString "\n")) ∧
        (¬ IsWritten l bound arguments → o'.stream target = o.stream target)) := by
  have hcall := call_fields l bound level template args hdistinct hfields
  unfold Output.call
  rw [henabled]
  constructor
  · intro htaken
    rw [htaken, if_pos rfl] at hcall
    obtain ⟨f, hf⟩ := hcall
    rw [hf]
    exact ⟨f, rfl⟩
  · intro hfree
    rw [hfree, if_neg Bool.false_ne_true] at hcall
    rw [hcall]
    refine ⟨_, rfl, ?_⟩
    dsimp only
    have hoff : (fieldsRecord l bound level template args arguments).level = level := rfl
    -- only the one handler of the stream matters, and it lets the record through
    rw [Output.stream_emit hstream honly, hoff, henabled, if_pos rfl]
    unfold Handler.output Style.line
    rw [hoff, if_pos hlevel, hjson]
    dsimp only
    rcases jsonLine_fieldsRecord l bound level arguments htime hmessage with
      ⟨hwritten, t, ht, hline⟩ | ⟨hnot, f, hline⟩
    · rw [hline]
      dsimp only
      rw [Target.takes_of_asciiLine ht, if_pos rfl]
      exact ⟨fun _ => ⟨t, ht, rfl⟩, fun hlost => absurd hwritten hlost⟩
    · rw [hline]
      exact ⟨fun hwritten => absurd hwritten hnot, fun _ => List.append_nil _⟩

/-- A sink as the program sets it up for lines in JSON. -/
def lineSink : Sink := .configure Level.info true .standardOutput []

/-- A field with a name of its own is written, at the start of the epoch and inside a block. -/
theorem fields_decide_the_call_colour :
    IsWritten (.get "s" []) [("b", .int 2)] [("colour", .str "red")] ∧
    ∃ o' t, Output.call ⟨[], [], .bare⟩ lineSink .zero (.get "s" []) [("b", .int 2)] Level.info "m"
        [] [("colour", .str "red")] = .ok o' ∧
      t.AsciiLine ∧ o'.stream .standardOutput = t ++ Text.ofString "\n" := by
  obtain ⟨time, htime, -⟩ := Timestamp.iso_of_inYears Timestamp.inYears_zero
  have hwritten : IsWritten (.get "s" []) [("b", .int 2)] [("colour", .str "red")] := by
    refine ⟨nofun, fun name d hshown => ?_⟩
    unfold shownField? at hshown
    split at hshown
    · cases hshown
    rcases Option.or_eq_some_iff.mp hshown with hcontext | ⟨-, hfield⟩
    · have hmem := List.mem_singleton.mp (Named.mem_of_get? hcontext)
      cases hmem
      decide +kernel
    · split at hfield
      · have hmem := List.mem_singleton.mp (Named.mem_of_get? hfield)
        cases hmem
        rfl
      · cases hfield
  obtain ⟨-, hfree⟩ := @fields_decide_the_call lineSink .standardOutput
    ⟨.standardOutput, Level.info, .json⟩ .zero time "m" "m" [] Level.info [("colour", .str "red")]
    rfl rfl rfl (by decide) (by decide) htime rfl (by decide) (by decide) (.get "s" [])
    [("b", .int 2)] ⟨[], [], .bare⟩
  obtain ⟨o', hcall, hline, -⟩ := hfree (by decide)
  obtain ⟨t, ht, hstream⟩ := hline hwritten
  exact ⟨hwritten, o', t, hcall, ht, hstream⟩

/-- A call with a field that is called as something that records have is refused. One with a field
`context` that is a text is not, but nothing is written, and neither is an integer of 4301 digits.
None of these names steers a call. -/
theorem fields_lose_the_call :
    (∀ name ∈ [Text.ofString "name", Text.ofString "context", Text.ofString "n"],
      isSteering name = false) ∧
    Output.call ⟨[], [], .bare⟩ lineSink .zero (.get "s" []) [] Level.info "m" []
      [("name", .str "x")] = .error (.reservedName "name") ∧
    (∃ o', Output.call ⟨[], [], .bare⟩ lineSink .zero (.get "s" []) [] Level.info "m" []
      [("context", .str "kw")] = .ok o' ∧ o'.stream .standardOutput = []) ∧
    ∃ o', Output.call ⟨[], [], .bare⟩ lineSink .zero (.get "s" []) [] Level.info "m" []
      [("n", .int (Nat.pow 10 4300 : Nat))] = .ok o' ∧ o'.stream .standardOutput = [] :=
  ⟨by decide, rfl, ⟨_, rfl, by decide +kernel⟩, ⟨_, rfl, by decide +kernel⟩⟩

end JsonTap.Log
