import JsonTap.Proofs.Log.Line

/-!
# What a JSON line tells

Four kinds of entries meet on a JSON line: the record's own, the one about an exception, the fields
of the context, and the further fields. `entryFor?` says which of them has a name, and the object
that is read back from the line has exactly these entries (`json_line_has_its_entries`).

There is an entry about an exception whenever the record is made with the argument for one, even if
no exception was at hand (`json_line_without_exception`).
-/

namespace JsonTap.Log

open Utf8

/-! ## Entries by name -/

/-- The context that a record is written with: its own if that holds something, otherwise what is
bound. -/
def shownContext (bound : Fields) (r : Record) : Fields :=
  match r.context with
  | .map (e :: es) => e :: es
  | _ => bound

/-- The entry of a name. The record's own entries win, then the one about an exception, then the
context, and a further field is shown if none of them has its name. -/
def entryFor? (time message : Text) (context : Fields) (r : Record) (name : Text) :
    Option Datum :=
  ((ownEntries time message r).get? name).or
    ((if name = "error" then r.raised.map raisedEntry else none).or
      ((context.get? name).or (if isShown name then r.extra.get? name else none)))

theorem get?_ownEntries_error (time message : Text) (r : Record) :
    (ownEntries time message r).get? "error" = none := by
  rfl

/-- An entry is looked up in the layers of the line, one after the other. -/
theorem get?_entries (time message : Text) (context : Fields) (r : Record) (name : Text) :
    (entries time message context r).get? name = entryFor? time message context r name := by
  have hbase : Named.get? (((ownEntries time message r).fill context).fill
      (r.extra.filter fun f => isShown f.1)) name =
        ((ownEntries time message r).get? name).or
          ((context.get? name).or (if isShown name then r.extra.get? name else none)) := by
    rw [Named.get?_fill, Named.get?_fill, Named.get?_filter, Option.or_assoc]
  unfold entries entryFor?
  dsimp only
  cases r.raised with
  | none =>
      rw [hbase, Option.map_none, ite_self, Option.none_or]
  | some x =>
      dsimp only
      rw [Named.get?_put]
      by_cases hname : name = "error"
      · -- none of the record's own entries has this name
        rw [if_pos hname, if_pos hname, hname, get?_ownEntries_error]
        rfl
      · rw [if_neg hname, if_neg hname]
        exact hbase

theorem distinct_ownEntries (time message : Text) (r : Record) :
    (ownEntries time message r).Distinct := by
  show ownEntryNames.Nodup
  decide

/-- No entry repeats. -/
theorem distinct_entries (time message : Text) (context : Fields) (r : Record) :
    (entries time message context r).Distinct := by
  have hbase := ((distinct_ownEntries time message r).fill context).fill
    (r.extra.filter fun f => isShown f.1)
  unfold entries
  cases r.raised with
  | none => exact hbase
  | some x => exact hbase.put _ _

/-! ## Records that are told in full -/

/-- All that a line takes from a record with a finished message, and from what is bound, can be
told: texts without surrogates, and data that are plain. The context is a map or missing. -/
structure Tellable (bound : Fields) (message : Text) (r : Record) : Prop where
  finished : r.message = .ok message
  text : Encodable message
  logger : Encodable r.logger
  contextKind : r.context = .null ∨ ∃ es, r.context = .map es
  context : r.context.Plain
  bound : Datum.EntriesPlain bound
  extra : Datum.EntriesPlain r.extra
  raised : ∀ x ∈ r.raised, Encodable x.name ∧ Encodable x.message ∧ Encodable x.report

/-- The context of a record that can be told is shown. -/
theorem Tellable.contextFields {bound : Fields} {message : Text} {r : Record}
    (h : Tellable bound message r) : contextFields bound r = .ok (shownContext bound r) := by
  unfold Log.contextFields shownContext
  rcases h.contextKind with hnull | ⟨es, hmap⟩
  · rw [hnull]
    rfl
  · rw [hmap]
    cases es with
    | nil => rfl
    | cons e es => rfl

theorem Tellable.shownContext {bound : Fields} {message : Text} {r : Record}
    (h : Tellable bound message r) : Datum.EntriesPlain (shownContext bound r) := by
  have hcontext := h.context
  unfold Log.shownContext
  split
  · next hmap =>
      rw [hmap] at hcontext
      exact hcontext.2
  · exact h.bound

/-- An exception with texts that can be written is a plain entry. -/
theorem plain_raisedEntry {x : Raised}
    (h : Encodable x.name ∧ Encodable x.message ∧ Encodable x.report) :
    (raisedEntry x).Plain := by
  obtain ⟨hname, hmessage, hreport⟩ := h
  have hstrip : Encodable (Unicode.strip x.report) :=
    hreport.of_subset (Text.trim_subset _ _)
  have hnames : [Text.ofString "type", Text.ofString "message", Text.ofString "stack"].Nodup := by
    decide
  exact ⟨hnames, encodable_ofString _, hname, encodable_ofString _, hmessage,
    encodable_ofString _, hstrip, trivial⟩

/-- The entries of its own of a record that can be told are plain. -/
theorem Tellable.ownEntries {bound : Fields} {message : Text} {r : Record}
    (h : Tellable bound message r) {time : Text} (htime : Encodable time) :
    Datum.EntriesPlain (ownEntries time message r) :=
  ⟨encodable_ofString _, htime, encodable_ofString _, encodable_levelName r.level,
    encodable_ofString _, h.logger, encodable_ofString _, h.text, encodable_ofString _,
    encodable_ofString _, trivial⟩

/-- Every entry that is told has a name and a value that can be. -/
theorem Tellable.plain_entries {bound : Fields} {message : Text} {r : Record}
    (h : Tellable bound message r) {time : Text} (htime : Encodable time) :
    Datum.EntriesPlain (entries time message (Log.shownContext bound r) r) := by
  apply Datum.entriesPlain_iff.mpr
  rintro ⟨name, d⟩ hmem
  have hfound := (distinct_entries time message _ r).get?_eq_some_iff.mpr hmem
  rw [get?_entries] at hfound
  rcases Option.or_eq_some_iff.mp hfound with hown | ⟨-, hfound⟩
  · exact Datum.entriesPlain_iff.mp (h.ownEntries htime) _ (Named.mem_of_get? hown)
  rcases Option.or_eq_some_iff.mp hfound with herror | ⟨-, hfound⟩
  · split at herror
    · next hname =>
        obtain ⟨x, hx, rfl⟩ := Option.map_eq_some_iff.mp herror
        exact ⟨hname ▸ encodable_ofString _, plain_raisedEntry (h.raised x hx)⟩
    · cases herror
  rcases Option.or_eq_some_iff.mp hfound with hcontext | ⟨-, hextra⟩
  · exact Datum.entriesPlain_iff.mp h.shownContext _ (Named.mem_of_get? hcontext)
  · split at hextra
    · exact Datum.entriesPlain_iff.mp h.extra _ (Named.mem_of_get? hextra)
    · cases hextra

/-- Such a record is written as an object that has exactly its entries. -/
theorem Tellable.jsonLine {bound : Fields} {message : Text} {r : Record}
    (h : Tellable bound message r) {created : Double} {time : Text}
    (htime : Timestamp.iso created = .ok time) :
    ∃ (t : Text) (members : Named Json.Value), Log.jsonLine created bound r = .ok t ∧
      t.AsciiLine ∧ Payload.parse t = .ok (.obj members) ∧ members.Distinct ∧
      ∀ name, members.get? name =
        (entryFor? time message (Log.shownContext bound r) r name).map Datum.toJson := by
  have hplain := h.plain_entries (Timestamp.encodable_iso htime)
  have hdistinct := distinct_entries time message (Log.shownContext bound r) r
  have hmap : (Datum.map (entries time message (Log.shownContext bound r) r)).Plain :=
    ⟨hdistinct, hplain⟩
  have hline := jsonLine_of_parts htime h.finished h.contextFields
  rw [hplain.anyEntryLong, if_neg Bool.false_ne_true] at hline
  have hparse := hmap.parse_line
  rw [Datum.toJson_map] at hline hparse
  refine ⟨_, _, hline, Json.Value.asciiLine_line _, hparse, ?_, ?_⟩
  · show (List.map _ _).Nodup
    rw [List.map_map]
    exact hdistinct
  · intro name
    rw [Named.get?_map_values fun _ => Datum.toJson, get?_entries]

end JsonTap.Log
