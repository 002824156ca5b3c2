import JsonTap.Log.Line
import JsonTap.Proofs.Datum.Json
import JsonTap.Proofs.Log.Timestamp
import JsonTap.Proofs.Named

/-!
# JSON lines of records

A record with a finished message that is bound to texts at most is written as one line of ASCII,
which reads back as an object with the record's own entries and what it is bound to
(`jsonLine_said`). The names that it is bound to must be other names than those of its own entries,
for these would win.
-/

namespace JsonTap

open Utf8

/-! ## Fields that are texts -/

def Fields.ofTexts (fs : List (Text × Text)) : Fields := fs.map fun f => (f.1, .str f.2)

def Json.Value.ofTexts (fs : List (Text × Text)) : Json.Value :=
  .obj (fs.map fun f => (f.1, .str f.2))

/-- Fields that are texts become members that are strings. -/
theorem Datum.toJson_ofTexts (fs : List (Text × Text)) :
    (Datum.map (Fields.ofTexts fs)).toJson = Json.Value.ofTexts fs := by
  rw [Datum.toJson_map]
  unfold Fields.ofTexts Json.Value.ofTexts
  rw [List.map_map]
  rfl

theorem Datum.anyEntryLong_ofTexts (fs : List (Text × Text)) :
    Datum.anyEntryLong (Fields.ofTexts fs) = false := by
  induction fs with
  | nil => rfl
  | cons f fs ih => exact ih

/-- Members with different names are a strict value. -/
theorem Json.Value.strict_ofTexts {fs : List (Text × Text)} (h : (fs.map (·.1)).Nodup) :
    (Json.Value.ofTexts fs).Strict := by
  apply Json.Value.MembersStrict.of_nodup
  · rw [List.map_map]
    exact h
  · intro m hm
    obtain ⟨f, -, rfl⟩ := List.mem_map.mp hm
    exact trivial

/-- What holds of the names and texts holds of the value. -/
theorem Json.Value.texts_ofTexts {p : Text → Prop} {fs : List (Text × Text)}
    (h : ∀ f ∈ fs, p f.1 ∧ p f.2) : (Json.Value.ofTexts fs).Texts p := by
  show Json.Value.MemberTexts p _
  induction fs with
  | nil => exact trivial
  | cons f fs ih =>
      obtain ⟨hf, hfs⟩ := List.forall_mem_cons.mp h
      exact ⟨hf.1, hf.2, ih hfs⟩

namespace Log

/-! ## Records -/

/-- A record with a finished message, bound to some texts. -/
def said (level : Level) (logger message : Text) (bound : List (Text × Text)) : Record :=
  { Record.note level logger message [] with
    context := if bound.isEmpty then .null else .map (Fields.ofTexts bound) }

/-- What the line of such a record tells. -/
def lineTexts (time : Text) (level : Level) (logger message : Text) (bound : List (Text × Text)) :
    List (Text × Text) :=
  ("ts", time) :: ("level", level.name) :: ("logger", logger) :: ("message", message) ::
    ("service", service) :: bound

def ownEntryNames : List Text := ["ts", "level", "logger", "message", "service"]

/-- The context of what is said is what is bound. -/
theorem contextFields_said (level : Level) (logger message : Text) (bound : List (Text × Text)) :
    contextFields [] (said level logger message bound) = .ok (Fields.ofTexts bound) := by
  cases bound with
  | nil => rfl
  | cons b bound => rfl

/-- The entries of a line are texts, if no bound name repeats another. -/
theorem entries_said (time : Text) (level : Level) (logger message : Text)
    {bound : List (Text × Text)} (h : (ownEntryNames ++ bound.map (·.1)).Nodup) :
    entries time message (Fields.ofTexts bound) (said level logger message bound) =
      Fields.ofTexts (lineTexts time level logger message bound) := by
  have hfill : (ownEntries time message (said level logger message bound)).fill
      (Fields.ofTexts bound) = Fields.ofTexts (lineTexts time level logger message bound) := by
    rw [Named.fill_of_nodup]
    · rfl
    · unfold Fields.ofTexts
      rw [List.map_map]
      exact h
  show Named.fill (Named.fill _ _) [] = _
  rw [hfill]
  rfl

/-- A record with a time, a message and a context has a line unless an integer is too long. -/
theorem jsonLine_of_parts {created : Double} {bound : Fields} {r : Record} {time message : Text}
    {context : Fields} (htime : Timestamp.iso created = .ok time)
    (hmessage : r.message = .ok message) (hcontext : contextFields bound r = .ok context) :
    jsonLine created bound r =
      if Datum.anyEntryLong (entries time message context r) then .error .longInteger
      else .ok (Datum.map (entries time message context r)).toJson.line := by
  unfold jsonLine
  rw [htime, hmessage, hcontext]
  rfl

/-- The line of what is said, in full. -/
theorem jsonLine_eq {created : Double} {time : Text} (htime : Timestamp.iso created = .ok time)
    (level : Level) (logger message : Text) {bound : List (Text × Text)}
    (h : (ownEntryNames ++ bound.map (·.1)).Nodup) :
    jsonLine created [] (said level logger message bound) =
      .ok (Json.Value.ofTexts (lineTexts time level logger message bound)).line := by
  have hmessage : (said level logger message bound).message = .ok message := rfl
  rw [jsonLine_of_parts htime hmessage (contextFields_said level logger message bound),
    entries_said time level logger message h, Datum.anyEntryLong_ofTexts,
    if_neg Bool.false_ne_true, Datum.toJson_ofTexts]

theorem asciiLine_levelName (level : Level) : level.name.AsciiLine := by
  unfold Level.name
  split
  · next n l hfind =>
      have hmem := List.mem_of_find?_eq_some hfind
      simp only [Level.names, List.mem_cons, Prod.mk.injEq, List.not_mem_nil, or_false] at hmem
      rcases hmem with h | h | h | h | h | h | h | h <;> rw [h.1] <;>
        exact Text.asciiLine_ofString (by decide)
  · exact Text.asciiLine_append.mpr
      ⟨Text.asciiLine_ofString (by decide), Json.asciiLine_ofInt level⟩

theorem encodable_levelName (level : Level) : Encodable level.name :=
  (asciiLine_levelName level).encodable

/-- A record that is bound to other names than those of its own entries has a line of ASCII, which
reads back as these entries and what it is bound to. -/
theorem jsonLine_said {created : Double} (htime : Timestamp.InYears created) (level : Level)
    {logger message : Text} {bound : List (Text × Text)} (hlogger : Encodable logger)
    (hmessage : Unpaired message) (hnames : (ownEntryNames ++ bound.map (·.1)).Nodup)
    (hbound : ∀ b ∈ bound, Encodable b.1 ∧ Encodable b.2) :
    ∃ t time, jsonLine created [] (said level logger message bound) = .ok t ∧ t.AsciiLine ∧
      Payload.parse t = .ok (.ofTexts (lineTexts time level logger message bound)) := by
  obtain ⟨time, hiso, hchars⟩ := Timestamp.iso_of_inYears htime
  have hstrict : (Json.Value.ofTexts (lineTexts time level logger message bound)).Strict :=
    Json.Value.strict_ofTexts hnames
  have hword : ∀ s : String, Unpaired (Text.ofString s) :=
    fun s => unpaired_of_encodable (encodable_ofString s)
  have htexts :
      (Json.Value.ofTexts (lineTexts time level logger message bound)).Texts Unpaired := by
    apply Json.Value.texts_ofTexts
    unfold lineTexts
    simp only [List.forall_mem_cons]
    refine ⟨⟨hword _, unpaired_of_encodable hchars⟩,
      ⟨hword _, unpaired_of_encodable (encodable_levelName level)⟩,
      ⟨hword _, unpaired_of_encodable hlogger⟩, ⟨hword _, hmessage⟩, ⟨hword _, hword _⟩, ?_⟩
    intro b hb
    obtain ⟨hname, htext⟩ := hbound b hb
    exact ⟨unpaired_of_encodable hname, unpaired_of_encodable htext⟩
  exact ⟨_, time, jsonLine_eq hiso level logger message hnames,
    Json.Value.asciiLine_line _, Payload.parse_line hstrict htexts⟩

end Log

end JsonTap
