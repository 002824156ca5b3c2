import JsonTap.Datum.Text
import JsonTap.Proofs.Json.RoundTrip
import JsonTap.Proofs.Json.Line
import JsonTap.Proofs.Named

/-!
# Data as JSON values

On a JSON line every datum becomes a value: tuples become arrays, and octets become their quoted
form (`Datum.toJson_tuple`, `Datum.toJson_octets`). Of a `Datum.Plain` one this value is strict and
has no surrogates, so that it is read back from the line as it is.
-/

namespace JsonTap

/-! ## Octets between quotes -/

namespace Text

/-- An octet in quotes is written in printable ASCII. -/
theorem asciiLine_quotedOctet {mark : CodePoint} (hm : 0x20 ≤ mark.val ∧ mark.val < 0x7F)
    (b : Octet) : (quotedOctet mark b).AsciiLine := by
  have hbackslash : 0x20 ≤ (CodePoint.ofChar '\\').val ∧ (CodePoint.ofChar '\\').val < 0x7F :=
    asciiLine_char (by decide)
  have hval : (ofOctet b).val = b.val := rfl
  unfold quotedOctet
  dsimp only
  split
  · next hmark =>
      have hc : 0x20 ≤ (ofOctet b).val ∧ (ofOctet b).val < 0x7F := by
        rcases Bool.or_eq_true_iff.mp hmark with h | h
        · rw [of_decide_eq_true h]
          exact hm
        · rw [of_decide_eq_true h]
          exact hbackslash
      exact asciiLine_cons.mpr ⟨hbackslash, List.forall_mem_singleton.mpr hc⟩
  -- the two line ends and the tab have escapes of their own
  iterate 3
    split
    · exact asciiLine_ofString (by decide)
  split
  · exact asciiLine_cons.mpr ⟨hbackslash,
      asciiLine_cons.mpr ⟨asciiLine_char (by decide), asciiLine_hex 2 b.val⟩⟩
  · next hcontrol =>
      have hc : 0x20 ≤ (ofOctet b).val ∧ (ofOctet b).val < 0x7F := by
        simp only [Bool.or_eq_true, decide_eq_true_eq, not_or] at hcontrol
        rw [hval]
        omega
      exact List.forall_mem_singleton.mpr hc

theorem asciiLine_quotedOctets (bs : List Octet) : (quotedOctets bs).AsciiLine := by
  have hm : 0x20 ≤ (quoteMark (latin1 bs)).val ∧ (quoteMark (latin1 bs)).val < 0x7F := by
    unfold quoteMark
    split <;> decide
  unfold quotedOctets
  refine asciiLine_cons.mpr ⟨asciiLine_char (by decide), asciiLine_cons.mpr ⟨hm,
    asciiLine_append.mpr ⟨?_, List.forall_mem_singleton.mpr hm⟩⟩⟩
  intro c hc
  obtain ⟨b, -, hcb⟩ := List.mem_flatMap.mp hc
  exact asciiLine_quotedOctet hm b c hcb

end Text

namespace Datum

/-! ## Every datum becomes a value -/

mutual

/-- Where octets become text, every datum is a JSON value. -/
theorem toJsonWith_octetsAsText (d : Datum) : d.toJsonWith octetsAsText = some d.toJson := by
  unfold toJson
  cases d with
  | list ds => rw [toJsonWith, listToJson_octetsAsText ds]; rfl
  | tuple ds => rw [toJsonWith, listToJson_octetsAsText ds]; rfl
  | map es => rw [toJsonWith, entriesToJson_octetsAsText es]; rfl
  | _ => rfl

theorem listToJson_octetsAsText (ds : List Datum) :
    listToJson octetsAsText ds = some (ds.map toJson) := by
  cases ds with
  | nil => rfl
  | cons d ds =>
      rw [listToJson, toJsonWith_octetsAsText d, listToJson_octetsAsText ds]
      rfl

theorem entriesToJson_octetsAsText (es : List (Text × Datum)) :
    entriesToJson octetsAsText es = some (es.map fun e => (e.1, e.2.toJson)) := by
  cases es with
  | nil => rfl
  | cons e es =>
      rw [entriesToJson, toJsonWith_octetsAsText e.2, entriesToJson_octetsAsText es]
      rfl

end

theorem toJson_list (ds : List Datum) : toJson (.list ds) = .arr (ds.map toJson) := by
  unfold toJson
  rw [toJsonWith, listToJson_octetsAsText]
  rfl

theorem toJson_tuple (ds : List Datum) : toJson (.tuple ds) = .arr (ds.map toJson) := by
  unfold toJson
  rw [toJsonWith, listToJson_octetsAsText]
  rfl

theorem toJson_map (es : List (Text × Datum)) :
    toJson (.map es) = .obj (es.map fun e => (e.1, e.2.toJson)) := by
  unfold toJson
  rw [toJsonWith, entriesToJson_octetsAsText]
  rfl

/-- An entry is too long exactly if its value is. -/
theorem anyEntryLong_eq (es : List (Text × Datum)) :
    anyEntryLong es = es.any (·.2.hasLongInteger) := by
  induction es with
  | nil => rfl
  | cons e es ih => rw [anyEntryLong, List.any_cons, ih]

/-! ## Data that are told in full -/

mutual

/-- No integer is too long, all numbers are finite, no map has a key twice, and no text has
surrogates. -/
def Plain : Datum → Prop
  | .int n => isLong n = false
  | .num x => x.isFinite = true
  | .str t => Utf8.Encodable t
  | .list ds => ItemsPlain ds
  | .tuple ds => ItemsPlain ds
  | .map es => Named.Distinct es ∧ EntriesPlain es
  | _ => True

def ItemsPlain : List Datum → Prop
  | [] => True
  | d :: ds => d.Plain ∧ ItemsPlain ds

def EntriesPlain : List (Text × Datum) → Prop
  | [] => True
  | (k, d) :: es => Utf8.Encodable k ∧ d.Plain ∧ EntriesPlain es

end

/-- Entries are plain exactly if each of them is. -/
theorem entriesPlain_iff {es : List (Text × Datum)} :
    EntriesPlain es ↔ ∀ e ∈ es, Utf8.Encodable e.1 ∧ e.2.Plain := by
  induction es with
  | nil => simp [EntriesPlain]
  | cons e es ih => rw [EntriesPlain, List.forall_mem_cons, ih, and_assoc]

mutual

/-- No integer in a plain datum is too long. -/
theorem Plain.hasLongInteger {d : Datum} (h : d.Plain) : d.hasLongInteger = false := by
  cases d with
  | int n => exact h
  | list ds => exact ItemsPlain.anyLong h
  | tuple ds => exact ItemsPlain.anyLong h
  | map es => exact EntriesPlain.anyEntryLong h.2
  | _ => rfl

theorem ItemsPlain.anyLong {ds : List Datum} (h : ItemsPlain ds) : anyLong ds = false := by
  cases ds with
  | nil => rfl
  | cons d ds =>
      rw [Datum.anyLong, Plain.hasLongInteger h.1, ItemsPlain.anyLong h.2]
      rfl

theorem EntriesPlain.anyEntryLong {es : List (Text × Datum)} (h : EntriesPlain es) :
    anyEntryLong es = false := by
  cases es with
  | nil => rfl
  | cons e es =>
      rw [Datum.anyEntryLong, Plain.hasLongInteger h.2.1, EntriesPlain.anyEntryLong h.2.2]
      rfl

end

mutual

/-- A plain datum is a strict value. -/
theorem Plain.strict {d : Datum} (h : d.Plain) : d.toJson.Strict := by
  cases d with
  | num x => exact h
  | list ds =>
      rw [toJson_list]
      exact ItemsPlain.strict h
  | tuple ds =>
      rw [toJson_tuple]
      exact ItemsPlain.strict h
  | map es =>
      rw [toJson_map]
      refine Json.Value.MembersStrict.of_nodup ?_ (EntriesPlain.strict h.2)
      rw [List.map_map]
      exact h.1
  | _ => exact trivial

theorem ItemsPlain.strict {ds : List Datum} (h : ItemsPlain ds) :
    Json.Value.AllStrict (ds.map toJson) := by
  cases ds with
  | nil => exact trivial
  | cons d ds => exact ⟨Plain.strict h.1, ItemsPlain.strict h.2⟩

theorem EntriesPlain.strict {es : List (Text × Datum)} (h : EntriesPlain es) :
    ∀ m ∈ es.map fun e => (e.1, e.2.toJson), m.2.Strict := by
  cases es with
  | nil => exact List.forall_mem_nil _
  | cons e es => exact List.forall_mem_cons.mpr ⟨Plain.strict h.2.1, EntriesPlain.strict h.2.2⟩

end

mutual

/-- All texts of a plain datum can be written. -/
theorem Plain.texts {d : Datum} (h : d.Plain) : d.toJson.Texts Utf8.Encodable := by
  cases d with
  | str t => exact h
  | list ds =>
      rw [toJson_list]
      exact ItemsPlain.texts h
  | tuple ds =>
      rw [toJson_tuple]
      exact ItemsPlain.texts h
  | map es =>
      rw [toJson_map]
      exact EntriesPlain.texts h.2
  | octets bs => exact (Text.asciiLine_quotedOctets bs).encodable
  | _ => exact trivial

theorem ItemsPlain.texts {ds : List Datum} (h : ItemsPlain ds) :
    Json.Value.ItemTexts Utf8.Encodable (ds.map toJson) := by
  cases ds with
  | nil => exact trivial
  | cons d ds => exact ⟨Plain.texts h.1, ItemsPlain.texts h.2⟩

theorem EntriesPlain.texts {es : List (Text × Datum)} (h : EntriesPlain es) :
    Json.Value.MemberTexts Utf8.Encodable (es.map fun e => (e.1, e.2.toJson)) := by
  cases es with
  | nil => exact trivial
  | cons e es => exact ⟨h.1, Plain.texts h.2.1, EntriesPlain.texts h.2.2⟩

end

/-- The line of such a datum is read back as its value. -/
theorem Plain.parse_line {d : Datum} (h : d.Plain) : Payload.parse d.toJson.line = .ok d.toJson :=
  Payload.parse_line h.strict (h.texts.imp fun _ => unpaired_of_encodable)

end Datum

end JsonTap
