import JsonTap.Payload
import JsonTap.Proofs.Encoding.Replacement

/-!
# Texts of payloads

A text is read back from its octets, in whatever chunks they come, and octets are read as a text
that stands for them exactly if they are well-formed (`reads_what_was_encoded`). Damage changes
nothing but itself (`damage_stays_local`).
-/

namespace JsonTap.Payload

open Utf8

theorem encodeStrict_of_encodable {t : Text} (h : Encodable t) :
    encodeStrict t = .ok (encode t) := by
  rw [encodeStrict, unencodable?_eq_none_iff.mpr h]

theorem text_of_flatten {chunks : List (List Octet)} {bs : List Octet} (h : chunks.flatten = bs) :
    text chunks = decode bs := congrArg decode h

/-- Octets are well-formed exactly if what is decoded has them as its encoding. -/
theorem encode_decode_iff {bs : List Octet} : encode (decode bs) = bs ↔ WellFormed bs := by
  constructor
  · intro h
    exact ⟨decode bs, encodable_decode bs, h⟩
  · rintro ⟨t, ht, rfl⟩
    rw [decode_encode ht]

/-- **What is encoded is read back.** A text without surrogates can be encoded, and is read from its
octets in whatever chunks they come. What is read from any octets has no surrogates, and its
encoding is these octets exactly if they can be cut into sequences of the table. -/
theorem reads_what_was_encoded :
    (∀ t : Text, Encodable t → encodeStrict t = .ok (encode t) ∧
      ∀ chunks : List (List Octet), chunks.flatten = encode t → text chunks = t) ∧
      (∀ bs : List Octet, Encodable (decode bs)) ∧
      ∀ bs : List Octet,
        (∃ parts : List (List Octet), (∀ s ∈ parts, Sequence s) ∧ parts.flatten = bs) ↔
          encodeStrict (decode bs) = .ok bs := by
  refine ⟨?_, encodable_decode, ?_⟩
  · intro t ht
    refine ⟨encodeStrict_of_encodable ht, ?_⟩
    intro chunks hchunks
    rw [text_of_flatten hchunks, decode_encode ht]
  · intro bs
    rw [← wellFormed_iff_sequences, ← encode_decode_iff,
      encodeStrict_of_encodable (encodable_decode bs), Except.ok.injEq]

/-- A letter and a pictograph, cut inside both of them. -/
theorem reads_what_was_encoded_split :
    Encodable "é😀" ∧ encodeStrict "é😀" = .ok [0xC3, 0xA9, 0xF0, 0x9F, 0x98, 0x80] ∧
      text [[0xC3], [0xA9, 0xF0, 0x9F], [], [0x98, 0x80]] = "é😀" := by
  have hencodable : Encodable "é😀" := encodable_ofString "é😀"
  have hencode : encode "é😀" = [0xC3, 0xA9, 0xF0, 0x9F, 0x98, 0x80] := by decide
  obtain ⟨hstrict, hread⟩ := reads_what_was_encoded.1 "é😀" hencodable
  exact ⟨hencodable, hencode ▸ hstrict, hread _ hencode.symm⟩

/-- **Damage stays where it is.** Where octets begin anew, the text is cut there too. The characters
of ASCII are those of the octets, in their order. The text is the only one that has the code point
of each sequence, and one replacement character for each stretch of damage, which has one to three
octets. -/
theorem damage_stays_local :
    (∀ (as bs : List Octet) (chunks : List (List Octet)), chunks.flatten = as ++ bs →
      (bs = [] ∨ ∃ b rest, bs = b :: rest ∧ ¬ Trails b) → text chunks = decode as ++ decode bs) ∧
      (∀ bs : List Octet,
        (decode bs).filter (·.val < 0x80) = (bs.filter (·.val < 0x80)).map Text.ofOctet) ∧
      (∀ (bs : List Octet) (t : Text), Replaced bs t ↔ decode bs = t) ∧
      ∀ part rest : List Octet, Stretch part rest →
        1 ≤ part.length ∧ part.length ≤ 3 ∧
          decode (part ++ rest) = CodePoint.replacement :: decode rest := by
  refine ⟨?_, filter_ascii_decode, fun _ _ => replaced_iff, ?_⟩
  · intro as bs chunks hchunks hbs
    rw [text_of_flatten hchunks]
    apply decode_append
    rcases hbs with rfl | ⟨b, rest, rfl, hb⟩
    · nofun
    · simpa using hb
  · intro part rest h
    refine ⟨List.length_pos_iff.mpr h.nonempty, h.length_le, ?_⟩
    exact replaced_iff.mp (.damage h (replaced_iff.mpr rfl))

/-- A character that is cut off before a quotation mark: its two octets are one stretch, and the
mark stays. -/
theorem damage_stays_local_quote :
    ¬ Trails 0x22 ∧ text [[0x22, 0xE2], [0x82, 0x22]] = decode [0x22, 0xE2, 0x82] ++ decode [0x22] ∧
      Stretch [0xE2, 0x82] [0x22] ∧
      decode [0xE2, 0x82, 0x22] = CodePoint.replacement :: decode [0x22] := by
  have hquote : ¬ Trails 0x22 := by decide
  have hrow : (⟨0xE1, 0xEC, 0x80, 0xBF, 1⟩ : Row) ∈ rows := by simp [rows]
  have hbegun := tabled_row hrow (a := 0xE2) (by decide) (by decide) 2
  have hstretch : Stretch [0xE2, 0x82] [0x22] := by
    apply (hbegun.next (b := 0x82) (by decide) (by decide)).stretch
    intro b hb
    cases hb
    exact hquote
  obtain ⟨hcut, -, -, hreplaced⟩ := damage_stays_local
  refine ⟨hquote, ?_, hstretch, (hreplaced _ _ hstretch).2.2⟩
  exact hcut [0x22, 0xE2, 0x82] [0x22] _ rfl (.inr ⟨0x22, [], rfl, hquote⟩)

end JsonTap.Payload
