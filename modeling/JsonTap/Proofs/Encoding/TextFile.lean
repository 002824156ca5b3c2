import JsonTap.Encoding.TextFile
import JsonTap.Proofs.Encoding.Parts

/-!
# Damage in text files

Decoding a file block by block meets damage exactly if its octets are not well-formed as a whole
(`damage_decode_eq_none_iff`): what a block leaves over of a character is read with the next block.
-/

namespace JsonTap

namespace Utf8

/-- Damage in the pieces of a run, or else at the end of the input. -/
theorem damage_append (n : Nat) (ps qs : List Piece) :
    ∃ m, (untilDamage n (ps ++ qs)).2 = (untilDamage n ps).2.or (untilDamage m qs).2 := by
  induction ps generalizing n with
  | nil => exact ⟨n, rfl⟩
  | cons piece ps ih =>
    cases piece with
    | char c => exact ih _
    | damaged bs r => exact ⟨0, rfl⟩

theorem mem_of_damage {n : Nat} {ps : List Piece} {u : Undecodable}
    (h : (untilDamage n ps).2 = some u) : .damaged u.octets u.reason ∈ ps := by
  induction ps generalizing n with
  | nil => cases h
  | cons piece ps ih =>
    cases piece with
    | char c => exact List.mem_cons_of_mem _ (ih h)
    | damaged bs r =>
      cases h
      exact List.mem_cons_self

/-- How decoding some octets ends: without damage between characters, with the octets of a character
that is cut off, or with damage whatever follows. -/
inductive Decoded (bs : List Octet) : Option Undecodable → Prop
  | whole : (run .between bs).2 = .between → (∀ piece ∈ (run .between bs).1, piece.isChar = true) →
      Decoded bs none
  | cut {p : Pending} {start : Nat} : (run .between bs).2 = .inside p →
      (∀ piece ∈ (run .between bs).1, piece.isChar = true) →
      Decoded bs (some ⟨p.seen, start, .unexpectedEnd⟩)
  | broken {u : Undecodable} : u.reason ≠ .unexpectedEnd →
      .damaged u.octets u.reason ∈ (run .between bs).1 → Decoded bs (some u)

theorem decoded (bs : List Octet) : Decoded bs (untilDamage 0 (pieces bs)).2 := by
  obtain ⟨m, hm⟩ := damage_append 0 (run .between bs).1 (finish (run .between bs).2)
  show Decoded bs (untilDamage 0 ((run .between bs).1 ++ finish (run .between bs).2)).2
  rw [hm]
  cases hrun : (untilDamage 0 (run .between bs).1).2 with
  | some u =>
    have hmem := mem_of_damage hrun
    exact .broken (reason_of_mem_run hmem) hmem
  | none =>
    have hchars := untilDamage_eq_none_iff.mp hrun
    cases hstate : (run .between bs).2 with
    | between => exact .whole hstate hchars
    | inside p => exact .cut hstate hchars

end Utf8

namespace TextFile

open Utf8 (Decoded WellFormed pieces)

/-- Characters in front change nothing. -/
theorem wellFormed_iff_of_pieces {xs ys : List Octet} {front : List Utf8.Piece}
    (hpieces : pieces xs = front ++ pieces ys) (h : ∀ piece ∈ front, piece.isChar = true) :
    WellFormed xs ↔ WellFormed ys := by
  rw [Utf8.wellFormed_iff_pieces, Utf8.wellFormed_iff_pieces, hpieces, List.forall_mem_append]
  exact and_iff_right h

theorem damage_decodeBlocks_eq_none_iff {fuel : Nat} {carry rest : List Octet}
    (hfuel : rest.length < fuel) :
    (decodeBlocks fuel carry rest).2 = none ↔ WellFormed (carry ++ rest) := by
  induction fuel generalizing carry rest with
  | zero => omega
  | succ fuel ih =>
    unfold decodeBlocks
    by_cases hempty : rest = []
    · rw [hempty, List.append_nil]
      exact Utf8.untilDamage_pieces_eq_none_iff
    have hless : (rest.drop blockSize).length < fuel := by
      have hpos := List.length_pos_iff.mpr hempty
      rw [List.length_drop, blockSize]
      omega
    have hparts : carry ++ rest = (carry ++ rest.take blockSize) ++ rest.drop blockSize := by
      rw [List.append_assoc, List.take_append_drop]
    rw [if_neg (by simpa using hempty), hparts]
    have hdecoded := Utf8.decoded (carry ++ rest.take blockSize)
    generalize Utf8.untilDamage 0 (pieces (carry ++ rest.take blockSize)) = block at hdecoded
    obtain ⟨t, damage⟩ := block
    cases hdecoded with
    | whole hstate hchars =>
      show (decodeBlocks fuel [] (rest.drop blockSize)).2 = none ↔ _
      rw [ih hless, wellFormed_iff_of_pieces (Utf8.pieces_of_between hstate _) hchars]
      rfl
    | cut hstate hchars =>
      -- the octets of the character that is cut off are carried into the next block
      show (decodeBlocks fuel _ (rest.drop blockSize)).2 = none ↔ _
      rw [ih hless, wellFormed_iff_of_pieces (Utf8.pieces_of_inside hstate _) hchars]
    | @broken u hreason hmem =>
      dsimp only
      rw [if_neg hreason, Utf8.wellFormed_iff_pieces, Utf8.pieces_append]
      refine iff_of_false nofun fun h => ?_
      have hchar := h _ (List.mem_append_left _ hmem)
      cases hchar

/-- Decoding meets damage exactly in octets that are not well-formed. -/
theorem damage_decode_eq_none_iff {bs : List Octet} : (decode bs).2 = none ↔ WellFormed bs := by
  rw [decode, damage_decodeBlocks_eq_none_iff (Nat.lt_succ_self _)]
  rfl

theorem damage_lines_eq_none_iff {bs : List Octet} : (lines bs).2 = none ↔ WellFormed bs := by
  rw [← damage_decode_eq_none_iff]
  unfold lines
  cases decode bs with
  | mk t damage => cases damage <;> simp

end TextFile

end JsonTap
