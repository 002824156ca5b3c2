import JsonTap.Proofs.Encoding.Decoded
import JsonTap.Proofs.Encoding.RoundTrip

/-!
# Well-formed octets

Octets are well-formed if they are the UTF-8 of a text. The reader loses none of them: its pieces
and what it has seen of the next character make up the input again (`octets_run`). So octets are
well-formed exactly if all their pieces are characters (`wellFormed_iff_pieces`), which is when
strict decoding meets no damage (`untilDamage_pieces_eq_none_iff`).
-/

namespace JsonTap.Utf8

/-- The octets are the UTF-8 of a text. -/
def WellFormed (bs : List Octet) : Prop := ∃ t, Encodable t ∧ encode t = bs

/-! ## The octets of a piece -/

def Piece.octets : Piece → List Octet
  | .char c => encodeCodePoint c
  | .damaged bs _ => bs

/-- The octets of a character that has been begun. -/
def State.seen : State → List Octet
  | .between => []
  | .inside p => p.seen

/-- The last `n` octets of the encoding of a number, if it is a long one. -/
def lastOctets (value : Nat) : Nat → List Octet
  | 0 => []
  | n + 1 => octet (0x80 + value / 64 ^ n % 64) :: lastOctets value n

/-- The octets seen begin the encoding of every code point that can follow from here, and only
code points follow. -/
structure Pending.Leads (p : Pending) : Prop where
  owes : 1 ≤ p.owed
  few : p.owed ≤ 3
  low : 0x80 ≤ p.low
  high : p.high ≤ 0xBF
  inRange : ∀ n, p.low ≤ n → n ≤ p.high →
    (p.value * 64 + (n - 0x80) + 1) * 64 ^ (p.owed - 1) ≤ 0x110000
  encoded : ∀ c : CodePoint, c.val / 64 ^ p.owed = p.value →
    p.low ≤ 0x80 + c.val / 64 ^ (p.owed - 1) % 64 →
    0x80 + c.val / 64 ^ (p.owed - 1) % 64 ≤ p.high →
    encodeCodePoint c = p.seen ++ lastOctets c.val p.owed

def State.Leads : State → Prop
  | .between => True
  | .inside p => p.Leads

theorem octet_val (b : Octet) : octet b.val = b := Fin.ext (val_octet b.isLt)

theorem octet_eq {n : Nat} {b : Octet} (h : n = b.val) : octet n = b := h ▸ octet_val b

theorem encodeCodePoint_ofOctet {b : Octet} (h : b.val < 0x80) :
    encodeCodePoint (Text.ofOctet b) = [b] := by
  have hval : (Text.ofOctet b).val = b.val := rfl
  rw [encodeCodePoint, hval, if_pos h, octet_val]

/-- Octets that were taken from a state: those of the pieces, and those of the next state. -/
structure Kept (before : List Octet) (b : Octet) (step : List Piece × State) : Prop where
  octets : step.1.flatMap Piece.octets ++ step.2.seen = before ++ [b]
  leads : step.2.Leads

/-! ## Beginning a character -/

theorem leads_two {b : Octet} (h : 0xC2 ≤ b.val) (h' : b.val < 0xE0) :
    (⟨[b], b.val - 0xC0, 1, 0x80, 0xBF⟩ : Pending).Leads := by
  refine ⟨?_, ?_, ?_, ?_, ?_, ?_⟩ <;> dsimp only
  iterate 4 omega
  · intro n _ _
    omega
  · intro c hc _ _
    rw [encodeCodePoint, if_neg (by omega), if_pos (by omega),
      octet_eq (b := b) (by omega)]
    simp [lastOctets]

theorem leads_three {b : Octet} (h : 0xE0 ≤ b.val) (h' : b.val < 0xF0) :
    (⟨[b], b.val - 0xE0, 2, if b.val = 0xE0 then 0xA0 else 0x80,
      if b.val = 0xED then 0x9F else 0xBF⟩ : Pending).Leads := by
  refine ⟨?_, ?_, ?_, ?_, ?_, ?_⟩ <;> dsimp only
  · omega
  · omega
  · split <;> omega
  · split <;> omega
  · intro n hlow hhigh
    have hn : n ≤ 0xBF := by split at hhigh <;> omega
    omega
  · intro c hc hlow _
    -- the least second octet keeps the encodings of two octets away
    have hlong : 0x800 ≤ c.val := by split at hlow <;> omega
    rw [encodeCodePoint, if_neg (by omega), if_neg (by omega), if_pos (by omega),
      octet_eq (b := b) (by omega)]
    simp [lastOctets]

theorem leads_four {b : Octet} (h : 0xF0 ≤ b.val) (h' : b.val < 0xF5) :
    (⟨[b], b.val - 0xF0, 3, if b.val = 0xF0 then 0x90 else 0x80,
      if b.val = 0xF4 then 0x8F else 0xBF⟩ : Pending).Leads := by
  refine ⟨?_, ?_, ?_, ?_, ?_, ?_⟩ <;> dsimp only
  · omega
  · omega
  · split <;> omega
  · split <;> omega
  · intro n _ hhigh
    have hn : n ≤ 0xBF := by split at hhigh <;> omega
    split at hhigh <;> omega
  · intro c hc hlow _
    have hlong : 0x10000 ≤ c.val := by split at hlow <;> omega
    rw [encodeCodePoint, if_neg (by omega), if_neg (by omega), if_neg (by omega),
      octet_eq (b := b) (by omega)]
    simp [lastOctets]

/-- An octet is a character by itself, or it begins one, or it is damage. -/
theorem begin_cases (b : Octet) :
    (b.val < 0x80 ∧ begin b = ([.char (Text.ofOctet b)], .between)) ∨
      (∃ p : Pending, begin b = ([], .inside p) ∧ p.seen = [b] ∧ p.Leads) ∨
      begin b = ([.damaged [b] .invalidStart], .between) := by
  by_cases h1 : b.val < 0x80
  · refine .inl ⟨h1, ?_⟩
    rw [begin]
    exact if_pos h1
  by_cases h2 : b.val < 0xC2
  · refine .inr (.inr ?_)
    rw [begin]
    rw [if_neg h1, if_pos h2]
  by_cases h3 : b.val < 0xE0
  · exact .inr (.inl ⟨_, begin_two (by omega) h3, rfl, leads_two (by omega) h3⟩)
  by_cases h4 : b.val < 0xF0
  · exact .inr (.inl ⟨_, begin_three (by omega) h4, rfl, leads_three (by omega) h4⟩)
  by_cases h5 : b.val < 0xF5
  · exact .inr (.inl ⟨_, begin_four (by omega) h5, rfl, leads_four (by omega) h5⟩)
  · refine .inr (.inr ?_)
    rw [begin]
    rw [if_neg h1, if_neg h2, if_neg h3, if_neg h4, if_neg h5]

theorem begin_kept (b : Octet) : Kept [] b (begin b) := by
  rcases begin_cases b with ⟨hascii, hbegin⟩ | ⟨p, hbegin, hseen, hleads⟩ | hbegin
  · rw [hbegin]
    refine ⟨?_, trivial⟩
    show encodeCodePoint (Text.ofOctet b) ++ [] ++ [] = [b]
    rw [List.append_nil, List.append_nil, encodeCodePoint_ofOctet hascii]
  · rw [hbegin]
    exact ⟨hseen, hleads⟩
  · rw [hbegin]
    exact ⟨rfl, trivial⟩

/-! ## Going on -/

/-- The last octet gives the code point whose encoding has been seen. -/
theorem Pending.Leads.last {p : Pending} (hp : p.Leads) {b : Octet} (hlow : p.low ≤ b.val)
    (hhigh : b.val ≤ p.high) (hone : p.owed = 1) :
    encodeCodePoint (codePoint (p.value * 64 + (b.val - 0x80))) = p.seen ++ [b] := by
  have hbounds := And.intro hp.low hp.high
  have hrange := hp.inRange b.val hlow hhigh
  rw [hone] at hrange
  have hval : (codePoint (p.value * 64 + (b.val - 0x80))).val = p.value * 64 + (b.val - 0x80) := by
    unfold codePoint
    rw [dif_pos (by omega)]
  have hencoded := hp.encoded (codePoint (p.value * 64 + (b.val - 0x80)))
  rw [hone, hval] at hencoded
  rw [hencoded (by omega) (by omega) (by omega)]
  simp only [lastOctets]
  rw [octet_eq (b := b) (by omega)]

theorem Pending.Leads.next {p : Pending} (hp : p.Leads) {b : Octet} (hlow : p.low ≤ b.val)
    (hhigh : b.val ≤ p.high) (hmore : 1 < p.owed) :
    (⟨p.seen ++ [b], p.value * 64 + (b.val - 0x80), p.owed - 1, 0x80, 0xBF⟩ : Pending).Leads := by
  have hbounds := And.intro hp.low hp.high
  have hfew := hp.few
  refine ⟨?_, ?_, ?_, ?_, ?_, ?_⟩ <;> dsimp only
  iterate 4 omega
  · intro n _ hn
    -- the octet moves the bound down by one sextet
    have hpow : 64 ^ (p.owed - 1) = 64 * 64 ^ (p.owed - 1 - 1) := by
      rw [← Nat.pow_succ']
      congr 1
      omega
    have hless : (p.value * 64 + (b.val - 0x80)) * 64 + (n - 0x80) + 1 ≤
        (p.value * 64 + (b.val - 0x80) + 1) * 64 := by
      omega
    calc ((p.value * 64 + (b.val - 0x80)) * 64 + (n - 0x80) + 1) * 64 ^ (p.owed - 1 - 1)
        ≤ (p.value * 64 + (b.val - 0x80) + 1) * 64 * 64 ^ (p.owed - 1 - 1) :=
          Nat.mul_le_mul_right _ hless
      _ = (p.value * 64 + (b.val - 0x80) + 1) * 64 ^ (p.owed - 1) := by
          rw [hpow, Nat.mul_assoc]
      _ ≤ 0x110000 := hp.inRange b.val hlow hhigh
  · intro c hc _ _
    -- what is owed is one sextet less of the same encoding
    have hencoded := hp.encoded c
    obtain howed | howed : p.owed = 2 ∨ p.owed = 3 := by omega
    all_goals
      rw [howed] at hc hencoded ⊢
      simp only [Nat.reduceSub, Nat.reducePow] at hc hencoded ⊢
      rw [hencoded (by omega) (by omega) (by omega)]
      simp only [lastOctets]
      rw [octet_eq (b := b) (by omega), List.append_assoc]
      rfl

theorem advance_kept {p : Pending} (hp : p.Leads) (b : Octet) : Kept p.seen b (advance p b) := by
  unfold advance
  split
  · next hb =>
      obtain ⟨hlow, hhigh⟩ := hb
      dsimp only
      split
      · next howed =>
          refine ⟨?_, trivial⟩
          rw [← hp.last hlow hhigh (Nat.le_antisymm howed hp.owes)]
          simp [Piece.octets, State.seen]
      · next howed => exact ⟨rfl, hp.next hlow hhigh (Nat.not_le.mp howed)⟩
  · obtain ⟨hoctets, hleads⟩ := begin_kept b
    refine ⟨?_, hleads⟩
    show (p.seen ++ (begin b).1.flatMap Piece.octets) ++ (begin b).2.seen = p.seen ++ [b]
    rw [List.append_assoc, hoctets, List.nil_append]

theorem step_kept {s : State} (hs : s.Leads) (b : Octet) : Kept s.seen b (step s b) := by
  cases s with
  | between => exact begin_kept b
  | inside p => exact advance_kept hs b

/-! ## Whole inputs -/

/-- No octet is lost. -/
theorem octets_run {s : State} (hs : s.Leads) (bs : List Octet) :
    (run s bs).1.flatMap Piece.octets ++ (run s bs).2.seen = s.seen ++ bs := by
  induction bs generalizing s with
  | nil => simp [run]
  | cons b bs ih =>
      obtain ⟨hnow, hleads⟩ := step_kept hs b
      show ((step s b).1 ++ (run (step s b).2 bs).1).flatMap Piece.octets ++
        (run (step s b).2 bs).2.seen = s.seen ++ b :: bs
      rw [List.flatMap_append, List.append_assoc, ih hleads, ← List.append_assoc, hnow,
        List.append_assoc]
      rfl

theorem octets_pieces (bs : List Octet) : (pieces bs).flatMap Piece.octets = bs := by
  have hfinish : ∀ s : State, (finish s).flatMap Piece.octets = s.seen := by
    intro s
    cases s with
    | between => rfl
    | inside p => exact List.append_nil p.seen
  show ((run .between bs).1 ++ finish (run .between bs).2).flatMap Piece.octets = bs
  have hrun := octets_run (s := .between) trivial bs
  rw [List.flatMap_append, hfinish, hrun]
  rfl

/-! ## Well-formed input -/

def Piece.isChar : Piece → Bool
  | .char _ => true
  | .damaged _ _ => false

theorem exists_map_char {ps : List Piece} (h : ∀ piece ∈ ps, piece.isChar = true) :
    ∃ t : Text, ps = t.map .char := by
  induction ps with
  | nil => exact ⟨[], rfl⟩
  | cons piece ps ih =>
      obtain ⟨hpiece, hps⟩ := List.forall_mem_cons.mp h
      obtain ⟨t, rfl⟩ := ih hps
      cases piece with
      | char c => exact ⟨c :: t, rfl⟩
      | damaged bs r => cases hpiece

/-- Octets are well-formed exactly if all their pieces are characters. -/
theorem wellFormed_iff_pieces {bs : List Octet} :
    WellFormed bs ↔ ∀ piece ∈ pieces bs, piece.isChar = true := by
  constructor
  · rintro ⟨t, ht, rfl⟩ piece hpiece
    have hpieces : pieces (encode t) = t.map .char := by
      rw [pieces, run_encode ht]
      exact List.append_nil _
    rw [hpieces] at hpiece
    obtain ⟨c, -, rfl⟩ := List.mem_map.mp hpiece
    rfl
  · intro h
    obtain ⟨t, ht⟩ := exists_map_char h
    have htext : decode bs = t := by
      rw [decode, ht, List.map_map]
      exact List.map_id t
    refine ⟨t, htext ▸ encodable_decode bs, ?_⟩
    rw [← octets_pieces bs, ht, List.flatMap_map]
    rfl

/-- The first piece that is no character is the damage. -/
theorem untilDamage_eq_none_iff {n : Nat} {ps : List Piece} :
    (untilDamage n ps).2 = none ↔ ∀ piece ∈ ps, piece.isChar = true := by
  induction ps generalizing n with
  | nil => simp [untilDamage]
  | cons piece ps ih =>
      cases piece with
      | char c => simp [untilDamage, Piece.isChar, ih]
      | damaged bs r => simp [untilDamage, Piece.isChar]

/-- Strict decoding meets no damage exactly in well-formed octets. -/
theorem untilDamage_pieces_eq_none_iff {bs : List Octet} :
    (untilDamage 0 (pieces bs)).2 = none ↔ WellFormed bs := by
  rw [untilDamage_eq_none_iff, wellFormed_iff_pieces]

end JsonTap.Utf8
