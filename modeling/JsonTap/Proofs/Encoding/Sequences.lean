import JsonTap.Proofs.Encoding.WellFormed

/-!
# The table of sequences

Which octets are one character can be told from their ranges alone: `rows` is the table, and
`Sequence` what it says. The bounds that the reader keeps are those of the table
(`Pending.Tabled`), so the sequences are the encodings of the code points that are no surrogates
(`sequence_iff`), and octets are well-formed exactly if they can be cut into sequences
(`wellFormed_iff_sequences`).
-/

namespace JsonTap.Utf8

/-- An octet that goes on with a character. -/
def Trails (b : Octet) : Prop := 0x80 ≤ b.val ∧ b.val ≤ 0xBF

instance : DecidablePred Trails := fun _ => inferInstanceAs (Decidable (_ ∧ _))

/-- A row of the table: the range of the first octet, the range of the second one, and how many
others follow. -/
structure Row where
  least : Nat
  greatest : Nat
  low : Nat
  high : Nat
  others : Nat

/-- The sequences of several octets. Lower second octets would be overlong after 0xE0 and 0xF0;
higher ones would make surrogates after 0xED, and numbers above 0x10FFFF after 0xF4. -/
def rows : List Row :=
  [⟨0xC2, 0xDF, 0x80, 0xBF, 0⟩,
    ⟨0xE0, 0xE0, 0xA0, 0xBF, 1⟩,
    ⟨0xE1, 0xEC, 0x80, 0xBF, 1⟩,
    ⟨0xED, 0xED, 0x80, 0x9F, 1⟩,
    ⟨0xEE, 0xEF, 0x80, 0xBF, 1⟩,
    ⟨0xF0, 0xF0, 0x90, 0xBF, 2⟩,
    ⟨0xF1, 0xF3, 0x80, 0xBF, 2⟩,
    ⟨0xF4, 0xF4, 0x80, 0x8F, 2⟩]

/-- The octets of one character, as the table has them. -/
inductive Sequence : List Octet → Prop
  | one {a : Octet} : a.val ≤ 0x7F → Sequence [a]
  | several {row : Row} {a b : Octet} {others : List Octet} : row ∈ rows →
      row.least ≤ a.val → a.val ≤ row.greatest → row.low ≤ b.val → b.val ≤ row.high →
      others.length = row.others → (∀ x ∈ others, Trails x) → Sequence (a :: b :: others)

theorem forall_rows {P : Row → Prop} :
    (∀ row ∈ rows, P row) ↔
      P ⟨0xC2, 0xDF, 0x80, 0xBF, 0⟩ ∧ P ⟨0xE0, 0xE0, 0xA0, 0xBF, 1⟩ ∧
        P ⟨0xE1, 0xEC, 0x80, 0xBF, 1⟩ ∧ P ⟨0xED, 0xED, 0x80, 0x9F, 1⟩ ∧
        P ⟨0xEE, 0xEF, 0x80, 0xBF, 1⟩ ∧ P ⟨0xF0, 0xF0, 0x90, 0xBF, 2⟩ ∧
        P ⟨0xF1, 0xF3, 0x80, 0xBF, 2⟩ ∧ P ⟨0xF4, 0xF4, 0x80, 0x8F, 2⟩ := by
  simp [rows]

theorem exists_row_iff {a : Octet} :
    (∃ row ∈ rows, row.least ≤ a.val ∧ a.val ≤ row.greatest) ↔ 0xC2 ≤ a.val ∧ a.val ≤ 0xF4 := by
  simp [rows]
  omega

/-! ## The reader keeps to the table -/

theorem begin_damaged {a : Octet} (h : 0x80 ≤ a.val) (h' : a.val < 0xC2 ∨ 0xF4 < a.val) :
    begin a = ([.damaged [a] .invalidStart], .between) := by
  rcases h' with h' | h'
  · rw [begin]
    rw [if_neg (by omega), if_pos (by omega)]
  · rw [begin]
    rw [if_neg (by omega), if_neg (by omega), if_neg (by omega), if_neg (by omega),
      if_neg (by omega)]

/-- What the reader holds after a first octet is what the octet's row says. -/
theorem begin_row {row : Row} (hrow : row ∈ rows) {a : Octet} (h : row.least ≤ a.val)
    (h' : a.val ≤ row.greatest) :
    ∃ value, begin a = ([], .inside ⟨[a], value, row.others + 1, row.low, row.high⟩) := by
  revert h h'
  revert row
  rw [forall_rows]
  refine ⟨?_, ?_, ?_, ?_, ?_, ?_, ?_, ?_⟩ <;> dsimp only <;> intro h h'
  · exact ⟨_, begin_two h (by omega)⟩
  iterate 4
    · refine ⟨a.val - 0xE0, ?_⟩
      rw [begin_three (by omega) (by omega)]
      congr 3 <;> split <;> omega
  iterate 3
    · refine ⟨a.val - 0xF0, ?_⟩
      rw [begin_four (by omega) (by omega)]
      congr 3 <;> split <;> omega

/-- Octets that take the reader from inside a character to its end. -/
def Pending.Completes (p : Pending) : List Octet → Prop
  | [] => False
  | b :: others =>
    (p.low ≤ b.val ∧ b.val ≤ p.high) ∧ others.length + 1 = p.owed ∧ ∀ x ∈ others, Trails x

/-- The octets seen begin a sequence, and what completes it is what the reader is waiting for. -/
structure Pending.Tabled (p : Pending) : Prop where
  seen : p.seen ≠ []
  owes : 1 ≤ p.owed
  bounds : p.low ≤ p.high ∧ 0x80 ≤ p.low ∧ p.high ≤ 0xBF
  completes : ∀ more, Sequence (p.seen ++ more) ↔ p.Completes more

theorem tabled_row {row : Row} (hrow : row ∈ rows) {a : Octet} (h : row.least ≤ a.val)
    (h' : a.val ≤ row.greatest) (value : Nat) :
    (⟨[a], value, row.others + 1, row.low, row.high⟩ : Pending).Tabled := by
  have hbounds : ∀ row ∈ rows, row.low ≤ row.high ∧ 0x80 ≤ row.low ∧ row.high ≤ 0xBF := by
    simp [forall_rows]
  refine ⟨List.cons_ne_nil _ _, Nat.le_add_left _ _, hbounds row hrow, ?_⟩
  intro more
  constructor
  · intro hseq
    obtain ⟨value, hbegin⟩ := begin_row hrow h h'
    cases hseq with
    | one ha =>
      have hfirst := exists_row_iff.mp ⟨row, hrow, h, h'⟩
      omega
    | several hrow' hleast hgreatest hlow hhigh hlength hothers =>
      -- the first octet is in one row only, for the reader goes on in one way only
      obtain ⟨value', hbegin'⟩ := begin_row hrow' hleast hgreatest
      rw [hbegin'] at hbegin
      simp only [Prod.mk.injEq, true_and, State.inside.injEq, Pending.mk.injEq] at hbegin
      obtain ⟨-, howed, hlow', hhigh'⟩ := hbegin
      refine ⟨⟨?_, ?_⟩, ?_, hothers⟩ <;> dsimp only <;> omega
  · intro hmore
    cases more with
    | nil => cases hmore
    | cons b others =>
      obtain ⟨⟨hlow, hhigh⟩, hlength, hothers⟩ := hmore
      exact .several hrow h h' hlow hhigh (Nat.succ_inj.mp hlength) hothers

theorem Pending.Tabled.next {p : Pending} (hp : p.Tabled) {b : Octet}
    (hb : p.low ≤ b.val ∧ b.val ≤ p.high) (hmore : 1 < p.owed) :
    (⟨p.seen ++ [b], p.value * 64 + (b.val - 0x80), p.owed - 1, 0x80, 0xBF⟩ : Pending).Tabled := by
  refine ⟨by simp, by dsimp only; omega, ⟨by dsimp only; omega, Nat.le_refl _, Nat.le_refl _⟩, ?_⟩
  intro more
  show Sequence (p.seen ++ [b] ++ more) ↔ _
  rw [List.append_assoc, List.singleton_append, hp.completes]
  show (p.low ≤ b.val ∧ b.val ≤ p.high) ∧ _ ↔ _
  rw [and_iff_right hb]
  cases more with
  | nil =>
    refine iff_of_false ?_ id
    rintro ⟨hlength, -⟩
    rw [List.length_nil] at hlength
    omega
  | cons x others =>
    rw [List.forall_mem_cons, List.length_cons]
    show _ ↔ Trails x ∧ others.length + 1 = p.owed - 1 ∧ _
    rw [and_left_comm]
    have hlength : others.length + 1 + 1 = p.owed ↔ others.length + 1 = p.owed - 1 := by omega
    rw [hlength]

/-! ## Sequences are encodings -/

/-- What completes a sequence is read as the rest of one character. -/
theorem run_completes {p : Pending} {more : List Octet} (h : p.Completes more) :
    ∃ c, run (.inside p) more = ([.char c], .between) := by
  induction more generalizing p with
  | nil => cases h
  | cons b others ih =>
    obtain ⟨hb, hlength, hothers⟩ := h
    cases others with
    | nil =>
      refine ⟨codePoint (p.value * 64 + (b.val - 0x80)), ?_⟩
      have hone : p.owed ≤ 1 := Nat.le_of_eq hlength.symm
      rw [run, step, advance, if_pos hb]
      dsimp only
      rw [if_pos hone]
      rfl
    | cons x others =>
      rw [List.length_cons] at hlength
      obtain ⟨hx, hothers⟩ := List.forall_mem_cons.mp hothers
      rw [run_next hb (by omega)]
      exact ih ⟨hx, by dsimp only; omega, hothers⟩

theorem Sequence.exists_run {bs : List Octet} (h : Sequence bs) :
    ∃ c, run .between bs = ([.char c], .between) := by
  cases h with
  | @one a ha =>
    refine ⟨Text.ofOctet a, ?_⟩
    rw [run, step, begin]
    rw [if_pos (by omega)]
    rfl
  | several hrow hleast hgreatest hlow hhigh hlength hothers =>
    obtain ⟨value, hbegin⟩ := begin_row hrow hleast hgreatest
    rw [run_begin hbegin]
    exact run_completes ⟨⟨hlow, hhigh⟩, congrArg (· + 1) hlength, hothers⟩

/-- A first octet has a row, so it is enough that its row fits. -/
theorem sequence_several {a b : Octet} {others : List Octet} {n : Nat}
    (ha : 0xC2 ≤ a.val ∧ a.val ≤ 0xF4)
    (hfits : ∀ row ∈ rows, row.least ≤ a.val → a.val ≤ row.greatest →
      row.low ≤ b.val ∧ b.val ≤ row.high ∧ row.others = n)
    (hlength : others.length = n) (hothers : ∀ x ∈ others, Trails x) :
    Sequence (a :: b :: others) := by
  obtain ⟨row, hrow, hleast, hgreatest⟩ := exists_row_iff.mpr ha
  obtain ⟨hlow, hhigh, rfl⟩ := hfits row hrow hleast hgreatest
  exact .several hrow hleast hgreatest hlow hhigh hlength hothers

theorem trails_octet (n : Nat) : Trails (octet (0x80 + n % 64)) := by
  rw [Trails, val_octet (by omega)]
  omega

theorem sequence_encodeCodePoint {c : CodePoint} (hc : c.isSurrogate = false) :
    Sequence (encodeCodePoint c) := by
  have hlt := c.isLt
  have hscalar := val_of_not_isSurrogate hc
  have hsecond : ∀ n, (octet (0x80 + n % 64)).val = 0x80 + n % 64 := fun n => val_octet (by omega)
  rw [encodeCodePoint]
  -- one case for each row of the table
  by_cases h1 : c.val < 0x80
  · have hval : (octet c.val).val = c.val := val_octet (by omega)
    rw [if_pos h1]
    exact .one (by omega)
  rw [if_neg h1]
  by_cases h2 : c.val < 0x800
  · have hfirst : (octet (0xC0 + c.val / 64)).val = 0xC0 + c.val / 64 := val_octet (by omega)
    rw [if_pos h2]
    apply sequence_several (n := 0) ?_ ?_ rfl
    · exact List.forall_mem_nil _
    · omega
    · rw [forall_rows, hsecond, hfirst]
      and_intros <;> dsimp only <;> omega
  rw [if_neg h2]
  by_cases h3 : c.val < 0x10000
  · have hfirst : (octet (0xE0 + c.val / 4096)).val = 0xE0 + c.val / 4096 := val_octet (by omega)
    rw [if_pos h3]
    apply sequence_several (n := 1) ?_ ?_ rfl
    · exact List.forall_mem_singleton.mpr (trails_octet _)
    · omega
    · rw [forall_rows, hsecond, hfirst]
      and_intros <;> dsimp only <;> omega
  · have hfirst : (octet (0xF0 + c.val / 262144)).val = 0xF0 + c.val / 262144 :=
      val_octet (by omega)
    rw [if_neg h3]
    apply sequence_several (n := 2) ?_ ?_ rfl
    · exact List.forall_mem_cons.mpr
        ⟨trails_octet _, List.forall_mem_singleton.mpr (trails_octet _)⟩
    · omega
    · rw [forall_rows, hsecond, hfirst]
      and_intros <;> dsimp only <;> omega

/-- The sequences are the encodings of the code points that are no surrogates. -/
theorem sequence_iff {bs : List Octet} :
    Sequence bs ↔ ∃ c : CodePoint, c.isSurrogate = false ∧ encodeCodePoint c = bs := by
  constructor
  · intro h
    obtain ⟨c, hrun⟩ := h.exists_run
    have hpieces : pieces bs = [.char c] := by
      rw [pieces, hrun]
      rfl
    have hdecode : decode bs = [c] := by
      rw [decode, hpieces]
      rfl
    refine ⟨c, encodable_decode bs c (by simp [hdecode]), ?_⟩
    rw [← octets_pieces bs, hpieces]
    exact (List.append_nil _).symm
  · rintro ⟨c, hc, rfl⟩
    exact sequence_encodeCodePoint hc

/-- Octets are well-formed exactly if they can be cut into sequences of the table. -/
theorem wellFormed_iff_sequences {bs : List Octet} :
    WellFormed bs ↔
      ∃ parts : List (List Octet), (∀ s ∈ parts, Sequence s) ∧ parts.flatten = bs := by
  constructor
  · rintro ⟨t, ht, rfl⟩
    refine ⟨t.map encodeCodePoint, ?_, List.flatMap_def.symm⟩
    intro s hs
    obtain ⟨c, hc, rfl⟩ := List.mem_map.mp hs
    exact sequence_encodeCodePoint (ht c hc)
  · rintro ⟨parts, hparts, rfl⟩
    induction parts with
    | nil => exact ⟨[], encodable_nil, rfl⟩
    | cons s parts ih =>
      obtain ⟨hs, hrest⟩ := List.forall_mem_cons.mp hparts
      obtain ⟨c, hc, rfl⟩ := sequence_iff.mp hs
      obtain ⟨t, ht, hencode⟩ := ih hrest
      refine ⟨c :: t, encodable_cons.mpr ⟨hc, ht⟩, ?_⟩
      rw [List.flatten_cons, ← hencode]
      rfl

end JsonTap.Utf8
