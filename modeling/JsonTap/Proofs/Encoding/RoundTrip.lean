import JsonTap.Proofs.Encoding.Utf8

/-!
# What is encoded is decoded

The reader takes the octets of a code point for this code point, whatever follows, unless it is a
surrogate (`run_encodeCodePoint`). So a text without surrogates is decoded as it was encoded
(`decode_encode`).
-/

namespace JsonTap.Utf8

theorem val_octet {n : Nat} (h : n < 0x100) : (octet n).val = n := Nat.mod_eq_of_lt h

theorem codePoint_val (c : CodePoint) : codePoint c.val = c := dif_pos c.isLt

/-! ## Octets inside a character -/

/-- An octet that goes on with a character. -/
theorem run_next {p : Pending} {b : Octet} (hb : p.low ≤ b.val ∧ b.val ≤ p.high)
    (ho : 1 < p.owed) (bs : List Octet) :
    run (.inside p) (b :: bs) =
      run (.inside ⟨p.seen ++ [b], p.value * 64 + (b.val - 0x80), p.owed - 1, 0x80, 0xBF⟩) bs := by
  have hstep : step (.inside p) b =
      ([], .inside ⟨p.seen ++ [b], p.value * 64 + (b.val - 0x80), p.owed - 1, 0x80, 0xBF⟩) := by
    rw [step, advance, if_pos hb]
    exact if_neg (Nat.not_le.mpr ho)
  rw [run, hstep]
  rfl

/-- An octet that ends a character. -/
theorem run_last {p : Pending} {b : Octet} (hb : p.low ≤ b.val ∧ b.val ≤ p.high)
    (ho : p.owed ≤ 1) {c : CodePoint} (hc : p.value * 64 + (b.val - 0x80) = c.val)
    (bs : List Octet) :
    run (.inside p) (b :: bs) = (.char c :: (run .between bs).1, (run .between bs).2) := by
  have hstep : step (.inside p) b = ([.char c], .between) := by
    rw [step, advance, if_pos hb, ← codePoint_val c, ← hc]
    exact if_pos ho
  rw [run, hstep]
  rfl

/-! ## Octets that begin a character -/

/-- An octet that begins a character of several octets. -/
theorem run_begin {b : Octet} {p : Pending} (h : begin b = ([], .inside p)) (bs : List Octet) :
    run .between (b :: bs) = run (.inside p) bs := by
  rw [run, step, h]
  rfl

theorem begin_two {b : Octet} (h : 0xC2 ≤ b.val) (h' : b.val < 0xE0) :
    begin b = ([], .inside ⟨[b], b.val - 0xC0, 1, 0x80, 0xBF⟩) := by
  rw [begin]
  rw [if_neg (by omega), if_neg (by omega), if_pos h']

theorem begin_three {b : Octet} (h : 0xE0 ≤ b.val) (h' : b.val < 0xF0) :
    begin b = ([], .inside ⟨[b], b.val - 0xE0, 2, if b.val = 0xE0 then 0xA0 else 0x80,
      if b.val = 0xED then 0x9F else 0xBF⟩) := by
  rw [begin]
  rw [if_neg (by omega), if_neg (by omega), if_neg (by omega), if_pos h']

theorem begin_four {b : Octet} (h : 0xF0 ≤ b.val) (h' : b.val < 0xF5) :
    begin b = ([], .inside ⟨[b], b.val - 0xF0, 3, if b.val = 0xF0 then 0x90 else 0x80,
      if b.val = 0xF4 then 0x8F else 0xBF⟩) := by
  rw [begin]
  rw [if_neg (by omega), if_neg (by omega), if_neg (by omega), if_neg (by omega), if_pos h']

/-! ## Characters -/

theorem val_of_not_isSurrogate {c : CodePoint} (hc : c.isSurrogate = false) :
    c.val < 0xD800 ∨ 0xE000 ≤ c.val := by
  rw [CodePoint.isSurrogate, Bool.and_eq_false_iff, decide_eq_false_iff_not,
    decide_eq_false_iff_not] at hc
  omega

/-- The octets of a code point that is no surrogate are read as this code point. -/
theorem run_encodeCodePoint {c : CodePoint} (hc : c.isSurrogate = false) (bs : List Octet) :
    run .between (encodeCodePoint c ++ bs) =
      (.char c :: (run .between bs).1, (run .between bs).2) := by
  have hlt := c.isLt
  have hscalar := val_of_not_isSurrogate hc
  rw [encodeCodePoint]
  by_cases h1 : c.val < 0x80
  · have hval : (octet c.val).val = c.val := val_octet (by omega)
    have hchar : Text.ofOctet (octet c.val) = c := Fin.ext hval
    have hbegin : begin (octet c.val) = ([.char c], .between) := by
      rw [begin, hchar]
      exact if_pos (by omega)
    rw [if_pos h1, List.singleton_append, run, step, hbegin]
    rfl
  rw [if_neg h1]
  -- the last octet of all longer forms
  have hlast : (octet (0x80 + c.val % 64)).val = 0x80 + c.val % 64 := val_octet (by omega)
  by_cases h2 : c.val < 0x800
  · have hfirst : (octet (0xC0 + c.val / 64)).val = 0xC0 + c.val / 64 := val_octet (by omega)
    rw [if_pos h2, List.cons_append, List.singleton_append,
      run_begin (begin_two (by omega) (by omega))]
    exact run_last (by dsimp only; omega) (Nat.le_refl _) (by dsimp only; omega) bs
  rw [if_neg h2]
  have hmiddle : (octet (0x80 + c.val / 64 % 64)).val = 0x80 + c.val / 64 % 64 :=
    val_octet (by omega)
  by_cases h3 : c.val < 0x10000
  · have hfirst : (octet (0xE0 + c.val / 4096)).val = 0xE0 + c.val / 4096 := val_octet (by omega)
    rw [if_pos h3, List.cons_append, List.cons_append, List.singleton_append,
      run_begin (begin_three (by omega) (by omega)),
      run_next (by dsimp only; split <;> split <;> omega) (by dsimp only; omega)]
    exact run_last (by dsimp only; omega) (by dsimp only; omega) (by dsimp only; omega) bs
  · have hfirst : (octet (0xF0 + c.val / 262144)).val = 0xF0 + c.val / 262144 :=
      val_octet (by omega)
    have hsecond : (octet (0x80 + c.val / 4096 % 64)).val = 0x80 + c.val / 4096 % 64 :=
      val_octet (by omega)
    rw [if_neg h3, List.cons_append, List.cons_append, List.cons_append, List.singleton_append,
      run_begin (begin_four (by omega) (by omega)),
      run_next (by dsimp only; split <;> split <;> omega) (by dsimp only; omega),
      run_next (by dsimp only; omega) (by dsimp only; omega)]
    exact run_last (by dsimp only; omega) (by dsimp only; omega) (by dsimp only; omega) bs

/-! ## Texts -/

theorem run_encode {t : Text} (ht : Encodable t) :
    run .between (encode t) = (t.map .char, .between) := by
  induction t with
  | nil => rfl
  | cons c t ih =>
      obtain ⟨hc, ht⟩ := List.forall_mem_cons.mp ht
      rw [encode, List.flatMap_cons, run_encodeCodePoint hc]
      show (Piece.char c :: (run .between (encode t)).1, (run .between (encode t)).2) = _
      rw [ih ht]
      rfl

/-- A text without surrogates is decoded as it was encoded. -/
theorem decode_encode {t : Text} (ht : Encodable t) : decode (encode t) = t := by
  rw [decode, pieces, run_encode ht]
  show (t.map Piece.char ++ []).map Piece.toCodePoint = t
  rw [List.append_nil, List.map_map]
  exact List.map_id t

end JsonTap.Utf8
