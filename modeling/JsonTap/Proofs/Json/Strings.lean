import JsonTap.Proofs.Json.Grammar

/-!
# Reading strings

The reader takes a string in two steps: `scanString` cuts what stands between the quotes into
pieces, and `joinPieces` makes a text of them. `Spelled` is the grammar of the first step. The two
steps together read exactly what `Grammar.Chars` derives: `scanString_sound` with
`Spelled.chars` is the one direction, `Chars.spelled` with `scanString_complete` the other.

The halves of a surrogate pair are what keeps the steps apart. Whether an escape stands for itself
depends on the escape after it, so the text of some pieces is not made piece by piece.
-/

namespace JsonTap.Json

open Grammar

/-! ## Escapes -/

theorem simpleEscape?_eq_some_iff {e x : CodePoint} :
    simpleEscape? e = some x ↔ SimpleEscape e x := by
  constructor
  · intro h
    unfold simpleEscape? at h
    repeat' split at h
    · next he =>
        cases h
        simp only [Bool.or_eq_true, decide_eq_true_eq] at he
        rcases he with (rfl | rfl) | rfl
        · exact .quote
        · exact .backslash
        · exact .slash
    · next he => cases h; rw [he]; exact .backspace
    · next he => cases h; rw [he]; exact .formFeed
    · next he => cases h; rw [he]; exact .lineFeed
    · next he => cases h; rw [he]; exact .carriageReturn
    · next he => cases h; rw [he]; exact .tab
    · cases h
  · intro h
    cases h <;> rfl

/-- The letter of an escape by number is no other escape. -/
theorem Grammar.SimpleEscape.ne_u {e x : CodePoint} (h : SimpleEscape e x) : e ≠ 'u' := by
  cases h <;> decide

theorem unit?_eq_some_iff {a b c d u : CodePoint} :
    unit? a b c d = some u ↔
      UnitEscape [('\\' : CodePoint), ('u' : CodePoint), a, b, c, d] u := by
  constructor
  · intro h
    unfold unit? at h
    split at h
    · next x y z w ha hb hc hd =>
        unfold CodePoint.ofNat? at h
        split at h
        · cases h
          exact .mk ha hb hc hd rfl
        · cases h
    · cases h
  · intro h
    cases h with
    | @mk _ _ _ _ x y z w _ ha hb hc hd hu =>
        have hlt : ((x * 16 + y) * 16 + z) * 16 + w < 0x110000 := by
          rw [← hu]
          exact u.isLt
        have hval : (⟨((x * 16 + y) * 16 + z) * 16 + w, hlt⟩ : CodePoint) = u :=
          Fin.ext hu.symm
        simp only [unit?, ha, hb, hc, hd, CodePoint.ofNat?, hlt, dif_pos, hval]

/-! ## Pieces -/

inductive Spelled : Text → List Piece → Prop
  | nil : Spelled [] []
  | plain {c : CodePoint} {s : Text} {ps : List Piece} :
      0x20 ≤ c.val → c ≠ '"' → c ≠ '\\' → Spelled s ps → Spelled (c :: s) (.plain c :: ps)
  | simple {e x : CodePoint} {s : Text} {ps : List Piece} :
      SimpleEscape e x → Spelled s ps → Spelled (('\\' : CodePoint) :: e :: s) (.plain x :: ps)
  | unit {e s : Text} {u : CodePoint} {ps : List Piece} :
      UnitEscape e u → Spelled s ps → Spelled (e ++ s) (.unit u :: ps)

/-- The pieces read after those already there spell the text up to the closing quote. -/
theorem scanString_sound {s r : Text} {acc ps : List Piece}
    (h : scanString s acc = .ok (ps, r)) :
    ∃ b qs, Spelled b qs ∧ s = b ++ ('"' : CodePoint) :: r ∧ ps = acc.reverse ++ qs := by
  fun_induction scanString s acc with
  | case2 acc r' =>
      cases h
      exact ⟨[], [], .nil, rfl, (List.append_nil _).symm⟩
  | case4 acc x y z w q more u hu _ ih =>
      obtain ⟨b, qs, hb, hs, hps⟩ := ih h
      refine ⟨_ ++ b, _, .unit (unit?_eq_some_iff.mp hu) hb, ?_, ?_⟩
      · rw [hs]
        rfl
      · rw [hps, List.reverse_cons, List.append_assoc]
        rfl
  | case7 acc e r' _ x hx _ ih =>
      obtain ⟨b, qs, hb, hs, hps⟩ := ih h
      refine ⟨_ :: _ :: b, _, .simple (simpleEscape?_eq_some_iff.mp hx) hb, ?_, ?_⟩
      · rw [hs]
        rfl
      · rw [hps, List.reverse_cons, List.append_assoc]
        rfl
  | case10 c r' acc hq hb hc ih =>
      obtain ⟨b, qs, hs, hr, hps⟩ := ih h
      refine ⟨c :: b, _, .plain (Nat.le_of_not_lt hc) hq hb hs, ?_, ?_⟩
      · rw [hr]
        rfl
      · rw [hps, List.reverse_cons, List.append_assoc]
        rfl
  | _ => cases h

theorem scanString_complete {b r : Text} {qs acc : List Piece} (h : Spelled b qs) :
    scanString (b ++ ('"' : CodePoint) :: r) acc = .ok (acc.reverse ++ qs, r) := by
  induction h generalizing acc with
  | nil =>
      rw [List.nil_append, scanString.eq_def]
      simp
  | plain hc hq hb _ ih =>
      rw [List.cons_append, scanString.eq_def]
      simp only
      rw [if_neg hq, if_neg hb, if_neg (Nat.not_lt.mpr hc), ih, List.reverse_cons,
        List.append_assoc]
      rfl
  | @simple e x s ps he _ ih =>
      rw [List.cons_append, List.cons_append, scanString.eq_def]
      simp only [simpleEscape?_eq_some_iff.mpr he]
      rw [if_neg (by decide), if_pos True.intro, if_neg he.ne_u, ih, List.reverse_cons,
        List.append_assoc]
      rfl
  | @unit e s u ps he _ ih =>
      -- the reader wants one more code point after the digits, which is the quote at the latest
      obtain ⟨q, more, hq⟩ : ∃ q more, s ++ ('"' : CodePoint) :: r = q :: more :=
        List.exists_cons_of_ne_nil (by simp)
      rw [List.append_assoc]
      have hih := @ih (.unit u :: acc)
      rw [hq] at hih ⊢
      cases he with
      | mk ha hb hc hd hu =>
          have hunit := unit?_eq_some_iff.mpr (.mk ha hb hc hd hu)
          simp only [List.cons_append, List.nil_append]
          rw [scanString.eq_def]
          simp only [hunit]
          rw [if_neg (by decide), if_pos True.intro, if_pos True.intro, hih, List.reverse_cons,
            List.append_assoc]
          rfl

/-! ## Texts of pieces -/

theorem Grammar.UnitEscape.length {e : Text} {u : CodePoint} (h : UnitEscape e u) :
    e.length = 6 := by
  cases h
  rfl

theorem Grammar.UnitEscape.unique {e : Text} {u v : CodePoint} (hu : UnitEscape e u)
    (hv : UnitEscape e v) : u = v := by
  cases hu with
  | mk ha hb hc hd hu =>
      cases hv with
      | mk ha' hb' hc' hd' hv =>
          have h := unit?_eq_some_iff.mpr (.mk ha hb hc hd hu)
          rw [unit?_eq_some_iff.mpr (.mk ha' hb' hc' hd' hv)] at h
          exact (Option.some.inj h).symm

/-- An escape by number at the front is the first piece. -/
theorem Spelled.unit_front {f r : Text} {l : CodePoint} {ps : List Piece}
    (h : Spelled (f ++ r) ps) (hf : UnitEscape f l) :
    ∃ qs, ps = .unit l :: qs ∧ Spelled r qs := by
  generalize hx : f ++ r = x at h
  cases h with
  | nil =>
      have h6 := hf.length
      rw [(List.append_eq_nil_iff.mp hx).1] at h6
      cases h6
  | plain _ _ hb _ =>
      cases hf
      exact absurd (List.cons.inj hx).1.symm hb
  | simple he _ =>
      cases hf
      exact absurd (List.cons.inj (List.cons.inj hx).2).1.symm he.ne_u
  | @unit e s u ps he hs =>
      obtain ⟨rfl, rfl⟩ := List.append_inj hx (by rw [hf.length, he.length])
      rw [hf.unique he]
      exact ⟨ps, rfl, hs⟩

theorem Spelled.of_unit {s : Text} {u : CodePoint} {ps : List Piece}
    (h : Spelled s (.unit u :: ps)) : ∃ e r, UnitEscape e u ∧ s = e ++ r ∧ Spelled r ps := by
  cases h with
  | unit he hs => exact ⟨_, _, he, rfl, hs⟩

/-- A piece that is no escape by number adds its code point to any text. -/
theorem Spelled.of_plain {s : Text} {c : CodePoint} {ps : List Piece}
    (h : Spelled s (.plain c :: ps)) :
    ∃ r, Spelled r ps ∧ ∀ t, Chars r t → Chars s (c :: t) := by
  cases h with
  | plain hc hq hb hs => exact ⟨_, hs, fun t => .plain hc hq hb⟩
  | simple he hs => exact ⟨_, hs, fun t => .simple he⟩

theorem joinPair_val {h l : CodePoint} (hh : h.isHighSurrogate = true)
    (hl : l.isLowSurrogate = true) :
    (joinPair h l).val = 0x10000 + (h.val - 0xD800) * 0x400 + (l.val - 0xDC00) := by
  simp only [CodePoint.isHighSurrogate, CodePoint.isLowSurrogate, Bool.and_eq_true,
    decide_eq_true_eq] at hh hl
  show 0x10000 + (h.val - 0xD800) % 0x400 * 0x400 + (l.val - 0xDC00) % 0x400 = _
  rw [Nat.mod_eq_of_lt (by omega), Nat.mod_eq_of_lt (by omega)]

/-- An escape of no pair stands for itself: what follows is no escape, or none of the other half. -/
theorem Spelled.unit_alone {s : Text} {u : CodePoint} {ps : List Piece} (hs : Spelled s ps)
    (hn : ∀ w qs, ps = .unit w :: qs →
      (u.isHighSurrogate && w.isLowSurrogate) = false) :
    u.isHighSurrogate = true →
      ∀ f l r, UnitEscape f l → l.isLowSurrogate = true → s ≠ f ++ r := by
  rintro hu f l r hf hl rfl
  obtain ⟨qs, rfl, -⟩ := hs.unit_front hf
  have := hn l qs rfl
  simp [hu, hl] at this

/-- The text of pieces is what they spell. -/
theorem Spelled.chars {s : Text} {ps : List Piece} (h : Spelled s ps) :
    Chars s (joinPieces ps) := by
  fun_induction joinPieces ps generalizing s with
  | case1 =>
      cases h
      exact .nil
  | case2 c ps ih =>
      obtain ⟨r, hr, hc⟩ := h.of_plain
      exact hc _ (ih hr)
  | case3 u =>
      obtain ⟨e, r, he, rfl, hr⟩ := h.of_unit
      cases hr
      exact .unit he (Spelled.nil.unit_alone (by simp)) .nil
  | case4 u c ps ih =>
      obtain ⟨e, r, he, rfl, hr⟩ := h.of_unit
      obtain ⟨r', hr', hc⟩ := hr.of_plain
      exact .unit he (hr.unit_alone (by simp)) (hc _ (ih hr'))
  | case5 u w ps hp ih =>
      obtain ⟨e, r, he, rfl, hr⟩ := h.of_unit
      obtain ⟨f, r', hf, rfl, hr'⟩ := hr.of_unit
      rw [Bool.and_eq_true] at hp
      exact .pair he hp.1 hf hp.2 (joinPair_val hp.1 hp.2) (ih hr')
  | case6 u w ps hp ih =>
      obtain ⟨e, r, he, rfl, hr⟩ := h.of_unit
      refine .unit he (hr.unit_alone ?_) (ih hr)
      intro w' qs hq
      cases hq
      simpa using hp

theorem Grammar.Chars.spelled {b t : Text} (h : Chars b t) :
    ∃ ps, Spelled b ps ∧ joinPieces ps = t := by
  induction h with
  | nil => exact ⟨[], .nil, rfl⟩
  | plain hc hq hb _ ih =>
      obtain ⟨ps, hs, rfl⟩ := ih
      exact ⟨_, .plain hc hq hb hs, rfl⟩
  | simple he _ ih =>
      obtain ⟨ps, hs, rfl⟩ := ih
      exact ⟨_, .simple he hs, rfl⟩
  | @pair e f u l c s t hu hhigh hl hlow hc _ ih =>
      obtain ⟨ps, hs, rfl⟩ := ih
      refine ⟨_, .unit hu (.unit hl hs), ?_⟩
      have hj : joinPair u l = c := Fin.ext (by rw [joinPair_val hhigh hlow, hc])
      simp [joinPieces, hhigh, hlow, hj]
  | @unit e u s t hu hn _ ih =>
      obtain ⟨ps, hs, rfl⟩ := ih
      refine ⟨_, .unit hu hs, ?_⟩
      -- the unit is joined with the next piece only if that is a low half, which `hn` excludes
      match ps, hs with
      | [], _ => rfl
      | .plain c :: ps, _ => rfl
      | .unit w :: ps, hs =>
          obtain ⟨f, r, hf, hr, -⟩ := hs.of_unit
          have hp : ¬ (u.isHighSurrogate && w.isLowSurrogate) = true := by
            intro hp
            rw [Bool.and_eq_true] at hp
            exact hn hp.1 f w r hf hp.2 hr
          rw [joinPieces, if_neg hp]

end JsonTap.Json
