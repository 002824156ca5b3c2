import JsonTap.Proofs.Encoding.Parts
import JsonTap.Proofs.Encoding.Sequences

/-!
# Damage and its replacement

Where no sequence stands, the octets that begin one make up a stretch of damage, as many as there
are, or one octet if there are none (`Stretch`). `Replaced` reads each sequence as its code point
and each stretch as one replacement character. There is one such reading of any octets
(`Replaced.unique`), and it is what is decoded (`replaced_iff`).

So damage does not reach into octets that begin anew (`decode_append`), and the characters of ASCII
are those of the octets, in their order (`filter_ascii_decode`).
-/

namespace JsonTap.Utf8

/-! ## Beginnings of sequences -/

/-- Octets with which some sequence begins. -/
def Begins (bs : List Octet) : Prop := ∃ more, Sequence (bs ++ more)

theorem Sequence.first {a : Octet} {bs : List Octet} (h : Sequence (a :: bs)) :
    a.val ≤ 0x7F ∨ 0xC2 ≤ a.val ∧ a.val ≤ 0xF4 := by
  cases h with
  | one ha => exact .inl ha
  | several hrow hleast hgreatest => exact .inr (exists_row_iff.mp ⟨_, hrow, hleast, hgreatest⟩)

theorem Sequence.others_trail {a : Octet} {bs : List Octet} (h : Sequence (a :: bs)) :
    ∀ x ∈ bs, Trails x := by
  cases h with
  | one => exact List.forall_mem_nil _
  | @several row a b others hrow _ _ hlow hhigh _ hothers =>
    have hbounds : ∀ row ∈ rows, 0x80 ≤ row.low ∧ row.high ≤ 0xBF := by simp [forall_rows]
    obtain ⟨hleast, hgreatest⟩ := hbounds row hrow
    exact List.forall_mem_cons.mpr ⟨⟨hleast.trans hlow, hhigh.trans hgreatest⟩, hothers⟩

theorem Sequence.length_le {bs : List Octet} (h : Sequence bs) : bs.length ≤ 4 := by
  cases h with
  | one => exact Nat.succ_le_succ (Nat.zero_le 3)
  | @several row a b others hrow _ _ _ _ hlength _ =>
    have hothers : ∀ row ∈ rows, row.others ≤ 2 := by simp [forall_rows]
    have hfew := hothers row hrow
    rw [List.length_cons, List.length_cons]
    omega

/-- No sequence begins another one. -/
theorem Sequence.eq_of_prefix {s s' : List Octet} (h : Sequence s) (h' : Sequence s')
    (hfront : s <+: s') : s = s' := by
  obtain ⟨c, hc, rfl⟩ := sequence_iff.mp h
  obtain ⟨x, rfl⟩ := hfront
  obtain ⟨c', hrun⟩ := h'.exists_run
  rw [run_encodeCodePoint hc] at hrun
  obtain ⟨hchars, hstate⟩ := Prod.mk.inj hrun
  have hnone : pieces x = [] := by
    show (run .between x).1 ++ finish (run .between x).2 = []
    rw [(List.cons.inj hchars).2, hstate]
    rfl
  rw [← octets_pieces x, hnone]
  exact (List.append_nil _).symm

theorem not_begins_damaged {a : Octet} (h : 0x80 ≤ a.val) (h' : a.val < 0xC2 ∨ 0xF4 < a.val)
    (bs : List Octet) : ¬ Begins (a :: bs) := by
  rintro ⟨more, hseq⟩
  rw [List.cons_append] at hseq
  have hfirst := hseq.first
  omega

theorem Sequence.begins {bs : List Octet} (h : Sequence bs) : Begins bs :=
  ⟨[], by rw [List.append_nil]; exact h⟩

/-- A beginning that stops where `xs` ends is a beginning of `xs`. -/
theorem prefix_of_stop {xs ys bs : List Octet} (hfront : bs <+: xs ++ ys)
    (hstop : ∀ y ∈ ys.head?, ∀ z, bs ≠ xs ++ y :: z) : bs <+: xs := by
  rcases List.prefix_or_prefix_of_prefix hfront (List.prefix_append xs ys) with h | ⟨z, rfl⟩
  · exact h
  · cases z with
    | nil => exact (List.append_nil xs).symm ▸ List.prefix_refl xs
    | cons y z =>
      obtain ⟨w, rfl⟩ := (List.prefix_append_right_inj _).mp hfront
      exact absurd rfl (hstop y rfl z)

/-! ## Stretches of damage -/

/-- The octets `part` in front of `rest` are one stretch of damage: no sequence stands here, and
they are the octets here that begin one, as many as there are, or a single octet. -/
structure Stretch (part rest : List Octet) : Prop where
  nonempty : part ≠ []
  damaged : ∀ s, Sequence s → ¬ s <+: part ++ rest
  begins : part.length = 1 ∨ Begins part
  longest : ∀ bs, bs <+: part ++ rest → Begins bs → bs.length ≤ part.length

theorem Stretch.length_le_of_eq {part part' rest rest' : List Octet} (h : Stretch part rest)
    (h' : Stretch part' rest') (heq : part ++ rest = part' ++ rest') :
    part.length ≤ part'.length := by
  rcases h.begins with hone | hbegins
  · rw [hone]
    exact List.length_pos_iff.mpr h'.nonempty
  · exact h'.longest part (heq ▸ List.prefix_append part rest) hbegins

theorem Stretch.unique {part part' rest rest' : List Octet} (h : Stretch part rest)
    (h' : Stretch part' rest') (heq : part ++ rest = part' ++ rest') :
    part = part' ∧ rest = rest' :=
  List.append_inj heq
    (Nat.le_antisymm (h.length_le_of_eq h' heq) (h'.length_le_of_eq h heq.symm))

/-- A stretch has one to three octets. -/
theorem Stretch.length_le {part rest : List Octet} (h : Stretch part rest) : part.length ≤ 3 := by
  rcases h.begins with hone | ⟨more, hseq⟩
  · omega
  · have hmore : more ≠ [] := by
      rintro rfl
      rw [List.append_nil] at hseq
      exact h.damaged part hseq (List.prefix_append part rest)
    have hpos := List.length_pos_iff.mpr hmore
    have hlength := hseq.length_le
    rw [List.length_append] at hlength
    omega

/-- No octet of a stretch is a character of ASCII. -/
theorem Stretch.not_ascii {part rest : List Octet} (h : Stretch part rest) :
    ∀ x ∈ part, 0x80 ≤ x.val := by
  cases part with
  | nil => exact List.forall_mem_nil _
  | cons a others =>
    refine List.forall_mem_cons.mpr ⟨?_, ?_⟩
    · by_contra hascii
      exact h.damaged [a] (.one (by omega)) ⟨others ++ rest, rfl⟩
    · rcases h.begins with hone | ⟨more, hseq⟩
      · rw [List.length_eq_zero_iff.mp (Nat.succ_inj.mp hone)]
        exact List.forall_mem_nil _
      · intro x hx
        exact (hseq.others_trail x (List.mem_append_left more hx)).1

/-- An octet that begins no sequence is a stretch. -/
theorem stretch_single {a : Octet} (h : 0x80 ≤ a.val) (h' : a.val < 0xC2 ∨ 0xF4 < a.val)
    (rest : List Octet) : Stretch [a] rest := by
  refine ⟨List.cons_ne_nil _ _, ?_, .inl rfl, ?_⟩
  · intro s hs hfront
    cases s with
    | nil => cases hs
    | cons b bs =>
      obtain ⟨rfl, -⟩ := List.cons_prefix_cons.mp hfront
      exact not_begins_damaged h h' bs hs.begins
  · intro bs hfront hbegins
    cases bs with
    | nil => exact Nat.zero_le _
    | cons b bs =>
      obtain ⟨rfl, -⟩ := List.cons_prefix_cons.mp hfront
      exact absurd hbegins (not_begins_damaged h h' bs)

/-! ## What the reader leaves as damage -/

theorem Pending.Tabled.begins_seen {p : Pending} (hp : p.Tabled) : Begins p.seen := by
  obtain ⟨hle, hlow, hhigh⟩ := hp.bounds
  have hval : (octet p.low).val = p.low := val_octet (by omega)
  refine ⟨octet p.low :: List.replicate (p.owed - 1) (octet 0x80), (hp.completes _).mpr ?_⟩
  refine ⟨by omega, ?_, ?_⟩
  · have howes := hp.owes
    rw [List.length_replicate]
    omega
  · intro x hx
    rw [List.eq_of_mem_replicate hx]
    decide

/-- Nothing that begins with the octets seen is a sequence, unless the next octet keeps to the
bounds. -/
theorem Pending.Tabled.bounds_of_begins {p : Pending} (hp : p.Tabled) {b : Octet}
    {bs : List Octet} (h : Begins (p.seen ++ b :: bs)) : p.low ≤ b.val ∧ b.val ≤ p.high := by
  obtain ⟨more, hseq⟩ := h
  rw [List.append_assoc, List.cons_append, hp.completes] at hseq
  exact hseq.1

/-- Where the reader cannot go on, what it has seen is a stretch. -/
theorem Pending.Tabled.stretch {p : Pending} (hp : p.Tabled) {rest : List Octet}
    (hrest : ∀ b ∈ rest.head?, ¬ (p.low ≤ b.val ∧ b.val ≤ p.high)) : Stretch p.seen rest := by
  -- what begins a sequence does not go beyond the octets seen
  have hlongest : ∀ bs, bs <+: p.seen ++ rest → Begins bs → bs <+: p.seen := by
    intro bs hfront hbegins
    apply prefix_of_stop hfront
    rintro b hb x rfl
    exact hrest b hb (hp.bounds_of_begins hbegins)
  refine ⟨hp.seen, ?_, .inr hp.begins_seen, ?_⟩
  · intro s hs hfront
    obtain ⟨more, hseq⟩ := hp.begins_seen
    have hseen := hlongest s hfront hs.begins
    have hwhole := hs.eq_of_prefix hseq (hseen.trans (List.prefix_append p.seen more))
    have hlength := hseen.length_le
    rw [hwhole, List.length_append] at hlength
    have hnone : more = [] := List.length_eq_zero_iff.mp (by omega)
    rw [hnone, hp.completes] at hseq
    exact hseq
  · intro bs hfront hbegins
    exact (hlongest bs hfront hbegins).length_le

/-! ## Reading with replacement -/

/-- A text is a reading of octets: each sequence is read as its code point, and each stretch of
damage as one replacement character. -/
inductive Replaced : List Octet → Text → Prop
  | nil : Replaced [] []
  | char {c : CodePoint} {rest : List Octet} {t : Text} :
      c.isSurrogate = false → Replaced rest t → Replaced (encodeCodePoint c ++ rest) (c :: t)
  | damage {part rest : List Octet} {t : Text} :
      Stretch part rest → Replaced rest t →
      Replaced (part ++ rest) (CodePoint.replacement :: t)

theorem encodeCodePoint_append_inj {c c' : CodePoint} {rest rest' : List Octet}
    (hc : c.isSurrogate = false) (hc' : c'.isSurrogate = false)
    (h : encodeCodePoint c ++ rest = encodeCodePoint c' ++ rest') : c = c' ∧ rest = rest' := by
  have hrun := congrArg (run .between) h
  rw [run_encodeCodePoint hc, run_encodeCodePoint hc'] at hrun
  obtain rfl := Piece.char.inj (List.cons.inj (Prod.mk.inj hrun).1).1
  exact ⟨rfl, List.append_cancel_left h⟩

theorem encodeCodePoint_ne_nil {c : CodePoint} (hc : c.isSurrogate = false) :
    encodeCodePoint c ≠ [] := by
  intro h
  have hseq := sequence_encodeCodePoint hc
  rw [h] at hseq
  cases hseq

/-- Octets have one reading. -/
theorem Replaced.unique {bs : List Octet} {t t' : Text} (h : Replaced bs t)
    (h' : Replaced bs t') : t = t' := by
  induction h generalizing t' with
  | nil =>
    generalize hbs : ([] : List Octet) = bs at h'
    cases h' with
    | nil => rfl
    | char hc => exact absurd (List.append_eq_nil_iff.mp hbs.symm).1 (encodeCodePoint_ne_nil hc)
    | damage hs => exact absurd (List.append_eq_nil_iff.mp hbs.symm).1 hs.nonempty
  | @char c rest t hc hrest ih =>
    generalize hbs : encodeCodePoint c ++ rest = bs at h'
    cases h' with
    | nil => exact absurd (List.append_eq_nil_iff.mp hbs).1 (encodeCodePoint_ne_nil hc)
    | char hc' hrest' =>
      obtain ⟨rfl, rfl⟩ := encodeCodePoint_append_inj hc hc' hbs
      rw [ih hrest']
    | damage hs =>
      exact absurd ⟨rest, hbs⟩ (hs.damaged _ (sequence_encodeCodePoint hc))
  | @damage part rest t hs hrest ih =>
    generalize hbs : part ++ rest = bs at h'
    cases h' with
    | nil => exact absurd (List.append_eq_nil_iff.mp hbs).1 hs.nonempty
    | char hc' => exact absurd ⟨_, hbs.symm⟩ (hs.damaged _ (sequence_encodeCodePoint hc'))
    | damage hs' hrest' =>
      obtain ⟨rfl, rfl⟩ := hs.unique hs' hbs
      rw [ih hrest']

/-! ## What is decoded -/

/-- The octets of a code point are decoded as this code point. -/
theorem decode_char {c : CodePoint} (hc : c.isSurrogate = false) (bs : List Octet) :
    decode (encodeCodePoint c ++ bs) = c :: decode bs := by
  rw [decode, pieces, run_encodeCodePoint hc]
  rfl

/-- An octet that begins no sequence is replaced. -/
theorem decode_damaged {a : Octet} (h : 0x80 ≤ a.val) (h' : a.val < 0xC2 ∨ 0xF4 < a.val)
    (bs : List Octet) : decode (a :: bs) = CodePoint.replacement :: decode bs := by
  rw [decode, pieces, run, step, begin_damaged h h']
  rfl

/-- The octets of a character that is cut off at the end are replaced. -/
theorem decode_seen {p : Pending} (hp : (State.inside p).Reached) :
    decode p.seen = [CodePoint.replacement] := by
  have hseen : run .between p.seen = ([], .inside p) := hp
  rw [decode, pieces, hseen]
  rfl

/-- The octets of a character with which the next octet cannot go on are replaced, and that octet
begins anew. -/
theorem decode_broken {p : Pending} (hp : (State.inside p).Reached) {b : Octet}
    (hb : ¬ (p.low ≤ b.val ∧ b.val ≤ p.high)) (bs : List Octet) :
    decode (p.seen ++ b :: bs) = CodePoint.replacement :: decode (b :: bs) := by
  have hseen : run .between p.seen = ([], .inside p) := hp
  have hstep : step (.inside p) b =
      (.damaged p.seen .invalidContinuation :: (begin b).1, (begin b).2) := by
    rw [step, advance, if_neg hb]
  rw [decode, pieces_append, hseen, run, hstep]
  rfl

def State.Tabled : State → Prop
  | .between => True
  | .inside p => p.Tabled

/-- What has been seen of a character is decoded, with all that follows, by replacing damage. The
induction is on what follows. -/
theorem replaced_seen {s : State} (hs : s.Tabled) (hreached : s.Reached) (bs : List Octet) :
    Replaced (s.seen ++ bs) (decode (s.seen ++ bs)) := by
  induction bs generalizing s with
  | nil =>
    rw [List.append_nil]
    cases s with
    | between => exact .nil
    | inside p =>
      have hstretch : Stretch p.seen [] := hs.stretch nofun
      have hreading := Replaced.damage hstretch .nil
      rw [List.append_nil] at hreading
      show Replaced p.seen (decode p.seen)
      rw [decode_seen hreached]
      exact hreading
  | cons b bs ih =>
    -- the octet on its own: a character of ASCII, the first of several, or damage
    have hlater : Replaced bs (decode bs) := ih (s := .between) trivial rfl
    have hbegin : Replaced (b :: bs) (decode (b :: bs)) := by
      by_cases hascii : b.val < 0x80
      · have hc : (Text.ofOctet b).isSurrogate = false :=
          not_isSurrogate_of_val (.inl (show b.val < 0xD800 by omega))
        have hreading := Replaced.char hc hlater
        rw [← decode_char hc, encodeCodePoint_ofOctet hascii] at hreading
        exact hreading
      by_cases hfirst : 0xC2 ≤ b.val ∧ b.val ≤ 0xF4
      · obtain ⟨row, hrow, hleast, hgreatest⟩ := exists_row_iff.mpr hfirst
        obtain ⟨value, hstep⟩ := begin_row hrow hleast hgreatest
        have hstate := begin_reached b
        rw [hstep] at hstate
        exact ih (s := .inside _) (tabled_row hrow hleast hgreatest value) hstate
      · rw [decode_damaged (by omega) (by omega)]
        exact .damage (stretch_single (by omega) (by omega) bs) hlater
    cases s with
    | between => exact hbegin
    | inside p =>
      show Replaced (p.seen ++ b :: bs) (decode (p.seen ++ b :: bs))
      -- inside a character the octet goes on, ends it, or leaves it broken off
      by_cases hb : p.low ≤ b.val ∧ b.val ≤ p.high
      · by_cases howed : 1 < p.owed
        · have hnext : step (.inside p) b =
              ([], .inside
                ⟨p.seen ++ [b], p.value * 64 + (b.val - 0x80), p.owed - 1, 0x80, 0xBF⟩) := by
            rw [step, advance, if_pos hb]
            exact if_neg (Nat.not_le.mpr howed)
          have hstate := step_reached hreached b
          rw [hnext] at hstate
          have hreading := ih (s := .inside _) (hs.next hb howed) hstate
          rw [State.seen, List.append_assoc] at hreading
          exact hreading
        · have hone : p.owed = 1 := Nat.le_antisymm (Nat.not_lt.mp howed) hs.owes
          have hseq : Sequence (p.seen ++ [b]) :=
            (hs.completes [b]).mpr ⟨hb, hone.symm, List.forall_mem_nil _⟩
          obtain ⟨c, hc, hencode⟩ := sequence_iff.mp hseq
          have hsplit : p.seen ++ b :: bs = encodeCodePoint c ++ bs := by
            rw [hencode, List.append_assoc, List.singleton_append]
          rw [hsplit, decode_char hc]
          exact .char hc hlater
      · rw [decode_broken hreached hb]
        exact .damage (hs.stretch (by simpa using hb)) hbegin

/-- What is decoded is the reading of the octets. -/
theorem replaced_iff {bs : List Octet} {t : Text} : Replaced bs t ↔ decode bs = t := by
  have hdecode : Replaced bs (decode bs) := replaced_seen (s := .between) trivial rfl bs
  constructor
  · intro h
    exact hdecode.unique h
  · rintro rfl
    exact hdecode

/-! ## Damage stays where it is -/

theorem not_ascii_encodeCodePoint {c : CodePoint} (h : 0x80 ≤ c.val) :
    ∀ x ∈ encodeCodePoint c, 0x80 ≤ x.val := by
  have hlt := c.isLt
  have hoctet : ∀ n, 0x80 ≤ n → n < 0x100 → 0x80 ≤ (octet n).val := by
    intro n hn hn'
    rw [val_octet hn']
    exact hn
  intro x hx
  rw [encodeCodePoint, if_neg (by omega)] at hx
  split at hx
  · simp only [List.mem_cons, List.not_mem_nil, or_false] at hx
    rcases hx with rfl | rfl <;> exact hoctet _ (by omega) (by omega)
  split at hx
  · simp only [List.mem_cons, List.not_mem_nil, or_false] at hx
    rcases hx with rfl | rfl | rfl <;> exact hoctet _ (by omega) (by omega)
  · simp only [List.mem_cons, List.not_mem_nil, or_false] at hx
    rcases hx with rfl | rfl | rfl | rfl <;> exact hoctet _ (by omega) (by omega)

theorem filter_ascii_encodeCodePoint (c : CodePoint) :
    [c].filter (·.val < 0x80) =
      ((encodeCodePoint c).filter (·.val < 0x80)).map Text.ofOctet := by
  by_cases h : c.val < 0x80
  · have hval : (octet c.val).val = c.val := val_octet (by omega)
    have hchar : Text.ofOctet (octet c.val) = c := Fin.ext hval
    rw [encodeCodePoint]
    rw [if_pos h, List.filter_cons_of_pos (by simpa using h),
      List.filter_cons_of_pos (by simpa [hval] using h)]
    show [c] = [Text.ofOctet (octet c.val)]
    rw [hchar]
  · have hnone : (encodeCodePoint c).filter (·.val < 0x80) = [] := by
      rw [List.filter_eq_nil_iff]
      intro x hx
      have hascii := not_ascii_encodeCodePoint (Nat.not_lt.mp h) x hx
      simpa using hascii
    rw [hnone, List.filter_cons_of_neg (by simpa using h)]
    rfl

/-- The characters of ASCII in what is decoded are those of the octets, in their order. -/
theorem filter_ascii_decode (bs : List Octet) :
    (decode bs).filter (·.val < 0x80) = (bs.filter (·.val < 0x80)).map Text.ofOctet := by
  have hreading : Replaced bs (decode bs) := replaced_iff.mpr rfl
  generalize decode bs = t at hreading
  induction hreading with
  | nil => rfl
  | @char c rest t hc _ ih =>
    rw [List.filter_append, List.map_append, ← ih, ← filter_ascii_encodeCodePoint,
      ← List.filter_append]
    rfl
  | @damage part rest t hs _ ih =>
    have hpart : part.filter (·.val < 0x80) = [] := by
      rw [List.filter_eq_nil_iff]
      intro x hx
      have hascii := hs.not_ascii x hx
      simpa using hascii
    rw [List.filter_append, hpart, List.nil_append, ← ih]
    rfl

/-- Nothing that begins a sequence reaches from octets into ones that begin anew. -/
theorem prefix_of_begins {xs ys bs : List Octet} (hxs : xs ≠ []) (hys : ∀ y ∈ ys.head?, ¬ Trails y)
    (hfront : bs <+: xs ++ ys) (hbegins : Begins bs) : bs <+: xs := by
  apply prefix_of_stop hfront
  rintro y hy z rfl
  obtain ⟨more, hseq⟩ := hbegins
  cases xs with
  | nil => exact hxs rfl
  | cons x xs =>
    rw [List.append_assoc] at hseq
    exact hys y hy (hseq.others_trail y (by simp))

theorem Stretch.append {part rest : List Octet} (h : Stretch part rest) {bs : List Octet}
    (hbs : ∀ b ∈ bs.head?, ¬ Trails b) : Stretch part (rest ++ bs) := by
  have hwithin : ∀ cs, cs <+: part ++ (rest ++ bs) → Begins cs → cs <+: part ++ rest := by
    intro cs hfront hbegins
    rw [← List.append_assoc] at hfront
    exact prefix_of_begins (List.append_ne_nil_of_left_ne_nil h.nonempty rest) hbs hfront hbegins
  refine ⟨h.nonempty, ?_, h.begins, ?_⟩
  · intro s hs hfront
    exact h.damaged s hs (hwithin s hfront hs.begins)
  · intro cs hfront hbegins
    exact h.longest cs (hwithin cs hfront hbegins) hbegins

theorem Replaced.append {as bs : List Octet} {t u : Text} (h : Replaced as t)
    (h' : Replaced bs u) (hbs : ∀ b ∈ bs.head?, ¬ Trails b) : Replaced (as ++ bs) (t ++ u) := by
  induction h with
  | nil => exact h'
  | char hc _ ih =>
    rw [List.append_assoc]
    exact .char hc ih
  | damage hs _ ih =>
    rw [List.append_assoc]
    exact .damage (hs.append hbs) ih

/-- Octets that begin anew are decoded as if nothing were in front. -/
theorem decode_append {as bs : List Octet} (hbs : ∀ b ∈ bs.head?, ¬ Trails b) :
    decode (as ++ bs) = decode as ++ decode bs :=
  replaced_iff.mp ((replaced_iff.mpr rfl).append (replaced_iff.mpr rfl) hbs)

end JsonTap.Utf8
