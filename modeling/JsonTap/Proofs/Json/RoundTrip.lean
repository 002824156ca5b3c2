import JsonTap.Proofs.Json.Completeness
import JsonTap.Proofs.Json.Doubles

/-!
# What is printed reads back

Every layout of the printer writes a text of the grammar that derives the value (`render_derives`),
as long as each string in the value is spelled by its escapes. A layout that escapes no more than it
must spells every text (`spelled_of_not_ascii`), surrogates included, so that what the log shows of
a value is read back as this value.
-/

namespace JsonTap.Json

open Grammar Numeral

/-! ## Strings -/

theorem hexValue?_hexDigit (n : Nat) : (CodePoint.hexDigit n).hexValue? = some (n % 16) := by
  rw [CodePoint.hexDigit, CodePoint.hexValue?]
  split
  · rw [if_pos (by simp; omega)]
    simp
  · rw [if_neg (by simp; omega), if_pos (by simp; omega)]
    simp

theorem unitEscape_unit {n : Nat} {c : CodePoint} (hc : c.val = n) (hn : n < 0x10000) :
    UnitEscape (unitEscape n) c := by
  refine .mk (hexValue?_hexDigit _) (hexValue?_hexDigit _) (hexValue?_hexDigit _)
    (hexValue?_hexDigit _) ?_
  omega

/-- The escape by number of a code point: one unit, or the two halves of a surrogate pair. -/
theorem chars_unitEscape {c : CodePoint} {s t : Text} (hs : Chars s t)
    (hpair : c.isHighSurrogate = true →
      ∀ f l r, UnitEscape f l → l.isLowSurrogate = true → s ≠ f ++ r) :
    Chars ((if c.val < 0x10000 then unitEscape c.val
      else unitEscape (0xD800 + (c.val - 0x10000) / 0x400) ++
        unitEscape (0xDC00 + (c.val - 0x10000) % 0x400)) ++ s) (c :: t) := by
  by_cases hbasic : c.val < 0x10000
  · rw [if_pos hbasic]
    exact .unit (unitEscape_unit rfl hbasic) hpair hs
  · have hc := c.isLt
    obtain ⟨n, hn⟩ : ∃ n, c.val = 0x10000 + n := ⟨c.val - 0x10000, by omega⟩
    rw [if_neg hbasic, hn, Nat.add_sub_cancel_left, List.append_assoc]
    refine .pair (h := ⟨0xD800 + n / 0x400, by omega⟩) (l := ⟨0xDC00 + n % 0x400, by omega⟩)
      (unitEscape_unit rfl (by omega)) ?_ (unitEscape_unit rfl (by omega)) ?_ ?_ hs
    · simp [CodePoint.isHighSurrogate]
      omega
    · simp [CodePoint.isLowSurrogate]
      omega
    · dsimp only
      omega

/-- The escape of a code point, in front of a string, denotes the code point in front of what the
string denotes; the escape of a high surrogate must not meet the one of a low surrogate. -/
theorem chars_escape {ascii : Bool} {c : CodePoint} {s t : Text} (hs : Chars s t)
    (hpair : ascii = true → c.isHighSurrogate = true →
      ∀ f l r, UnitEscape f l → l.isLowSurrogate = true → s ≠ f ++ r) :
    Chars (escape ascii c ++ s) (c :: t) := by
  have hsimple : ∀ {e x : CodePoint}, SimpleEscape e x → c = x →
      Chars ([('\\' : CodePoint), e] ++ s) (c :: t) := by
    rintro e x he rfl
    exact .simple he hs
  rw [escape]
  by_cases hquote : c = '"'
  · rw [if_pos hquote]
    exact hsimple .quote hquote
  rw [if_neg hquote]
  by_cases hback : c = '\\'
  · rw [if_pos hback]
    exact hsimple .backslash hback
  rw [if_neg hback]
  by_cases hline : c = '\n'
  · rw [if_pos hline]
    exact hsimple .lineFeed hline
  rw [if_neg hline]
  by_cases hreturn : c = '\r'
  · rw [if_pos hreturn]
    exact hsimple .carriageReturn hreturn
  rw [if_neg hreturn]
  by_cases htab : c = '\t'
  · rw [if_pos htab]
    exact hsimple .tab htab
  rw [if_neg htab]
  by_cases hbackspace : c.val = 0x08
  · rw [if_pos hbackspace]
    exact hsimple .backspace (Fin.ext hbackspace)
  rw [if_neg hbackspace]
  by_cases hfeed : c.val = 0x0C
  · rw [if_pos hfeed]
    exact hsimple .formFeed (Fin.ext hfeed)
  rw [if_neg hfeed]
  by_cases hcontrol : c.val < 0x20
  · rw [if_pos hcontrol]
    refine .unit (unitEscape_unit rfl (by omega)) ?_ hs
    -- a control character is half of no pair
    intro hhigh
    rw [CodePoint.isHighSurrogate, Bool.and_eq_true, decide_eq_true_eq] at hhigh
    omega
  rw [if_neg hcontrol]
  -- from here on only the layouts in ASCII escape
  by_cases hascii : (ascii && decide (c.val ≥ 0x7F)) = true
  · rw [if_pos hascii]
    exact chars_unitEscape hs (hpair (Bool.and_eq_true_iff.mp hascii).1)
  · rw [if_neg hascii]
    exact .plain (by omega) hquote hback hs

theorem chars_of_not_ascii (t : Text) : Chars (t.flatMap (escape false)) t := by
  induction t with
  | nil => exact .nil
  | cons c t ih => exact chars_escape ih nofun

/-! ## Texts in a value -/

mutual

/-- A property of every string and every key in a value. -/
def Value.Texts (p : Text → Prop) : Value → Prop
  | .str t => p t
  | .arr items => Value.ItemTexts p items
  | .obj members => Value.MemberTexts p members
  | _ => True

def Value.ItemTexts (p : Text → Prop) : List Value → Prop
  | [] => True
  | v :: vs => v.Texts p ∧ Value.ItemTexts p vs

/-- `Value.Texts` for every member, and the property of its key. -/
def Value.MemberTexts (p : Text → Prop) : List (Text × Value) → Prop
  | [] => True
  | (k, v) :: ms => p k ∧ v.Texts p ∧ Value.MemberTexts p ms

end

mutual

theorem Value.texts_of_forall {p : Text → Prop} (hp : ∀ t, p t) (v : Value) : v.Texts p := by
  cases v with
  | str t => exact hp t
  | arr items => exact Value.itemTexts_of_forall hp items
  | obj members => exact Value.memberTexts_of_forall hp members
  | _ => exact trivial

theorem Value.itemTexts_of_forall {p : Text → Prop} (hp : ∀ t, p t) (vs : List Value) :
    Value.ItemTexts p vs := by
  cases vs with
  | nil => exact trivial
  | cons v vs => exact ⟨v.texts_of_forall hp, Value.itemTexts_of_forall hp vs⟩

theorem Value.memberTexts_of_forall {p : Text → Prop} (hp : ∀ t, p t)
    (ms : List (Text × Value)) : Value.MemberTexts p ms := by
  cases ms with
  | nil => exact trivial
  | cons m ms => exact ⟨hp m.1, m.2.texts_of_forall hp, Value.memberTexts_of_forall hp ms⟩

end

mutual

theorem Value.Texts.imp {p q : Text → Prop} (h : ∀ t, p t → q t) {v : Value} (hv : v.Texts p) :
    v.Texts q := by
  cases v with
  | str t => exact h t hv
  | arr items => exact Value.ItemTexts.imp h hv
  | obj members => exact Value.MemberTexts.imp h hv
  | _ => exact trivial

theorem Value.ItemTexts.imp {p q : Text → Prop} (h : ∀ t, p t → q t) {vs : List Value}
    (hvs : Value.ItemTexts p vs) : Value.ItemTexts q vs := by
  cases vs with
  | nil => exact trivial
  | cons v vs => exact ⟨Value.Texts.imp h hvs.1, Value.ItemTexts.imp h hvs.2⟩

theorem Value.MemberTexts.imp {p q : Text → Prop} (h : ∀ t, p t → q t) {ms : List (Text × Value)}
    (hms : Value.MemberTexts p ms) : Value.MemberTexts q ms := by
  cases ms with
  | nil => exact trivial
  | cons m ms =>
      exact ⟨h m.1 hms.1, Value.Texts.imp h hms.2.1, Value.MemberTexts.imp h hms.2.2⟩

end

theorem Value.MembersStrict.nodup {ms : List (Text × Value)} (h : Value.MembersStrict ms) :
    (ms.map (·.1)).Nodup := by
  induction ms with
  | nil => exact List.nodup_nil
  | cons m ms ih =>
      obtain ⟨-, hkey, hrest⟩ := h
      rw [List.map_cons, List.nodup_cons]
      refine ⟨fun hmem => ?_, ih hrest⟩
      obtain ⟨m', hm', heq⟩ := List.mem_map.mp hmem
      exact hkey m' hm' heq

theorem Value.MembersStrict.of_nodup {ms : List (Text × Value)} (hn : (ms.map (·.1)).Nodup)
    (hv : ∀ m ∈ ms, m.2.Strict) : Value.MembersStrict ms := by
  induction ms with
  | nil => exact trivial
  | cons m ms ih =>
      obtain ⟨hfirst, hrest⟩ := List.forall_mem_cons.mp hv
      rw [List.map_cons, List.nodup_cons] at hn
      refine ⟨hfirst, ?_, ih hn.2 hrest⟩
      intro m' hm' hkey
      exact hn.1 (List.mem_map.mpr ⟨m', hm', hkey⟩)

/-! ## Values -/

/-- Between items stands a comma, between a key and its value a colon, and blanks after them. -/
structure Layout.Separates (l : Layout) : Prop where
  comma : ∃ w, Blanks w ∧ l.comma = (',' : CodePoint) :: w
  colon : ∃ w, Blanks w ∧ l.colon = (':' : CodePoint) :: w

theorem Layout.blanks_newline (l : Layout) (depth : Nat) : Blanks (l.newline depth) := by
  rw [Layout.newline]
  cases l.indent with
  | none => exact .nil
  | some n =>
      intro c hc
      rcases List.mem_cons.mp hc with rfl | hc
      · simp
      · exact .inl (List.eq_of_mem_replicate hc)

/-- A member as it is printed, with blanks around it. -/
theorem member_derives {l : Layout} (hl : l.Separates) {a k s e : Text} {v : Value} (ha : Blanks a)
    (hk : Chars (k.flatMap (escape l.ascii)) k) (hs : Derives s v) (he : Blanks e) :
    Member (a ++ (quote l.ascii k ++ (l.colon ++ (s ++ e)))) (k, v) := by
  obtain ⟨w, hw, hcolon⟩ := hl.colon
  have hm := Member.mk ha hk .nil hw hs he
  simpa [quote, hcolon] using hm

mutual

/-- The printer writes a text that derives the value. -/
theorem render_derives {l : Layout} (hl : l.Separates) (depth : Nat) (v : Value) (hv : v.Strict)
    (ht : v.Texts fun t => Chars (t.flatMap (escape l.ascii)) t) :
    Derives (render l depth v) v := by
  cases v with
  | null => exact .nullWord
  | bool b =>
      cases b with
      | true => exact .trueWord
      | false => exact .falseWord
  | int i =>
      obtain ⟨n, hn, hi, htext, hvalue⟩ := integer_numeral i
      rw [render, ← htext, ← hvalue]
      exact .integer hn hi
  | num x =>
      obtain ⟨n, hn, hi, htext, rfl⟩ := double_numeral (l := .json) rfl hv
      rw [render, ← htext]
      exact .double hn hi (denotes_iff.mpr rfl) hv
  | str t => exact .string ht
  | arr vs =>
      cases vs with
      | nil => exact .emptyArray .nil
      | cons v vs =>
          have hfirst := render_derives hl (depth + 1) v hv.1 ht.1
          have hitems := items_derive hl (depth + 1) vs hv.2 ht.2
            (l.blanks_newline (depth + 1)) hfirst (l.blanks_newline depth)
          simpa [render] using Derives.array hitems
  | obj ms =>
      cases ms with
      | nil => exact .emptyObject .nil
      | cons m ms =>
          obtain ⟨k, v⟩ := m
          have hfirst := render_derives hl (depth + 1) v hv.1 ht.2.1
          have hmembers := members_derive hl (depth + 1) ms hv.2.2 ht.2.2
            (l.blanks_newline (depth + 1)) ht.1 hfirst (l.blanks_newline depth)
          simpa [render] using Derives.object hmembers (Value.MembersStrict.nodup hv)

/-- The items after the first one, behind a first one that is already written. -/
theorem items_derive {l : Layout} (hl : l.Separates) (depth : Nat) (vs : List Value)
    (hvs : Value.AllStrict vs)
    (ht : Value.ItemTexts (fun t => Chars (t.flatMap (escape l.ascii)) t) vs)
    {a s e : Text} {v : Value} (ha : Blanks a) (hs : Derives s v) (he : Blanks e) :
    Items (a ++ (s ++ (renderItems l depth vs ++ e))) (v :: vs) := by
  cases vs with
  | nil => exact .one ha hs he
  | cons v' vs =>
      obtain ⟨w, hw, hcomma⟩ := hl.comma
      have hfirst := render_derives hl depth v' hvs.1 ht.1
      have hitems := items_derive hl depth vs hvs.2 ht.2 (hw.append (l.blanks_newline depth)) hfirst
        he
      simpa [renderItems, hcomma] using Items.cons ha hs .nil hitems

/-- The members after the first one, behind a first one that is already written. -/
theorem members_derive {l : Layout} (hl : l.Separates) (depth : Nat) (ms : List (Text × Value))
    (hms : Value.MembersStrict ms)
    (ht : Value.MemberTexts (fun t => Chars (t.flatMap (escape l.ascii)) t) ms)
    {a k s e : Text} {v : Value} (ha : Blanks a) (hk : Chars (k.flatMap (escape l.ascii)) k)
    (hs : Derives s v) (he : Blanks e) :
    Members (a ++ (quote l.ascii k ++ (l.colon ++ (s ++ (renderMembers l depth ms ++ e)))))
      ((k, v) :: ms) := by
  cases ms with
  | nil => exact .one (member_derives hl ha hk hs he)
  | cons m ms =>
      obtain ⟨k', v'⟩ := m
      obtain ⟨w, hw, hcomma⟩ := hl.comma
      have hfirst := render_derives hl depth v' hms.1 ht.2.1
      have hmembers := members_derive hl depth ms hms.2.2 ht.2.2
        (hw.append (l.blanks_newline depth)) ht.1 hfirst he
      simpa [renderMembers, hcomma] using
        Members.cons (member_derives hl ha hk hs .nil) hmembers

end

theorem renderMembers_append (l : Layout) (depth : Nat) (xs ys : List (Text × Value)) :
    renderMembers l depth (xs ++ ys) = renderMembers l depth xs ++ renderMembers l depth ys := by
  induction xs with
  | nil => rfl
  | cons x xs ih =>
      obtain ⟨k, v⟩ := x
      rw [List.cons_append, renderMembers, renderMembers, ih]
      simp only [List.append_assoc]

/-- A string in an object is written in one place. -/
theorem render_obj_str (l : Layout) (depth : Nat) (m : Text × Value) (xs ys : List (Text × Value))
    (k : Text) :
    ∃ a b, ∀ t, render l depth (.obj (m :: (xs ++ (k, .str t) :: ys))) =
      a ++ (t.flatMap (escape l.ascii) ++ b) := by
  obtain ⟨mk, mv⟩ := m
  refine ⟨('{' : CodePoint) :: (l.newline (depth + 1) ++ quote l.ascii mk ++ l.colon ++
      render l (depth + 1) mv ++ renderMembers l (depth + 1) xs ++ l.comma ++
      l.newline (depth + 1) ++ quote l.ascii k ++ l.colon ++ [('"' : CodePoint)]),
    ('"' : CodePoint) :: (renderMembers l (depth + 1) ys ++ l.newline depth ++
      [('}' : CodePoint)]), fun t => ?_⟩
  rw [render, renderMembers_append, renderMembers, render]
  simp [quote]

/-- A layout that escapes no more than it must is read back as the value. -/
theorem render_document (hl : l.Separates) (hascii : l.ascii = false) {v : Value}
    (hv : v.Strict) : Document (render l 0 v) v := by
  refine ⟨[], render l 0 v, [], .nil, render_derives hl 0 v hv ?_, .nil, by simp⟩
  rw [hascii]
  exact v.texts_of_forall chars_of_not_ascii

theorem separates_indented : Layout.indented.Separates :=
  ⟨⟨[], .nil, rfl⟩, ⟨[' '], fun _ hc => .inl (List.mem_singleton.mp hc), rfl⟩⟩

theorem separates_compact : Layout.compact.Separates :=
  ⟨⟨[], .nil, rfl⟩, ⟨[], .nil, rfl⟩⟩

theorem Value.indented_document {v : Value} (hv : v.Strict) : Document v.indented v :=
  render_document separates_indented rfl hv

end JsonTap.Json

namespace JsonTap

/-! ## Values as data -/

mutual

theorem Datum.toJsonWith_ofJson (o : List Octet → Option Json.Value) (v : Json.Value) :
    (Datum.ofJson v).toJsonWith o = some v := by
  cases v with
  | arr vs => simp [Datum.ofJson, Datum.toJsonWith, Datum.listToJson_ofJson o vs]
  | obj ms => simp [Datum.ofJson, Datum.toJsonWith, Datum.entriesToJson_ofJson o ms]
  | _ => rfl

theorem Datum.listToJson_ofJson (o : List Octet → Option Json.Value) (vs : List Json.Value) :
    Datum.listToJson o (Datum.listOfJson vs) = some vs := by
  cases vs with
  | nil => rfl
  | cons v vs =>
      rw [Datum.listOfJson, Datum.listToJson, Datum.toJsonWith_ofJson o v,
        Datum.listToJson_ofJson o vs]

theorem Datum.entriesToJson_ofJson (o : List Octet → Option Json.Value)
    (ms : List (Text × Json.Value)) :
    Datum.entriesToJson o (Datum.entriesOfJson ms) = some ms := by
  cases ms with
  | nil => rfl
  | cons m ms =>
      rw [Datum.entriesOfJson, Datum.entriesToJson, Datum.toJsonWith_ofJson o m.2,
        Datum.entriesToJson_ofJson o ms]

end

namespace Payload

theorem render?_ofJson (v : Json.Value) : render? (.ofJson v) = some v.indented := by
  rw [render?, Datum.toJson?, Datum.toJsonWith_ofJson, Option.map_some]

theorem parse_indented {v : Json.Value} (hv : v.Strict) : parse v.indented = .ok v :=
  parse_eq_ok_iff.mpr (Json.Value.indented_document hv)

/-- What the log shows of a value reads back as the value, so it shows no other value. -/
theorem parse_render (v : Json.Value) (hv : v.Strict) :
    ∃ t, render? (.ofJson v) = some t ∧ parse t = .ok v ∧
      ∀ w : Json.Value, w.Strict → render? (.ofJson w) = some t → w = v := by
  refine ⟨v.indented, render?_ofJson v, parse_indented hv, ?_⟩
  intro w hw h
  rw [render?_ofJson, Option.some.injEq] at h
  have hread : (Except.ok w : Except Fault Json.Value) = .ok v :=
    calc Except.ok w = parse w.indented := (parse_indented hw).symm
      _ = parse v.indented := by rw [h]
      _ = .ok v := parse_indented hv
  exact Except.ok.inj hread

/-- A lone surrogate as a key, a negative zero and an empty object are shown and read back. -/
theorem parse_render_nested :
    (Json.Value.obj [([0xD800], .arr [.num (.signed true 0), .int (-12)]), ([], .obj [])]).Strict ∧
      ∃ t, render? (.ofJson (.obj [([0xD800], .arr [.num (.signed true 0), .int (-12)]),
          ([], .obj [])])) = some t ∧
        parse t = .ok (.obj [([0xD800], .arr [.num (.signed true 0), .int (-12)]), ([], .obj [])]) ∧
        ∀ w : Json.Value, w.Strict → render? (.ofJson w) = some t →
          w = .obj [([0xD800], .arr [.num (.signed true 0), .int (-12)]), ([], .obj [])] := by
  have hv : (Json.Value.obj [([0xD800], .arr [.num (.signed true 0), .int (-12)]),
      ([], .obj [])]).Strict := by
    simp [Json.Value.Strict, Json.Value.MembersStrict, Json.Value.AllStrict, Double.isFinite,
      infinityCode]
  exact ⟨hv, parse_render _ hv⟩

end Payload

end JsonTap
