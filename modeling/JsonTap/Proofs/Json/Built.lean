import JsonTap.Proofs.Json.RoundTrip

/-!
# What holds of all that is written

A property of texts that goes from two texts to both together holds of all that is written of a
value in a layout if it holds of the parts: the words and brackets, the separators of the layout,
the numbers, and the strings in the value (`Layout.Builds.render`).
-/

namespace JsonTap.Json

/-! ## Code points -/

/-- The ways in which a code point is written inside a string. -/
inductive Escaped (ascii : Bool) (c : CodePoint) : Text → Prop
  | letter (s : String) : s ∈ ["\\\"", "\\\\", "\\n", "\\r", "\\t", "\\b", "\\f"] →
      Escaped ascii c (Text.ofString s)
  | unit : Escaped ascii c (unitEscape c.val)
  | pair (n m : Nat) : ascii = true → Escaped ascii c (unitEscape n ++ unitEscape m)
  | plain : 0x20 ≤ c.val → (ascii = true → c.val < 0x7F) → Escaped ascii c [c]

/-- What a code point is written as is one of the ways to write it. -/
theorem escaped_escape (ascii : Bool) (c : CodePoint) : Escaped ascii c (escape ascii c) := by
  have hite : ∀ {p : Prop} [Decidable p] {s t : Text}, Escaped ascii c s →
      (¬ p → Escaped ascii c t) → Escaped ascii c (if p then s else t) := by
    intro p _ s t hs ht
    by_cases h : p
    · rw [if_pos h]
      exact hs
    · rw [if_neg h]
      exact ht h
  unfold escape
  -- seven escapes in one letter, then those by number
  iterate 7
    apply hite (.letter _ (by simp))
    intro _
  apply hite .unit
  intro hcontrol
  by_cases hascii : (ascii && decide (c.val ≥ 0x7F)) = true
  · rw [if_pos hascii]
    exact hite .unit fun _ => .pair _ _ (Bool.and_eq_true_iff.mp hascii).1
  · rw [if_neg hascii]
    apply Escaped.plain (Nat.le_of_not_lt hcontrol)
    intro h
    rw [h, Bool.true_and, decide_eq_true_eq] at hascii
    exact Nat.lt_of_not_le hascii

/-! ## Values -/

/-- A property of the parts that a layout writes, and of two such texts together. A line that is
begun is either inside a list or an object, or holds the bracket that closes it. The strings that
it speaks of are those with the property `q`. -/
structure Layout.Builds (l : Layout) (p q : Text → Prop) : Prop where
  append : ∀ {s t : Text}, p s → p t → p (s ++ t)
  nothing : p []
  word : ∀ s ∈ ["null", "true", "false", "[]", "\x7b\x7d", "[", "\x7b"], p (Text.ofString s)
  comma : p l.comma
  colon : p l.colon
  newline : ∀ depth, 0 < depth → p (l.newline depth)
  closing : ∀ depth, ∀ s ∈ ["]", "\x7d"], p (l.newline depth ++ Text.ofString s)
  int : ∀ n, p (Text.ofInt n)
  num : ∀ x : Double, p (x.render .json)
  str : ∀ t, q t → p (quote l.ascii t)

namespace Layout.Builds

mutual

/-- What holds of the pieces holds of a value in writing. -/
theorem render {l : Layout} {p q : Text → Prop} (h : l.Builds p q) (depth : Nat) (v : Value)
    (ht : v.Texts q) : p (render l depth v) := by
  cases v with
  | null => exact h.word "null" (by simp)
  | bool b =>
      cases b with
      | true => exact h.word "true" (by simp)
      | false => exact h.word "false" (by simp)
  | int n => exact h.int n
  | num x => exact h.num x
  | str t => exact h.str t ht
  | arr vs =>
      cases vs with
      | nil => exact h.word "[]" (by simp)
      | cons v vs =>
          have hopen := h.word "[" (by simp)
          have hbegin := h.newline (depth + 1) (Nat.succ_pos depth)
          have hfirst := h.render (depth + 1) v ht.1
          have hrest := h.renderItems (depth + 1) (Nat.succ_pos depth) vs ht.2
          have hclose := h.closing depth "]" (by simp)
          have hall := h.append hopen (h.append (h.append (h.append hbegin hfirst) hrest) hclose)
          rw [← List.append_assoc _ (l.newline depth)] at hall
          exact hall
  | obj ms =>
      cases ms with
      | nil => exact h.word "\x7b\x7d" (by simp)
      | cons m ms =>
          obtain ⟨k, v⟩ := m
          have hopen := h.word "\x7b" (by simp)
          have hbegin := h.newline (depth + 1) (Nat.succ_pos depth)
          have hkey := h.str k ht.1
          have hfirst := h.render (depth + 1) v ht.2.1
          have hrest := h.renderMembers (depth + 1) (Nat.succ_pos depth) ms ht.2.2
          have hclose := h.closing depth "\x7d" (by simp)
          have hall := h.append hopen (h.append (h.append (h.append (h.append (h.append
            hbegin hkey) h.colon) hfirst) hrest) hclose)
          rw [← List.append_assoc _ (l.newline depth)] at hall
          exact hall

theorem renderItems {l : Layout} {p q : Text → Prop} (h : l.Builds p q) (depth : Nat)
    (hdepth : 0 < depth) (vs : List Value) (ht : Value.ItemTexts q vs) :
    p (renderItems l depth vs) := by
  cases vs with
  | nil => exact h.nothing
  | cons v vs =>
      have hfirst := h.render depth v ht.1
      have hrest := h.renderItems depth hdepth vs ht.2
      exact h.append (h.append (h.append h.comma (h.newline depth hdepth)) hfirst) hrest

theorem renderMembers {l : Layout} {p q : Text → Prop} (h : l.Builds p q) (depth : Nat)
    (hdepth : 0 < depth) (ms : List (Text × Value)) (ht : Value.MemberTexts q ms) :
    p (renderMembers l depth ms) := by
  cases ms with
  | nil => exact h.nothing
  | cons m ms =>
      obtain ⟨k, v⟩ := m
      have hkey := h.str k ht.1
      have hfirst := h.render depth v ht.2.1
      have hrest := h.renderMembers depth hdepth ms ht.2.2
      exact h.append (h.append (h.append (h.append (h.append h.comma (h.newline depth hdepth)) hkey)
        h.colon) hfirst) hrest

end

end Layout.Builds

end JsonTap.Json
