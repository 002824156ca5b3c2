import JsonTap.Json.Refusal
import JsonTap.Proofs.Json.Line

/-!
# Texts that can be shown

A quoted text has printable code points only, whatever stands in it (`printable_quoted`): what is
not printable is escaped in ASCII. So is the message of every refusal, for it has words of its own
and quotes what it names (`Refusal.printable_message`).
-/

namespace JsonTap

namespace Text

def Printable (t : Text) : Prop := ∀ c ∈ t, Unicode.isPrintable c = true

theorem printable_append {s t : Text} : (s ++ t).Printable ↔ s.Printable ∧ t.Printable :=
  List.forall_mem_append

theorem printable_cons {c : CodePoint} {t : Text} :
    Printable (c :: t) ↔ Unicode.isPrintable c = true ∧ t.Printable :=
  List.forall_mem_cons

theorem printable_ite {p : Prop} [Decidable p] {s t : Text} (hs : s.Printable)
    (ht : t.Printable) : (if p then s else t).Printable := by
  split
  · exact hs
  · exact ht

theorem isPrintable_of_ascii {c : CodePoint} (h : 0x20 ≤ c.val ∧ c.val < 0x7F) :
    Unicode.isPrintable c = true := by
  rw [Unicode.isPrintable, if_pos h.2]
  exact decide_eq_true h.1

theorem AsciiLine.printable {t : Text} (h : t.AsciiLine) : t.Printable :=
  fun c hc => isPrintable_of_ascii (h c hc)

theorem printable_ofString {s : String}
    (h : s.toList.all (fun c => decide (0x20 ≤ c.toNat ∧ c.toNat < 0x7F)) = true) :
    (ofString s).Printable :=
  (asciiLine_ofString h).printable

theorem Printable.no_lineFeed {t : Text} (h : t.Printable) : ('\n' : CodePoint) ∉ t := by
  intro hmem
  exact absurd (h _ hmem) (by decide)

/-! ## Quoted texts -/

theorem printable_numberEscape {letter : Char} (h : 0x20 ≤ letter.toNat ∧ letter.toNat < 0x7F)
    (w n : Nat) : (numberEscape letter w n).Printable := by
  apply AsciiLine.printable
  unfold numberEscape
  exact asciiLine_cons.mpr ⟨asciiLine_char (by decide),
    asciiLine_cons.mpr ⟨asciiLine_char h, asciiLine_hex w n⟩⟩

theorem printable_quotedCodePoint {mark : CodePoint} (hm : Unicode.isPrintable mark = true)
    (c : CodePoint) : (quotedCodePoint mark c).Printable := by
  unfold quotedCodePoint
  by_cases hmark : (decide (c = mark) || decide (c = '\\')) = true
  · rw [if_pos hmark]
    have hc : Unicode.isPrintable c = true := by
      rcases Bool.or_eq_true_iff.mp hmark with h | h
      · rw [of_decide_eq_true h]
        exact hm
      · rw [of_decide_eq_true h]
        rfl
    exact printable_cons.mpr ⟨rfl, printable_cons.mpr ⟨hc, List.forall_mem_nil _⟩⟩
  rw [if_neg hmark]
  -- the three line ends and the tab have escapes of their own
  iterate 3 refine printable_ite (printable_ofString (by decide)) ?_
  by_cases hprint : Unicode.isPrintable c = true
  · rw [if_pos hprint]
    exact List.forall_mem_singleton.mpr hprint
  · rw [if_neg hprint]
    exact printable_ite (printable_numberEscape (by decide) _ _)
      (printable_ite (printable_numberEscape (by decide) _ _)
        (printable_numberEscape (by decide) _ _))

theorem printable_quoted (t : Text) : (quoted t).Printable := by
  have hm : Unicode.isPrintable (quoteMark t) = true := by
    unfold quoteMark
    split <;> rfl
  unfold quoted
  refine printable_cons.mpr ⟨hm, printable_append.mpr ⟨?_, List.forall_mem_singleton.mpr hm⟩⟩
  intro x hx
  obtain ⟨c, -, hxc⟩ := List.mem_flatMap.mp hx
  exact printable_quotedCodePoint hm c x hxc

end Text

/-! ## Messages about refusals -/

namespace Json

open Text

theorem SyntaxFault.printable_message (f : SyntaxFault) : f.message.Printable := by
  cases f <;> exact printable_ofString (by decide)

/-- Whatever key, constant or number it names, a refusal is told in printable code points. -/
theorem Refusal.printable_message (r : Refusal) : r.message.Printable := by
  cases r with
  | malformed fault place => exact fault.printable_message
  | constant name =>
      exact printable_append.mpr ⟨printable_ofString (by decide), printable_quoted name⟩
  | duplicateKey key =>
      exact printable_append.mpr ⟨printable_ofString (by decide), printable_quoted key⟩
  | outOfRange literal =>
      exact printable_append.mpr ⟨printable_append.mpr
        ⟨printable_ofString (by decide), printable_quoted literal⟩, printable_ofString (by decide)⟩

end Json

theorem Payload.printable_message {t : Text} {f : Fault} (h : Payload.parse t = .error f) :
    f.message.Printable := by
  unfold Payload.parse at h
  split at h
  · cases h
  · next r _ =>
      cases h
      exact r.printable_message

end JsonTap
