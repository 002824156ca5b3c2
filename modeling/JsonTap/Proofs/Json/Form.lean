import JsonTap.Json.Refusal
import JsonTap.Proofs.Json.Grammar
import Mathlib.Data.List.Induction
import Mathlib.Data.List.Nodup

/-!
# The form of JSON

`Grammar.DocumentForm s os` says that the text `s` has the form of JSON, whether or not it is
strict: a constant that JSON does not have may stand for a value, a number may be too great, and a
key may be there twice in one object. `os` are the offences that this makes, each with the place
where the construct ends that it is about. They stand in the order of these places
(`Form.ordered`), since an object repeats a key only once it is closed.

The strict grammar is the part of it without offences (`Derives.form`, `Form.derives`).
-/

namespace JsonTap.Json.Grammar

/-! ## Offences -/

/-- What strictness forbids. -/
inductive Breach where
  | constant (name : Text)
  | duplicateKey (key : Text)
  | outOfRange (literal : Text)

/-- The refusal of a text with nothing else wrong. -/
def Breach.refusal : Breach → Refusal
  | .constant name => .constant name
  | .duplicateKey key => .duplicateKey key
  | .outOfRange literal => .outOfRange literal

structure Offence where
  /-- How much of the text there is up to the end of the construct. -/
  stop : Nat
  breach : Breach

/-- The offences of a text that stands behind `n` code points. -/
def behind (n : Nat) (os : List Offence) : List Offence :=
  os.map fun o => { o with stop := n + o.stop }

/-- The constants that JSON does not have. -/
inductive Foreign : Text → Prop
  | nan : Foreign "NaN"
  | infinity : Foreign "Infinity"
  | minusInfinity : Foreign "-Infinity"

/-- Of the keys of an object, `k` is the first one that is equal to a key before it. -/
def FirstRepeat (ks : List Text) (k : Text) : Prop :=
  ∃ before after, ks = before ++ k :: after ∧ before.Nodup ∧ k ∈ before

/-! ## Forms -/

mutual

inductive Form : Text → List Offence → Prop
  | nullWord : Form "null" []
  | trueWord : Form "true" []
  | falseWord : Form "false" []
  | foreign {name : Text} : Foreign name → Form name [⟨name.length, .constant name⟩]
  | integer {n : Numeral} : IsNumber n → n.isInteger = true → Form n.text []
  | double {n : Numeral} {x : Double} :
      IsNumber n → n.isInteger = false → Denotes n x → x.isFinite = true → Form n.text []
  | overflow {n : Numeral} {x : Double} :
      IsNumber n → n.isInteger = false → Denotes n x → x.isFinite = false →
      Form n.text [⟨n.text.length, .outOfRange n.text⟩]
  | string {s t : Text} : Chars s t → Form (('"' : CodePoint) :: (s ++ [('"' : CodePoint)])) []
  | emptyArray {w : Text} :
      Blanks w → Form (('[' : CodePoint) :: (w ++ [(']' : CodePoint)])) []
  | array {s : Text} {os : List Offence} :
      ItemForms s os → Form (('[' : CodePoint) :: (s ++ [(']' : CodePoint)])) (behind 1 os)
  | emptyObject {w : Text} :
      Blanks w → Form (('{' : CodePoint) :: (w ++ [('}' : CodePoint)])) []
  | object {s : Text} {ks : List Text} {os : List Offence} :
      MemberForms s ks os → ks.Nodup →
      Form (('{' : CodePoint) :: (s ++ [('}' : CodePoint)])) (behind 1 os)
  | repeating {s k : Text} {ks : List Text} {os : List Offence} :
      MemberForms s ks os → FirstRepeat ks k →
      Form (('{' : CodePoint) :: (s ++ [('}' : CodePoint)]))
        (behind 1 os ++ [⟨s.length + 2, .duplicateKey k⟩])

inductive ItemForms : Text → List Offence → Prop
  | one {a s b : Text} {os : List Offence} :
      Blanks a → Form s os → Blanks b → ItemForms (a ++ (s ++ b)) (behind a.length os)
  | cons {a s b r : Text} {os os' : List Offence} :
      Blanks a → Form s os → Blanks b → ItemForms r os' →
      ItemForms (a ++ (s ++ (b ++ (',' : CodePoint) :: r)))
        (behind a.length os ++ behind (a.length + s.length + b.length + 1) os')

/-- The members of an object, with commas between them, and their keys. -/
inductive MemberForms : Text → List Text → List Offence → Prop
  | one {s key : Text} {os : List Offence} : MemberForm s key os → MemberForms s [key] os
  | cons {s r key : Text} {ks : List Text} {os os' : List Offence} :
      MemberForm s key os → MemberForms r ks os' →
      MemberForms (s ++ (',' : CodePoint) :: r) (key :: ks) (os ++ behind (s.length + 1) os')

/-- A key in quotes, a colon and a value. -/
inductive MemberForm : Text → Text → List Offence → Prop
  | mk {a k b c s d key : Text} {os : List Offence} :
      Blanks a → Chars k key → Blanks b → Blanks c → Form s os → Blanks d →
      MemberForm (a ++ ('"' : CodePoint) :: (k ++ ('"' : CodePoint) ::
        (b ++ (':' : CodePoint) :: (c ++ (s ++ d))))) key
        (behind (a.length + k.length + b.length + c.length + 3) os)

end

/-- A text with the form of one value and blanks around it. -/
def DocumentForm (s : Text) (os : List Offence) : Prop :=
  ∃ a t b os', Blanks a ∧ Form t os' ∧ Blanks b ∧ s = a ++ (t ++ b) ∧ os = behind a.length os'

/-- No offence is about a constant. -/
def Plain (os : List Offence) : Prop := ∀ o ∈ os, ∀ name, o.breach ≠ .constant name

/-- A text that JSON's syntax allows: a key may be there twice, and a number too great. -/
def Syntactic (s : Text) : Prop := ∃ os, DocumentForm s os ∧ Plain os

/-! ## The order of offences -/

/-- The offences of a text of length `n`, in the order in which their constructs end. -/
structure Ordered (n : Nat) (os : List Offence) : Prop where
  increasing : os.Pairwise (·.stop < ·.stop)
  within : ∀ o ∈ os, 0 < o.stop ∧ o.stop ≤ n

theorem Ordered.nil (n : Nat) : Ordered n [] := ⟨List.Pairwise.nil, nofun⟩

theorem Ordered.single {n : Nat} (hn : 0 < n) (breach : Breach) : Ordered n [⟨n, breach⟩] := by
  refine ⟨List.pairwise_singleton _ _, ?_⟩
  intro o ho
  rw [List.mem_singleton.mp ho]
  exact ⟨hn, Nat.le_refl n⟩

/-- Offences that end within a text end within a longer one. -/
theorem Ordered.mono {n m : Nat} {os : List Offence} (h : Ordered n os) (hle : n ≤ m) :
    Ordered m os :=
  ⟨h.increasing, fun o ho => ⟨(h.within o ho).1, Nat.le_trans (h.within o ho).2 hle⟩⟩

theorem mem_behind {m : Nat} {os : List Offence} {o : Offence} (h : o ∈ behind m os) :
    ∃ o' ∈ os, o.stop = m + o'.stop := by
  obtain ⟨o', ho', rfl⟩ := List.mem_map.mp h
  exact ⟨o', ho', rfl⟩

/-- Offences behind other text end later by its length. -/
theorem Ordered.behind {n : Nat} {os : List Offence} (h : Ordered n os) (m : Nat) :
    Ordered (m + n) (behind m os) := by
  constructor
  · refine List.pairwise_map.mpr (h.increasing.imp ?_)
    intro o o' hlt
    exact Nat.add_lt_add_left hlt m
  · intro o ho
    obtain ⟨o', ho', hstop⟩ := mem_behind ho
    have hin := h.within o' ho'
    omega

/-- Behind a text the constructs end later. -/
theorem Ordered.append {n m n' : Nat} {os os' : List Offence} (h : Ordered n os)
    (h' : Ordered n' os') (hle : n ≤ m) : Ordered (m + n') (os ++ Grammar.behind m os') := by
  have hlater := h'.behind m
  constructor
  · refine List.pairwise_append.mpr ⟨h.increasing, hlater.increasing, ?_⟩
    intro o ho o' ho'
    obtain ⟨o'', ho'', hstop⟩ := mem_behind ho'
    have hin := h.within o ho
    have hpos := (h'.within o'' ho'').1
    omega
  · intro o ho
    rcases List.mem_append.mp ho with ho | ho
    · exact (h.mono (Nat.le_trans hle (Nat.le_add_right m n'))).within o ho
    · exact hlater.within o ho

/-- Of ordered offences the first one ends before all others. -/
theorem Ordered.first {n : Nat} {o : Offence} {os : List Offence} (h : Ordered n (o :: os)) :
    ∀ o' ∈ o :: os, o' ≠ o → o.stop < o'.stop := by
  intro o' ho' hne
  rcases List.mem_cons.mp ho' with rfl | ho'
  · exact absurd rfl hne
  · exact (List.pairwise_cons.mp h.increasing).1 o' ho'

theorem Foreign.length_pos {name : Text} (h : Foreign name) : 0 < name.length := by
  cases h <;> decide

theorem IsNumber.length_pos {n : Numeral} (h : IsNumber n) : 0 < n.text.length := by
  have hne : n.whole ≠ [] := by
    rcases h.whole with hw | hw
    · rw [hw]
      exact List.cons_ne_nil _ _
    · exact hw.1.1
  have hpos := List.length_pos_iff.mpr hne
  simp only [Numeral.text, List.length_append]
  omega

mutual

/-- The offences of a value end one after the other, within it. -/
theorem Form.ordered {t : Text} {os : List Offence} (h : Form t os) : Ordered t.length os := by
  match h with
  | .nullWord | .trueWord | .falseWord | .integer _ _ | .double _ _ _ _ => exact .nil _
  | .string _ | .emptyArray _ | .emptyObject _ => exact .nil _
  | .foreign hname => exact .single hname.length_pos _
  | .overflow hn _ _ _ => exact .single hn.length_pos _
  | .array hi =>
      refine ((ItemForms.ordered hi).behind 1).mono ?_
      simp only [List.length_cons, List.length_append]
      omega
  | .object hm _ =>
      refine ((MemberForms.ordered hm).behind 1).mono ?_
      simp only [List.length_cons, List.length_append]
      omega
  | @Form.repeating s k ks os hm _ =>
      -- the brace that closes the object is behind all that ends inside
      have hclose := ((MemberForms.ordered hm).behind 1).append (m := s.length + 1)
        (.single Nat.one_pos (.duplicateKey k)) (Nat.le_of_eq (Nat.add_comm 1 s.length))
      refine Ordered.mono hclose ?_
      simp only [List.length_cons, List.length_append]
      exact Nat.le_refl _

theorem ItemForms.ordered {t : Text} {os : List Offence} (h : ItemForms t os) :
    Ordered t.length os := by
  match h with
  | .one _ hv _ =>
      refine ((Form.ordered hv).behind _).mono ?_
      simp only [List.length_append]
      omega
  | .cons _ hv _ hr =>
      refine (((Form.ordered hv).behind _).append (ItemForms.ordered hr) ?_).mono ?_
      · omega
      · simp only [List.length_append, List.length_cons]
        omega

theorem MemberForms.ordered {t : Text} {ks : List Text} {os : List Offence}
    (h : MemberForms t ks os) : Ordered t.length os := by
  match h with
  | .one hm => exact MemberForm.ordered hm
  | .cons hm hr =>
      refine ((MemberForm.ordered hm).append (MemberForms.ordered hr) (Nat.le_succ _)).mono ?_
      simp only [List.length_append, List.length_cons]
      omega

theorem MemberForm.ordered {t key : Text} {os : List Offence} (h : MemberForm t key os) :
    Ordered t.length os := by
  match h with
  | .mk _ _ _ _ hv _ =>
      refine ((Form.ordered hv).behind _).mono ?_
      simp only [List.length_append, List.length_cons]
      omega

end

theorem DocumentForm.ordered {s : Text} {os : List Offence} (h : DocumentForm s os) :
    Ordered s.length os := by
  obtain ⟨a, t, b, os', -, ht, -, rfl, rfl⟩ := h
  refine (ht.ordered.behind a.length).mono ?_
  simp only [List.length_append]
  omega

/-! ## Strict texts -/

mutual

/-- A text of the strict grammar has the form of a value, without offences. -/
theorem Derives.form {t : Text} {v : Value} (h : Derives t v) : Form t [] := by
  match h with
  | .nullWord => exact .nullWord
  | .trueWord => exact .trueWord
  | .falseWord => exact .falseWord
  | .integer hn hi => exact .integer hn hi
  | .double hn hi hx hfinite => exact .double hn hi hx hfinite
  | .string hs => exact .string hs
  | .emptyArray hw => exact .emptyArray hw
  | .array hi => exact .array (Items.form hi)
  | .emptyObject hw => exact .emptyObject hw
  | .object hm hn => exact .object (Members.form hm) hn

theorem Items.form {t : Text} {vs : List Value} (h : Items t vs) : ItemForms t [] := by
  match h with
  | .one ha hv hb => exact .one ha (Derives.form hv) hb
  | .cons ha hv hb hr => exact .cons ha (Derives.form hv) hb (Items.form hr)

theorem Members.form {t : Text} {ms : List (Text × Value)} (h : Members t ms) :
    MemberForms t (ms.map (·.1)) [] := by
  match h with
  | .one hm => exact .one (Member.form hm)
  | .cons hm hr => exact .cons (Member.form hm) (Members.form hr)

theorem Member.form {t : Text} {m : Text × Value} (h : Member t m) : MemberForm t m.1 [] := by
  match h with
  | .mk ha hk hb hc hv hd => exact .mk ha hk hb hc (Derives.form hv) hd

end

theorem behind_eq_nil_iff {n : Nat} {os : List Offence} : behind n os = [] ↔ os = [] :=
  List.map_eq_nil_iff

mutual

/-- A form without offences derives a value. -/
theorem Form.derives {t : Text} {os : List Offence} (h : Form t os) (hos : os = []) :
    ∃ v, Derives t v := by
  match h with
  | .nullWord => exact ⟨_, .nullWord⟩
  | .trueWord => exact ⟨_, .trueWord⟩
  | .falseWord => exact ⟨_, .falseWord⟩
  | .foreign _ | .overflow _ _ _ _ => cases hos
  | .integer hn hi => exact ⟨_, .integer hn hi⟩
  | .double hn hi hx hfinite => exact ⟨_, .double hn hi hx hfinite⟩
  | .string hs => exact ⟨_, .string hs⟩
  | .emptyArray hw => exact ⟨_, .emptyArray hw⟩
  | .array hi =>
      obtain ⟨vs, hvs⟩ := ItemForms.derives hi (behind_eq_nil_iff.mp hos)
      exact ⟨_, .array hvs⟩
  | .emptyObject hw => exact ⟨_, .emptyObject hw⟩
  | .object hm hn =>
      obtain ⟨ms, hms, rfl⟩ := MemberForms.derives hm (behind_eq_nil_iff.mp hos)
      exact ⟨_, .object hms hn⟩
  | .repeating _ _ => exact absurd hos (by simp)

/-- Items without an offence are items of the grammar. -/
theorem ItemForms.derives {t : Text} {os : List Offence} (h : ItemForms t os) (hos : os = []) :
    ∃ vs, Items t vs := by
  match h with
  | .one ha hv hb =>
      obtain ⟨v, hv⟩ := Form.derives hv (behind_eq_nil_iff.mp hos)
      exact ⟨_, .one ha hv hb⟩
  | .cons ha hv hb hr =>
      obtain ⟨hfirst, hrest⟩ := List.append_eq_nil_iff.mp hos
      obtain ⟨v, hv⟩ := Form.derives hv (behind_eq_nil_iff.mp hfirst)
      obtain ⟨vs, hvs⟩ := ItemForms.derives hr (behind_eq_nil_iff.mp hrest)
      exact ⟨_, .cons ha hv hb hvs⟩

/-- Members without an offence are members of the grammar. -/
theorem MemberForms.derives {t : Text} {ks : List Text} {os : List Offence}
    (h : MemberForms t ks os) (hos : os = []) : ∃ ms, Members t ms ∧ ms.map (·.1) = ks := by
  match h with
  | .one hm =>
      obtain ⟨v, hv⟩ := MemberForm.derives hm hos
      exact ⟨_, .one hv, rfl⟩
  | .cons hm hr =>
      obtain ⟨hfirst, hrest⟩ := List.append_eq_nil_iff.mp hos
      obtain ⟨v, hv⟩ := MemberForm.derives hm hfirst
      obtain ⟨ms, hms, rfl⟩ := MemberForms.derives hr (behind_eq_nil_iff.mp hrest)
      exact ⟨_, .cons hv hms, rfl⟩

theorem MemberForm.derives {t key : Text} {os : List Offence} (h : MemberForm t key os)
    (hos : os = []) : ∃ v, Member t (key, v) := by
  match h with
  | .mk ha hk hb hc hv hd =>
      obtain ⟨v, hv⟩ := Form.derives hv (behind_eq_nil_iff.mp hos)
      exact ⟨v, .mk ha hk hb hc hv hd⟩

end

/-- A text with the form of a document and no offence is a document. -/
theorem DocumentForm.document {s : Text} (h : DocumentForm s []) : ∃ v, Document s v := by
  obtain ⟨a, t, b, os', ha, ht, hb, rfl, hos⟩ := h
  obtain ⟨v, hv⟩ := ht.derives (behind_eq_nil_iff.mp hos.symm)
  exact ⟨v, a, t, b, ha, hv, hb, rfl⟩

/-! ## Keys -/

/-- The keys of an object are distinct, or one of them is the first to be there again. -/
theorem nodup_or_firstRepeat (ks : List Text) : ks.Nodup ∨ ∃ k, FirstRepeat ks k := by
  induction ks using List.reverseRecOn with
  | nil => exact .inl List.nodup_nil
  | append_singleton ks k ih =>
      rcases ih with hn | ⟨k', before, after, rfl, hn, hk⟩
      · by_cases hk : k ∈ ks
        · exact .inr ⟨k, ks, [], rfl, hn, hk⟩
        · refine .inl (List.nodup_append.mpr ⟨hn, List.nodup_singleton k, ?_⟩)
          intro x hx y hy
          rw [List.mem_singleton.mp hy]
          rintro rfl
          exact hk hx
      · exact .inr ⟨k', before, after ++ [k], by simp, hn, hk⟩

end JsonTap.Json.Grammar
