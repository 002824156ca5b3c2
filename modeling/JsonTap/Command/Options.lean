import JsonTap.Command.Flag
import JsonTap.Number.Written
import JsonTap.Text.Quoted
import JsonTap.Unicode.Blank

/-!
# Reading the command line

Every word of the command line is first told apart: a flag by its name or by the beginning of its
name, a value, or something else that begins with a hyphen. Then the flags take their arguments from
left to right. What nothing takes is left over, and refused at the end.
-/

namespace JsonTap.Command

/-- What the command line sets. -/
structure Options where
  config : Option Text
  port : Option Int
  hosts : Option (List Text)
  maxBodySize : Option Text
  logLevel : Option Text
  deriving DecidableEq

def Options.empty : Options := ⟨none, none, none, none, none⟩

inductive UsageFault where
  /-- A word begins the names of several flags. -/
  | ambiguous (word : Text) (names : List Text)
  /-- A flag lacks its argument. -/
  | lacking (f : Flag)
  /-- A flag that takes no argument has one. -/
  | ignored (f : Flag) (argument : Text)
  /-- The argument of a flag is no integer. -/
  | notInteger (f : Flag) (argument : Text)
  /-- Words are left over. -/
  | leftOver (words : List Text)
  deriving DecidableEq

def UsageFault.message : UsageFault → Text
  | .ambiguous word names =>
    Text.ofString "ambiguous option: " ++ word ++ Text.ofString " could match " ++
      Text.join ", " names
  | .lacking f => Text.ofString "argument " ++ f.title ++ Text.ofString ": expected one argument"
  | .ignored f t =>
    Text.ofString "argument " ++ f.title ++ Text.ofString ": ignored explicit argument " ++
      Text.quoted t
  | .notInteger f t =>
    Text.ofString "argument " ++ f.title ++ Text.ofString ": invalid int value: " ++ Text.quoted t
  | .leftOver words => Text.ofString "unrecognized arguments: " ++ Text.join " " words

/-! ### Telling words apart -/

/-- How the argument of a flag is attached to its name. -/
structure Attached where
  /-- Whether an equals sign stands between them. -/
  equals : Bool
  text : Text
  deriving DecidableEq

inductive Word where
  | value
  /-- The two hyphens after which there are no more flags. -/
  | separator
  /-- A flag by its full name, and what is attached to it. -/
  | flag (f : Flag) (name : Text) (attached : Option Attached)
  /-- Something with a hyphen that is no flag. -/
  | unknown
  deriving DecidableEq

def isAnyDigit (c : CodePoint) : Bool := c.isDigit || (Unicode.digitValue? c).isSome

def withoutLineEnd (t : Text) : Text :=
  if t.getLast? = some ('\n' : CodePoint) then t.dropLast else t

/-- Whether a word that begins with a hyphen is a number below zero: digits, with a point before the
last of them at most. -/
def isNegativeNumber (word : Text) : Bool :=
  let digits (t : Text) : Bool := !t.isEmpty && t.all isAnyDigit
  let body := withoutLineEnd (word.drop 1)
  digits body ||
    match Text.cutAt '.' body with
    | (whole, some fraction) => whole.all isAnyDigit && digits fraction
    | (_, none) => false

def cutEquals (word : Text) : Text × Option Attached :=
  match Text.cutAt '=' word with
  | (name, some t) => (name, some ⟨true, t⟩)
  | (name, none) => (name, none)

/-- The flags whose names a word begins: a word with two hyphens up to its equals sign, or a single
letter with what follows it. -/
def candidates (word : Text) : List (Flag × Text × Option Attached) :=
  if word.startsWith "--" then
    let (start, attached) := cutEquals word
    Flag.named.filterMap fun (name, f) =>
      if name.startsWith start then some (f, name, attached) else none
  else
    Flag.named.filterMap fun (name, f) =>
      if name = word.take 2 then some (f, name, some ⟨false, word.drop 2⟩)
      else if name.startsWith word then some (f, name, none)
      else none

/-- Tells what a word with a hyphen is that is no flag by its full name. -/
def classifyOther (word : Text) : Except UsageFault Word :=
  match candidates word with
  | [(f, name, attached)] => .ok (.flag f name attached)
  | [] =>
    .ok (if isNegativeNumber word || word.contains ' ' then .value else .unknown)
  | several => .error (.ambiguous word (several.map (·.2.1)))

def classify (word : Text) : Except UsageFault Word :=
  match word with
  | [] => .ok .value
  | c :: r =>
    if c ≠ '-' then .ok .value
    else match Flag.ofName? word with
      | some f => .ok (.flag f word none)
      | none =>
        if r.isEmpty then .ok .value
        else match cutEquals word with
          | (name, some attached) =>
            match Flag.ofName? name with
            | some f => .ok (.flag f name (some attached))
            | none => classifyOther word
          | (_, none) => classifyOther word

/-- Tells what each word is. All words behind a separator are values. -/
def classifyAll : List Text → Except UsageFault (List (Text × Word))
  | [] => .ok []
  | w :: ws =>
    if w = Text.ofString "--" then .ok ((w, .separator) :: ws.map fun v => (v, .value))
    else do
      let kind ← classify w
      let rest ← classifyAll ws
      .ok ((w, kind) :: rest)

/-! ### Taking arguments -/

inductive Asked where
  | run (o : Options)
  | help
  | refused (e : UsageFault)
  deriving DecidableEq

/-- Sets what a flag sets. A later argument takes the place of an earlier one, but hosts add up. -/
def Options.set (o : Options) (f : Flag) (t : Text) : Except UsageFault Options :=
  match f with
  | .help => .ok o
  | .config => .ok { o with config := some t }
  | .port =>
    match Written.int? t with
    | some n => .ok { o with port := some n }
    | none => .error (.notInteger f t)
  | .host => .ok { o with hosts := some ((o.hosts.getD []) ++ [t]) }
  | .maxBodySize => .ok { o with maxBodySize := some t }
  | .logLevel => .ok { o with logLevel := some t }

/-- What is attached to the one-letter flag of the help and cannot be used. Letters may follow each
other; the first one that is no flag is not looked at. -/
def unusable? : (equals : Bool) → Text → Option Text
  | _, [] => some []
  | true, t => some t
  | false, c :: r =>
    if c = '-' then some (c :: r)
    else if c ≠ 'h' then none
    else match r with
      | [] => none
      | d :: s => if d = '=' then some s else unusable? false (d :: s)

/-- What asking for help comes to, with what is attached to the flag. -/
def askHelp (name : Text) : Option Attached → Asked
  | none => .help
  | some a =>
    if name.startsWith "--" then .refused (.ignored .help a.text)
    else match unusable? a.equals a.text with
      | some t => .refused (.ignored .help t)
      | none => .help

/-- Takes words from left to right, with the options so far and the words left over so far. -/
def take (o : Options) (left : List Text) : List (Text × Word) → Asked
  | [] => if left.isEmpty then .run o else .refused (.leftOver left)
  | (w, .value) :: r | (w, .separator) :: r | (w, .unknown) :: r => take o (left ++ [w]) r
  | (_, .flag .help name attached) :: _ => askHelp name attached
  | (_, .flag f _ (some a)) :: r =>
    match o.set f a.text with
    | .ok o => take o left r
    | .error e => .refused e
  | (_, .flag f _ none) :: (v, .value) :: r =>
    match o.set f v with
    | .ok o => take o left r
    | .error e => .refused e
  | (_, .flag f _ none) :: _ => .refused (.lacking f)

def ask (words : List Text) : Asked :=
  match classifyAll words with
  | .error e => .refused e
  | .ok ws => take .empty [] ws

end JsonTap.Command
