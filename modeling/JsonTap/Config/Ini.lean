import JsonTap.Config.Document
import JsonTap.Encoding.TextFile
import JsonTap.Text.Quoted
import JsonTap.Unicode.Blank

/-!
# Reading settings files

A settings file consists of section headers in brackets and options, each a name and a value with
`=` or `:` between them. A line that is indented deeper than the option before it goes on with its
value, and so does an empty line; a line that begins with `#` or `;` is a comment. A section or an
option must not be there twice, except that the section of defaults may be entered again.

Reading stops at a header or an option that is there twice, and at an option before any header.
Lines that are neither are collected, and refused together at the end.
-/

namespace JsonTap.Config.Ini

/-- Why a file is refused; lines count from one. -/
inductive Fault where
  | repeatedSection (name : Text) (line : Nat)
  | repeatedOption (name option : Text) (line : Nat)
  | noHeader (line : Nat) (text : Text)
  | badLines (lines : List (Nat × Text))
  deriving DecidableEq

/-- A number on the right of at least two columns. -/
def lineNumber (n : Nat) : Text := Text.padStart 2 ' ' (Text.ofNat n)

/-- The fault in words; `source` is the name of the file. -/
def Fault.message (source : Text) : Fault → Text
  | .repeatedSection name line =>
    Text.ofString "While reading from " ++ Text.quoted source ++ Text.ofString " [line " ++
      lineNumber line ++ Text.ofString "]: section " ++ Text.quoted name ++
      Text.ofString " already exists"
  | .repeatedOption name option line =>
    Text.ofString "While reading from " ++ Text.quoted source ++ Text.ofString " [line " ++
      lineNumber line ++ Text.ofString "]: option " ++ Text.quoted option ++
      Text.ofString " in section " ++ Text.quoted name ++ Text.ofString " already exists"
  | .noHeader line text =>
    Text.ofString "File contains no section headers.\nfile: " ++ Text.quoted source ++
      Text.ofString ", line: " ++ Text.ofNat line ++ Text.ofString "\n" ++ Text.quoted text
  | .badLines lines =>
    Text.ofString "Source contains parsing errors: " ++ Text.quoted source ++
      lines.flatMap fun (n, t) =>
        Text.ofString "\n\t[line " ++ lineNumber n ++ Text.ofString "]: " ++ Text.quoted t

/-! ### One line -/

inductive Line where
  | header (name : Text)
  | option (name value : Text)
  | other
  deriving DecidableEq

/-- The name in a header: everything up to the last closing bracket. -/
def headerName? (t : Text) : Option Text :=
  match t with
  | [] => none
  | c :: r =>
    if c = '[' then
      match r.reverse.dropWhile (· != (']' : CodePoint)) with
      | [] => none
      | _ :: [] => none
      | _ :: name => some name.reverse
    else none

def isDelimiter (c : CodePoint) : Bool := c = '=' || c = ':'

def option? (t : Text) : Option (Text × Text) :=
  match t.dropWhile (!isDelimiter ·) with
  | [] => none
  | _ :: value => some (Text.trimEnd Unicode.isBlank (t.takeWhile (!isDelimiter ·)),
      Unicode.strip value)

def classify (t : Text) : Line :=
  match headerName? t with
  | some name => .header name
  | none =>
    match option? t with
    | some (name, value) => .option name value
    | none => .other

/-! ### The reader -/

/-- An option while it is read: its lines so far, the last one first. -/
abbrev Draft := Named (List Text)

/-- What has been read so far. -/
structure Reader where
  defaults : Draft
  sections : Named Draft
  /-- The section that is being read; none before the first header. -/
  current : Option Text
  /-- The option that goes on with an indented line; empty if there is none. -/
  option : Text
  /-- The indentation of the last header or option. -/
  indent : Nat
  /-- The headers and the options that have been read. -/
  seenSections : List Text
  seenOptions : List (Text × Text)
  /-- The lines that were neither, the last one first. -/
  badLines : List (Nat × Text)

namespace Reader

def initial : Reader := ⟨[], [], none, [], 0, [], [], []⟩

def changeSection (r : Reader) (name : Text) (f : Draft → Draft) : Reader :=
  if name = defaultName then { r with defaults := f r.defaults }
  else { r with sections := r.sections.change name f }

def goOn (r : Reader) (name line : Text) : Reader :=
  r.changeSection name fun draft => draft.change r.option (line :: ·)

def enter (r : Reader) (lineNo : Nat) (name : Text) : Except Fault Reader :=
  if r.sections.has name then
    if r.seenSections.contains name then .error (.repeatedSection name lineNo)
    else .ok { r with current := some name, option := [], seenSections := name :: r.seenSections }
  else if name = defaultName then .ok { r with current := some name, option := [] }
  else
    .ok { r with
      sections := r.sections ++ [(name, [])], current := some name, option := [],
      seenSections := name :: r.seenSections }

/-- Notes a line that cannot be read. -/
def note (r : Reader) (lineNo : Nat) (line : Text) : Reader :=
  { r with badLines := (lineNo, line) :: r.badLines }

/-- Reads an option. One without a name is noted, and read all the same. -/
def addOption (r : Reader) (lineNo : Nat) (line within name value : Text) : Except Fault Reader :=
  let r := if name.isEmpty then r.note lineNo line else r
  let key := Unicode.lower name
  if r.seenOptions.contains (within, key) then .error (.repeatedOption within key lineNo)
  else
    let r := r.changeSection within fun draft => draft.put key [value]
    .ok { r with option := key, seenOptions := (within, key) :: r.seenOptions }

/-- The count of blanks before the first other code point of a line. -/
def indentation (line : Text) : Nat := (line.takeWhile Unicode.isBlank).length

def isComment (t : Text) : Bool :=
  t.head? = some ('#' : CodePoint) || t.head? = some (';' : CodePoint)

/-- Reads a header or an option, or notes the line. -/
def take (r : Reader) (lineNo : Nat) (line value : Text) : Except Fault Reader :=
  match classify value, r.current with
  | .header name, _ => r.enter lineNo name
  | _, none => .error (.noHeader lineNo line)
  | .option name text, some within => r.addOption lineNo line within name text
  | .other, some _ => .ok (r.note lineNo line)

def step (r : Reader) (lineNo : Nat) (line : Text) : Except Fault Reader :=
  let value := Unicode.strip line
  if isComment value then .ok r
  else if value.isEmpty then
    match r.current with
    | some name => .ok (if r.option.isEmpty then r else r.goOn name [])
    | none => .ok r
  else
    let indent := indentation line
    match r.current with
    | some name =>
      if !r.option.isEmpty && r.indent < indent then .ok (r.goOn name value)
      else ({ r with indent := indent } : Reader).take lineNo line value
    | none => ({ r with indent := indent } : Reader).take lineNo line value

/-- Reads lines from a number on. -/
def run (r : Reader) (lineNo : Nat) : List Text → Except Fault Reader
  | [] => .ok r
  | line :: rest =>
    match r.step lineNo line with
    | .ok r => run r (lineNo + 1) rest
    | .error e => .error e

def value (lines : List Text) : Text :=
  Text.trimEnd Unicode.isBlank (Text.join "\n" lines.reverse)

def document (r : Reader) : Document :=
  let close (draft : Draft) : Options := draft.map fun (k, ls) => (k, value ls)
  ⟨close r.defaults, r.sections.map fun (name, draft) => (name, close draft)⟩

end Reader

def read (lines : List Text) : Except Fault Document :=
  match Reader.initial.run 1 lines with
  | .error e => .error e
  | .ok r => if r.badLines.isEmpty then .ok r.document else .error (.badLines r.badLines.reverse)

inductive FileFault where
  | refused (f : Fault)
  | damaged (u : Utf8.Undecodable)

/-- The document in a file. What is wrong in the lines before some damage comes first; lines that
are only refused at the end are not reached then. -/
def readFile (content : List Octet) : Except FileFault Document :=
  match TextFile.lines content with
  | (lines, none) => (read lines).mapError .refused
  | (lines, some u) =>
    match Reader.initial.run 1 lines with
    | .error e => .error (.refused e)
    | .ok _ => .error (.damaged u)

end JsonTap.Config.Ini
