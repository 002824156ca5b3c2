import JsonTap.Datum.Text
import JsonTap.Number.Fixed

/-!
# Message templates

A template is a text with conversions such as `%s`, `%5d` or `%(name)s`. A conversion may give a
key in parentheses, flags, a width, a precision and a size letter that means nothing; its last
letter says how the datum is written. Data come from a list in order, or from a map by key.

`Template.fill` writes a template out, or tells the first thing that is wrong from the left.
-/

namespace JsonTap.Log

def kindName : Datum → Text
  | .null => "NoneType"
  | .bool _ => "bool"
  | .int _ => "int"
  | .num _ => "float"
  | .str _ => "str"
  | .list _ => "list"
  | .tuple _ => "tuple"
  | .map _ => "dict"
  | .octets _ => "bytes"

inductive TemplateFault where
  | incomplete
  | incompleteKey
  | unsupported (letter : CodePoint) (index : Nat)
  | widthTooBig
  | precisionTooBig
  | longInteger
  | nanToInteger
  | infinityToInteger
  | integerTooLarge
  | widthTooLarge
  | precisionTooLarge
  | codePointRange
  | codePointRequired
  | starWantsInteger
  | integerRequired (letter : CodePoint) (kind : Text)
  | numberRequired (letter : CodePoint) (kind : Text)
  | realRequired (kind : Text)
  | notEnough
  | notAllConverted
  | mappingRequired
  | missingKey (key : Text)
  deriving DecidableEq

namespace TemplateFault

def message : TemplateFault → Text
  | incomplete => "incomplete format"
  | incompleteKey => "incomplete format key"
  | unsupported c i =>
    let shown : CodePoint := if 31 ≤ c.val && c.val < 127 then c else '?'
    Text.ofString "unsupported format character '" ++ [shown] ++ Text.ofString "' (0x" ++
      Text.inBase 16 c.val ++ Text.ofString ") at index " ++ Text.ofNat i
  | widthTooBig => "width too big"
  | precisionTooBig => "precision too big"
  | longInteger => Datum.longIntegerMessage
  | nanToInteger => "cannot convert float NaN to integer"
  | infinityToInteger => "cannot convert float infinity to integer"
  | integerTooLarge => "int too large to convert to float"
  | widthTooLarge => "Python int too large to convert to C ssize_t"
  | precisionTooLarge => "Python int too large to convert to C int"
  | codePointRange => "%c arg not in range(0x110000)"
  | codePointRequired => "%c requires int or char"
  | starWantsInteger => "* wants int"
  | integerRequired c k =>
    ('%' : CodePoint) :: c :: (Text.ofString " format: an integer is required, not " ++ k)
  | numberRequired c k =>
    ('%' : CodePoint) :: c :: (Text.ofString " format: a real number is required, not " ++ k)
  | realRequired k => Text.ofString "must be real number, not " ++ k
  | notEnough => "not enough arguments for format string"
  | notAllConverted => "not all arguments converted during string formatting"
  | mappingRequired => "format requires a mapping"
  | missingKey k => Text.quoted k

end TemplateFault

namespace Template

/-! ### One conversion -/

structure Flags where
  left : Bool
  plus : Bool
  blank : Bool
  alternate : Bool
  zero : Bool
  deriving DecidableEq

structure Conversion where
  flags : Flags
  width : Option Nat
  precision : Option Nat
  letter : CodePoint

/-- The data that are left, and the map that keys look into. -/
structure Source where
  queue : List Datum
  keyed : Option Fields

def Source.next (s : Source) : Except TemplateFault (Datum × Source) :=
  match s.queue with
  | [] => .error .notEnough
  | d :: ds => .ok (d, { s with queue := ds })

/-- The integer of a datum that is one; truth values count. -/
def integer? : Datum → Option Int
  | .int n => some n
  | .bool b => some (if b then 1 else 0)
  | _ => none

def addFlag? (f : Flags) (c : CodePoint) : Option Flags :=
  if c = '-' then some { f with left := true }
  else if c = '+' then some { f with plus := true }
  else if c = ' ' then some { f with blank := true }
  else if c = '#' then some { f with alternate := true }
  else if c = '0' then some { f with zero := true }
  else none

def scanFlags (f : Flags) : Text → Flags × Text
  | [] => (f, [])
  | c :: r =>
    match addFlag? f c with
    | some g => scanFlags g r
    | none => (f, c :: r)

def widthLimit : Nat := 0x7FFFFFFFFFFFFFFF

def precisionLimit : Nat := 0x7FFFFFFF

/-- A width at the front of a text: a number, or a star that takes the next datum. A negative
datum means its absolute value and the left side. -/
def scanWidth (f : Flags) (s : Source) (t : Text) :
    Except TemplateFault (Flags × Option Nat × Source × Text) :=
  match t with
  | [] => .ok (f, none, s, [])
  | c :: r =>
    if c = '*' then do
      let (d, s) ← s.next
      match integer? d with
      | none => .error .starWantsInteger
      | some n =>
        if (widthLimit : Int) < n || n < -(widthLimit : Int) - 1 then .error .widthTooLarge
        else if n < 0 then .ok ({ f with left := true }, some n.natAbs, s, r)
        else .ok (f, some n.natAbs, s, r)
    else if c.isDigit then
      let n := Text.digitsValue (t.takeWhile CodePoint.isDigit)
      if widthLimit < n then .error .widthTooBig
      else .ok (f, some n, s, t.dropWhile CodePoint.isDigit)
    else .ok (f, none, s, t)

/-- A precision at the front of a text, after its point. -/
def scanPrecision (s : Source) (t : Text) : Except TemplateFault (Option Nat × Source × Text) :=
  match t with
  | [] => .ok (none, s, [])
  | p :: r =>
    if p = '.' then
      match r with
      | [] => .ok (some 0, s, [])
      | c :: r' =>
        if c = '*' then do
          let (d, s) ← s.next
          match integer? d with
          | none => .error .starWantsInteger
          | some n =>
            if (precisionLimit : Int) < n || n < -(precisionLimit : Int) - 1 then
              .error .precisionTooLarge
            else .ok (some n.toNat, s, r')
        else
          let n := Text.digitsValue (r.takeWhile CodePoint.isDigit)
          if precisionLimit < n then .error .precisionTooBig
          else .ok (some n, s, r.dropWhile CodePoint.isDigit)
    else .ok (none, s, t)

/-- A size letter means nothing. -/
def skipSize : Text → Text
  | [] => []
  | c :: r => if c = 'h' || c = 'l' || c = 'L' then r else c :: r

/-- The conversion at the front of a text, after its key, and what follows it. -/
def scanConversion (s : Source) (t : Text) :
    Except TemplateFault (Conversion × Source × Text) := do
  let (f, t) := scanFlags ⟨false, false, false, false, false⟩ t
  let (f, w, s, t) ← scanWidth f s t
  let (p, s, t) ← scanPrecision s t
  match skipSize t with
  | [] => .error .incomplete
  | c :: r => .ok (⟨f, w, p, c⟩, s, r)

def scanKey : (depth : Nat) → (acc : Text) → Text → Option (Text × Text)
  | _, _, [] => none
  | depth, acc, c :: r =>
    if c = ')' then
      match depth with
      | 0 => some (acc.reverse, r)
      | d + 1 => scanKey d (c :: acc) r
    else if c = '(' then scanKey (depth + 1) (c :: acc) r
    else scanKey depth (c :: acc) r

/-- A key at the front of a text: its datum is the only one left. -/
def takeKey (s : Source) (t : Text) : Except TemplateFault (Source × Text) :=
  match t with
  | [] => .ok (s, [])
  | c :: r =>
    if c = '(' then
      match s.keyed with
      | none => .error .mappingRequired
      | some fs =>
        match scanKey 0 [] r with
        | none => .error .incompleteKey
        | some (k, rest) =>
          match fs.get? k with
          | none => .error (.missingKey k)
          | some d => .ok ({ s with queue := [d] }, rest)
    else .ok (s, t)

/-! ### Writing a datum -/

/-- A number in writing: its sign if it has one, a base such as `0x`, and its digits. -/
structure Written where
  sign : Option CodePoint
  base : Text
  body : Text

/-- The sign that the flags ask for where there is none. -/
def Written.signed (w : Written) (f : Flags) : Text :=
  match w.sign with
  | some c => [c]
  | none => if f.plus then "+" else if f.blank then " " else []

/-- A number laid out in its width: zeros go behind sign and base, blanks before them. -/
def layOutNumber (c : Conversion) (w : Written) : Text :=
  let head := w.signed c.flags ++ w.base
  let gap := c.width.getD 0 - (head.length + w.body.length)
  if c.flags.left then head ++ w.body ++ List.replicate gap (' ' : CodePoint)
  else if c.flags.zero then head ++ List.replicate gap ('0' : CodePoint) ++ w.body
  else List.replicate gap (' ' : CodePoint) ++ head ++ w.body

def layOutText (c : Conversion) (t : Text) : Text :=
  let gap := List.replicate (c.width.getD 0 - t.length) (' ' : CodePoint)
  if c.flags.left then t ++ gap else gap ++ t

def writtenInteger (c : Conversion) (n : Int) : Except TemplateFault Written :=
  let sign : Option CodePoint := if n < 0 then some '-' else none
  let fillUp (t : Text) : Text := Text.padStart (c.precision.getD 0) '0' t
  let based (letter : CodePoint) (base : Nat) : Written :=
    ⟨sign, if c.flags.alternate then ['0', letter] else [], fillUp (Text.inBase base n.natAbs)⟩
  if c.letter = 'x' then .ok (based 'x' 16)
  else if c.letter = 'X' then
    let w := based 'X' 16
    .ok { w with body := w.body.map CodePoint.upperAscii }
  else if c.letter = 'o' then .ok (based 'o' 8)
  else if Datum.isLong n then .error .longInteger
  else .ok ⟨sign, [], fillUp (Text.ofNat n.natAbs)⟩

/-- The integer of a datum for one of the letters of integers. -/
def integerFor (letter : CodePoint) (d : Datum) : Except TemplateFault Int :=
  match integer? d with
  | some n => .ok n
  | none =>
    if letter = 'x' || letter = 'X' || letter = 'o' then
      .error (.integerRequired letter (kindName d))
    else match d with
      | .num x =>
        if x.isNan then .error .nanToInteger
        else if x.isInfinite then .error .infinityToInteger
        else .ok x.truncate
      | _ => .error (.numberRequired letter (kindName d))

def doubleFor (d : Datum) : Except TemplateFault Double :=
  match d with
  | .num x => .ok x
  | _ =>
    match integer? d with
    | some n =>
      let x := Double.ofInt n
      if x.isInfinite then .error .integerTooLarge else .ok x
    | none => .error (.realRequired (kindName d))

/-- A finite magnitude for one of the letters of binary64 numbers, in lower case. -/
def magnitudeFor (c : Conversion) (code : Nat) : Text :=
  let p := c.precision.getD 6
  let letter := c.letter.lowerAscii
  if letter = 'f' then Double.fixed c.flags.alternate p code
  else if letter = 'e' then Double.scientific c.flags.alternate p code
  else Double.general c.flags.alternate p code

def writtenDouble (c : Conversion) (x : Double) : Written :=
  let big (t : Text) : Text :=
    if 0x41 ≤ c.letter.val && c.letter.val ≤ 0x5A then t.map CodePoint.upperAscii else t
  match x with
  | .nan => ⟨none, [], big "nan"⟩
  | .signed negative code =>
    let sign : Option CodePoint := if negative then some '-' else none
    if code.val = infinityCode then ⟨sign, [], big "inf"⟩
    else ⟨sign, [], big (magnitudeFor c code.val)⟩

/-- The code point of a datum: a text of one, or a number. -/
def codePointFor (d : Datum) : Except TemplateFault CodePoint :=
  match d with
  | .str [c] => .ok c
  | _ =>
    match integer? d with
    | some n =>
      if h : 0 ≤ n ∧ n.toNat < 0x110000 then .ok ⟨n.toNat, h.2⟩ else .error .codePointRange
    | none => .error .codePointRequired

/-- A text with everything that is not ASCII escaped by its number. -/
def escaped (t : Text) : Text :=
  t.flatMap fun c =>
    if c.val < 0x80 then [c]
    else if c.val < 0x100 then Text.numberEscape 'x' 2 c.val
    else if c.val < 0x10000 then Text.numberEscape 'u' 4 c.val
    else Text.numberEscape 'U' 8 c.val

/-- A datum for one of the letters of texts, cut to the precision. -/
def textFor (c : Conversion) (d : Datum) : Except TemplateFault Text :=
  if d.hasLongInteger then .error .longInteger
  else
    let t :=
      if c.letter = 's' then d.text
      else if c.letter = 'r' then d.quoted
      else escaped d.quoted
    .ok (match c.precision with
      | some p => t.take p
      | none => t)

def convert (c : Conversion) (index : Nat) (d : Datum) : Except TemplateFault Text :=
  let isOneOf (s : String) : Bool := (Text.ofString s).contains c.letter
  if isOneOf "sra" then (textFor c d).map (layOutText c)
  else if isOneOf "diuoxX" then do
    let n ← integerFor c.letter d
    let w ← writtenInteger c n
    .ok (layOutNumber c w)
  else if isOneOf "eEfFgG" then (doubleFor d).map fun x => layOutNumber c (writtenDouble c x)
  else if c.letter = 'c' then (codePointFor d).map fun x => layOutText c [x]
  else .error (.unsupported c.letter index)

/-- The conversion after a percent sign, written out, and what follows it. `length` is the length
of the whole template. -/
def conversion (length : Nat) (s : Source) (t : Text) :
    Except TemplateFault (Text × Source × Text) := do
  let (s, t) ← takeKey s t
  let (c, s, rest) ← scanConversion s t
  let (d, s) ← s.next
  let out ← convert c (length - rest.length - 1) d
  if s.keyed.isSome && !s.queue.isEmpty then .error .notAllConverted
  else .ok (out, s, rest)

/-- The rest of a template, written out; at most `fuel` steps. -/
def run (length : Nat) : (fuel : Nat) → Source → Text → Except TemplateFault (Text × Source)
  | 0, s, _ => .ok ([], s)
  | _ + 1, s, [] => .ok ([], s)
  | fuel + 1, s, c :: r =>
    if c = '%' then
      match r with
      | q :: r' =>
        if q = '%' then (run length fuel s r').map fun (t, s) => (('%' : CodePoint) :: t, s)
        else do
          let (out, s, rest) ← conversion length s r
          (run length fuel s rest).map fun (t, s) => (out ++ t, s)
      | [] => .error .incomplete
    else (run length fuel s r).map fun (t, s) => (c :: t, s)

/-- The data of a template: a single map that is not empty serves keys. -/
def source : List Datum → Source
  | [.map (e :: es)] => ⟨[.map (e :: es)], some (e :: es)⟩
  | ds => ⟨ds, none⟩

/-- A template filled with data; without data it is taken as it is. -/
def fill (t : Text) (args : List Datum) : Except TemplateFault Text :=
  if args.isEmpty then .ok t
  else do
    let (out, s) ← run t.length (t.length + 1) (source args) t
    if s.keyed.isNone && !s.queue.isEmpty then .error .notAllConverted
    else .ok out

end Template

end JsonTap.Log
