import JsonTap.Number.Double
import JsonTap.Text.Decimal

/-!
# Times of records

A record has a time in seconds since the epoch, a binary64 number. `Timestamp.iso` writes it with
microseconds, `Timestamp.plain` with milliseconds. A document has its time in whole microseconds
(`Timestamp.zulu`). All are in universal time, for the years 1 to 9999.
-/

namespace JsonTap

structure Date where
  year : Int
  month : Nat
  day : Nat
  deriving DecidableEq, Repr

/-- The date of a day, counted from 1970-01-01. Years are counted from March, in cycles of four
hundred, so that a leap day is the last day of its year. -/
def Date.ofDayNumber (n : Int) : Date :=
  let z := n + 719468
  let era := z.fdiv 146097
  let dayOfEra := (z - era * 146097).toNat
  let yearOfEra := (dayOfEra - dayOfEra / 1460 + dayOfEra / 36524 - dayOfEra / 146096) / 365
  let dayOfYear := dayOfEra - (365 * yearOfEra + yearOfEra / 4 - yearOfEra / 100)
  let shifted := (5 * dayOfYear + 2) / 153
  let day := dayOfYear - (153 * shifted + 2) / 5 + 1
  let month := if shifted < 10 then shifted + 3 else shifted - 9
  let year := (yearOfEra : Int) + era * 400
  ⟨if month ≤ 2 then year + 1 else year, month, day⟩

namespace Timestamp

inductive Fault where
  | notANumber
  /-- The seconds do not fit in 64 bits. -/
  | outOfRange
  /-- The year does not fit in 32 bits. -/
  | tooLarge
  | year (y : Int)
  deriving DecidableEq

def Fault.message : Fault → Text
  | .notANumber => "Invalid value NaN (not a number)"
  | .outOfRange => "timestamp out of range for platform time_t"
  | .tooLarge => "[Errno 75] Value too large for defined data type"
  | .year y => Text.ofString "year " ++ Text.ofInt y ++ Text.ofString " is out of range"

def two (n : Nat) : Text := Text.padStart 2 '0' (Text.ofNat n)

def clock (seconds : Nat) : Text :=
  two (seconds / 3600) ++ Text.ofString ":" ++ two (seconds / 60 % 60) ++ Text.ofString ":" ++
    two (seconds % 60)

/-- A date with its parts between hyphens, the year in four digits. -/
def calendar (d : Date) : Text :=
  Text.padStart 4 '0' (Text.ofInt d.year) ++ Text.ofString "-" ++ two d.month ++
    Text.ofString "-" ++ two d.day

/-- The fraction of a second in microseconds; nothing for a whole second. -/
def micros (n : Nat) : Text :=
  if n = 0 then [] else ('.' : CodePoint) :: Text.padStart 6 '0' (Text.ofNat n)

def secondsFit (n : Int) : Bool := -0x8000000000000000 ≤ n && n < 0x8000000000000000

/-- Whether a year, counted from 1900, fits in 32 bits. -/
def yearFits (y : Int) : Bool := -0x80000000 ≤ y - 1900 && y - 1900 < 0x80000000

def dateTime (seconds : Int) (microseconds : Nat) : Except Fault Text :=
  let date := Date.ofDayNumber (seconds.fdiv 86400)
  if !yearFits date.year then .error .tooLarge
  else if date.year < 1 || 9999 < date.year then .error (.year date.year)
  else .ok (calendar date ++ Text.ofString "T" ++ clock (seconds.fmod 86400).toNat ++
    micros microseconds)

/-- The whole seconds and the microseconds of a number of seconds. The fraction is rounded, ties to
even; a fraction below zero is taken from the second before. -/
def split (t : Double) : Except Fault (Int × Nat) :=
  if t.isNan then .error .notANumber
  else if t.isInfinite then .error .outOfRange
  else
    let whole := t.truncate
    let part := (t.fraction.mul (Double.ofInt 1000000)).round
    let (whole, part) :=
      if 1000000 ≤ part then (whole + 1, part - 1000000)
      else if part < 0 then (whole - 1, part + 1000000)
      else (whole, part)
    if !secondsFit whole then .error .outOfRange
    else .ok (whole, part.toNat)

/-- A time with microseconds and the offset of universal time. -/
def iso (t : Double) : Except Fault Text := do
  let (seconds, part) ← split t
  let text ← dateTime seconds part
  .ok (text ++ Text.ofString "+00:00")

/-- A time in microseconds since the epoch, with a letter for universal time. -/
def zulu (microseconds : Int) : Except Fault Text := do
  let text ← dateTime (microseconds.fdiv 1000000) (microseconds.fmod 1000000).toNat
  .ok (text ++ Text.ofString "Z")

/-- A time with milliseconds, which are cut off. -/
def plain (t : Double) : Except Fault Text :=
  if t.isNan then .error .notANumber
  else if t.isInfinite then .error .outOfRange
  else
    let seconds := t.floor
    let date := Date.ofDayNumber (seconds.fdiv 86400)
    if !secondsFit seconds then .error .outOfRange
    else if !yearFits date.year then .error .tooLarge
    else
      let millis := ((t.sub (Double.ofInt t.truncate)).mul (Double.ofInt 1000)).truncate
      let shown := Text.padStart 3 '0' (Text.ofInt millis)
      .ok (Text.ofInt date.year ++ Text.ofString "-" ++ two date.month ++ Text.ofString "-" ++
        two date.day ++ Text.ofString " " ++ clock (seconds.fmod 86400).toNat ++
        Text.ofString "," ++ shown)

/-- Microseconds since the epoch as seconds. -/
def ofMicros (n : Int) : Double := (Double.ofInt n).div (Double.ofInt 1000000)

end Timestamp

end JsonTap
