import JsonTap.Fault
import JsonTap.Number.Written
import JsonTap.Unicode.Case

/-!
# Sizes

A size is a count of bytes: an integer, or a number with the suffix `KB`, `MB` or `GB` in any case.
A number with a suffix is read as binary64, multiplied and cut to an integer toward zero; nothing
that overflows is a size.
-/

namespace JsonTap.Config

inductive SizeUnit where
  | kilobyte
  | megabyte
  | gigabyte
  deriving DecidableEq, Repr

namespace SizeUnit

def suffix : SizeUnit → Text
  | .kilobyte => "KB"
  | .megabyte => "MB"
  | .gigabyte => "GB"

def bytes : SizeUnit → Nat
  | .kilobyte => 1024
  | .megabyte => 1024 * 1024
  | .gigabyte => 1024 * 1024 * 1024

/-- The unit that a text in upper case ends with. -/
def ofEnd? (t : Text) : Option SizeUnit :=
  [kilobyte, megabyte, gigabyte].find? fun u => t.endsWith u.suffix

end SizeUnit

/-- So many units, cut to whole bytes; none if there is no such finite number. -/
def scaledBytes? (x : Double) (u : SizeUnit) : Option Int :=
  let product := x.mul (Double.ofInt u.bytes)
  if product.isFinite then some product.truncate else none

/-- The bytes that a text without blanks around it and in upper case denotes. -/
def sizeOfUpper? (t : Text) : Option Int :=
  match SizeUnit.ofEnd? t with
  | none => Written.int? t
  | some u => (Written.double? (t.take (t.length - u.suffix.length))).bind (scaledBytes? · u)

def parseSize? (t : Text) : Option Int := sizeOfUpper? (Unicode.upper (Unicode.strip t))

/-- The bytes that a text denotes, or the fault of the setting. -/
def parseSize (t : Text) : Except Fault Int :=
  match parseSize? t with
  | some n => .ok n
  | none =>
    .error (.configuration (Text.ofString "Invalid size value: " ++ Text.quoted t) .null (.str t)
      [])

end JsonTap.Config
