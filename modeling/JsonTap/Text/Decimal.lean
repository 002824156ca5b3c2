import JsonTap.Text.Basic

/-!
# Numbers written out

`Text.ofNat` and `Text.ofInt` write a number in decimal without leading zeros; `Text.hex` writes a
number with a fixed count of hexadecimal digits. `Text.digitsValue` reads decimal digits back.
-/

namespace JsonTap.Text

def decimalOnto (n : Nat) (acc : Text) : Text :=
  if n < 10 then CodePoint.digit n :: acc
  else decimalOnto (n / 10) (CodePoint.digit (n % 10) :: acc)
termination_by n

/-- `n` in decimal, without leading zeros. -/
def ofNat (n : Nat) : Text := decimalOnto n []

/-- `n` in decimal, with a sign only below zero. -/
def ofInt : Int → Text
  | .ofNat n => ofNat n
  | .negSucc n => ('-' : CodePoint) :: ofNat (n + 1)

/-- The lowest `w` hexadecimal digits of `n`, in lower case. -/
def hex : (w n : Nat) → Text
  | 0, _ => []
  | w + 1, n => hex w (n / 16) ++ [CodePoint.hexDigit n]

/-- The digits of `n` in a base from two to sixteen, in lower case, in front of `acc`. -/
def digitsOnto (base n : Nat) (acc : Text) : Text :=
  if n < base ∨ base < 2 then CodePoint.hexDigit n :: acc
  else digitsOnto base (n / base) (CodePoint.hexDigit (n % base) :: acc)
termination_by n
decreasing_by exact Nat.div_lt_self (by omega) (by omega)

def inBase (base n : Nat) : Text := digitsOnto base n []

/-- The number that a list of decimal digits denotes, after the digits already read as `acc`. -/
def digitsValueFrom (acc : Nat) (t : Text) : Nat :=
  t.foldl (fun n c => n * 10 + (c.val - 0x30)) acc

def digitsValue (t : Text) : Nat := digitsValueFrom 0 t

def digitCount (n : Nat) : Nat := (ofNat n).length

end JsonTap.Text
