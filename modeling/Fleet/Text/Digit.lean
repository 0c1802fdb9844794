/-!
# Digits

The values of digits in bases up to sixteen, where letters of either case stand for the digits above
nine, and the characters that are written by their codes.
-/

namespace Fleet.Text

/-- The value of a digit of a base up to sixteen. -/
def digitIn (base : Nat) (character : Char) : Option Nat :=
  let value :=
    if character.isDigit then some (character.toNat - '0'.toNat)
    else if 'a' ≤ character && character ≤ 'f' then some (character.toNat - 'a'.toNat + 10)
    else if 'A' ≤ character && character ≤ 'F' then some (character.toNat - 'A'.toNat + 10)
    else none
  value.filter (· < base)

/-- The number that digits of a base write, most significant first, after a given number. -/
def numberIn (base start : Nat) (digits : List Char) : Option Nat :=
  digits.foldlM (fun value digit => (digitIn base digit).map (value * base + ·)) start

/-- The character with a code that is no surrogate. -/
def characterOf (code : Nat) : Option Char :=
  if valid : code.isValidChar then some (Char.ofNatAux code valid) else none

/-- The number that exactly so many hexadecimal digits write at the start of the characters. -/
def readCode (count : Nat) (characters : List Char) : Option (Nat × List Char) :=
  let digits := characters.take count
  if digits.length = count then
    (numberIn 16 0 digits).map fun code => (code, characters.drop count)
  else
    none

end Fleet.Text
