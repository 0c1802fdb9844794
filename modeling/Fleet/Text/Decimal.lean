/-!
# Decimal numbers

Reading natural numbers written in ASCII decimal digits, with and without the bound of a machine
word, and writing a number with leading zeros.
-/

namespace Fleet.Text

/-- The largest number that a word of 32 bits holds. -/
def largest32 : Nat := 0xFFFFFFFF

/-- The largest number that a word of 64 bits holds. -/
def largest64 : Nat := 0xFFFFFFFFFFFFFFFF

/-- The largest number that a signed word of 64 bits holds. -/
def largestSigned64 : Nat := 0x7FFFFFFFFFFFFFFF

/-- The value of a list of digits, most significant first, when every character is a digit. -/
def digitsValue (start : Nat) : List Char → Option Nat
  | [] => some start
  | character :: rest =>
    if character.isDigit then
      digitsValue (start * 10 + (character.toNat - '0'.toNat)) rest
    else
      none

/-- The number written by one or more decimal digits. -/
def readDigits : List Char → Option Nat
  | [] => none
  | characters => digitsValue 0 characters

/-- The number written by decimal digits after at most one plus sign, up to a bound. -/
def readBounded (bound : Nat) (characters : List Char) : Option Nat :=
  let digits := match characters with
    | '+' :: rest => rest
    | _ => characters
  match readDigits digits with
  | some value => if value ≤ bound then some value else none
  | none => none

/-- Characters without one sign in front. -/
def withoutSign : List Char → List Char
  | '+' :: rest | '-' :: rest => rest
  | characters => characters

/-- A number in decimal digits, filled up with leading zeros to a width. -/
def padded (width value : Nat) : String :=
  let digits := Nat.toDigits 10 value
  String.ofList (List.replicate (width - digits.length) '0' ++ digits)

/-- A number in lower-case hexadecimal digits, filled up with leading zeros to a width. -/
def paddedHex (width value : Nat) : String :=
  let digits := Nat.toDigits 16 value
  String.ofList (List.replicate (width - digits.length) '0' ++ digits)

/-- Digits are read as the number they write. -/
theorem digitsValue_eq
    (start : Nat)
    {characters : List Char}
    (digits : ∀ character ∈ characters, character.isDigit = true) :
    digitsValue start characters = some (Nat.ofDigitChars 10 characters start) := by
  induction characters generalizing start with
  | nil => rfl
  | cons character rest inductionHypothesis =>
    obtain ⟨first, later⟩ := List.forall_mem_cons.1 digits
    rw [digitsValue, if_pos first, inductionHypothesis _ later, Nat.ofDigitChars_cons,
      Nat.mul_comm 10]

theorem readDigits_eq
    {characters : List Char}
    (written : characters ≠ [])
    (digits : ∀ character ∈ characters, character.isDigit = true) :
    readDigits characters = some (Nat.ofDigitChars 10 characters 0) := by
  cases characters with
  | nil => exact absurd rfl written
  | cons character rest => exact digitsValue_eq 0 digits

/-- A number is read from its own digits. -/
theorem readDigits_toString (value : Nat) : readDigits (toString value).toList = some value := by
  rw [Nat.toString_eq_repr, Nat.toList_repr,
    readDigits_eq Nat.toDigits_ne_nil fun _ => Nat.isDigit_of_mem_toDigits (by decide) (by decide),
    Nat.ofDigitChars_toDigits (by decide) (by decide)]

end Fleet.Text
