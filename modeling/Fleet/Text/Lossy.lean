/-!
# Lossy decoding

Bytes as text in UTF-8, where every longest run of bytes that starts a character and is not finished
as one, and every byte that starts none, is replaced by the replacement character.
-/

namespace Fleet.Text

/-- The character that stands for bytes that write none. -/
def replacement : Char := '\ufffd'

/-- Whether a byte continues a character. -/
def isContinuation (byte : UInt8) : Bool :=
  0x80 ≤ byte && byte ≤ 0xBF

/-- Whether the second byte of a character may follow the first one. -/
def mayFollow (first second : UInt8) : Bool :=
  isContinuation second &&
    if first = 0xE0 then 0xA0 ≤ second
    else if first = 0xED then second ≤ 0x9F
    else if first = 0xF0 then 0x90 ≤ second
    else if first = 0xF4 then second ≤ 0x8F
    else true

/-- Whether bytes start a character that takes more bytes. -/
def isUnfinished : List UInt8 → Bool
  | [first] => 0xC2 ≤ first && first ≤ 0xF4
  | [first, second] => 0xE0 ≤ first && first ≤ 0xF4 && mayFollow first second
  | [first, second, third] =>
    0xF0 ≤ first && first ≤ 0xF4 && mayFollow first second && isContinuation third
  | _ => false

/-- The character that bytes write, if they write exactly one. -/
def characterOfBytes? (bytes : List UInt8) : Option Char :=
  match (String.fromUTF8? (ByteArray.mk bytes.toArray)).map String.toList with
  | some [character] => some character
  | _ => none

/-- The characters of bytes, after bytes that have started a character. -/
def decodeAfter (pending : List UInt8) : List UInt8 → List Char
  | [] => if pending.isEmpty then [] else [replacement]
  | byte :: rest =>
    match characterOfBytes? (pending ++ [byte]) with
    | some character => character :: decodeAfter [] rest
    | none =>
      if isUnfinished (pending ++ [byte]) then
        decodeAfter (pending ++ [byte]) rest
      else if pending.isEmpty then
        replacement :: decodeAfter [] rest
      else
        match characterOfBytes? [byte] with
        | some character => replacement :: character :: decodeAfter [] rest
        | none =>
          if isUnfinished [byte] then replacement :: decodeAfter [byte] rest
          else replacement :: replacement :: decodeAfter [] rest

/-- The text of bytes. -/
def decodeLossy (bytes : List UInt8) : String :=
  String.ofList (decodeAfter [] bytes)

end Fleet.Text
