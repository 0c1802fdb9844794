/-!
# Blank characters

The characters that count as blank space are exactly those of the Unicode `White_Space` property.
Trimming removes blanks from both ends of a text, and the words of a text are its maximal runs of
characters that are not blank.
-/

namespace Fleet.Text

/-- A character is blank when it has the `White_Space` property. -/
def isBlank (character : Char) : Bool :=
  let code := character.toNat
  (9 ≤ code && code ≤ 13) || code == 0x20 || code == 0x85 || code == 0xA0 || code == 0x1680 ||
    (0x2000 ≤ code && code ≤ 0x200A) || code == 0x2028 || code == 0x2029 || code == 0x202F ||
    code == 0x205F || code == 0x3000

/-- Blanks removed from both ends of a list of characters. -/
def trimCharacters (characters : List Char) : List Char :=
  ((characters.dropWhile isBlank).reverse.dropWhile isBlank).reverse

/-- Blanks removed from both ends of a text. -/
def trim (text : String) : String :=
  String.ofList (trimCharacters text.toList)

/-- A text is blank when all its characters are, the empty text included. -/
def isBlankText (text : String) : Bool :=
  text.toList.all isBlank

/-- The words of a list of characters, given the reversed start of the word being read. -/
def wordsAfter (pending : List Char) : List Char → List (List Char)
  | [] => if pending.isEmpty then [] else [pending.reverse]
  | character :: rest =>
    if isBlank character then
      if pending.isEmpty then wordsAfter [] rest else pending.reverse :: wordsAfter [] rest
    else
      wordsAfter (character :: pending) rest

/-- The words of a text, in order: its maximal runs of characters that are not blank. -/
def words (text : String) : List String :=
  (wordsAfter [] text.toList).map String.ofList

end Fleet.Text
