/-!
# Shell words

A word that consists of plain characters stands in a shell command as it is. Any other word,
the empty one included, is put between single quotes; a quote or an exclamation mark inside it
leaves the quotes, is written behind a backslash, and opens them again.
-/

namespace Fleet.Text

/-- A plain character means itself in every position of a shell word. -/
def isPlainInShell (character : Char) : Bool :=
  character.isAlphanum || "-_=/,.+".toList.contains character

/-- The characters that write one character inside single quotes. -/
def quoteForShell (character : Char) : List Char :=
  if character = '\x27' || character = '!' then ['\x27', '\\', character, '\x27'] else [character]

/-- The shell characters that read back as one word. -/
def shellWordOf (characters : List Char) : List Char :=
  if !characters.isEmpty && characters.all isPlainInShell then
    characters
  else
    '\x27' :: characters.flatMap quoteForShell ++ ['\x27']

/-- A text as one word of a shell command. -/
def shellWord (text : String) : String :=
  String.ofList (shellWordOf text.toList)

end Fleet.Text
