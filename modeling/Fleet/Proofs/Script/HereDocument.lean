import Fleet.Proofs.Script.ShellLine
import Fleet.Script.Command
import Fleet.Text.Search
import Fleet.Token

/-!
# What an upload writes

A shell reads a command with a here-document in this way: the first line names a delimiter behind
its operator, the lines up to the first one that is the delimiter are the document, each with its
line end, and the lines behind it go on with the command. The document is the text itself when the
delimiter is quoted, and only such a document is read here.

The command that uploads a script is read as one that writes exactly the script, ended by a line end
when it has none, to exactly the path, and then makes that path executable.
-/

namespace Fleet

open Text

/-- A command with a here-document, as a shell reads it. -/
structure HereDocument where
  /-- The line that announces the document. -/
  command : List ShellToken
  contents : List Char
  /-- The lines behind the delimiter. -/
  rest : List (List Char)
  deriving DecidableEq, Repr

namespace HereDocument

/-- The quoted delimiter a line announces, when it announces one document. -/
def delimiterOf : List ShellToken → Option (List Char)
  | [] => none
  | .operator ['<', '<'] :: .word delimiter true :: rest =>
    if rest.contains (.operator ['<', '<']) then none else some delimiter
  | .operator ['<', '<'] :: _ => none
  | _ :: rest => delimiterOf rest

/-- The document of the lines behind the first one, and what follows its delimiter. -/
def ofLines
    (command : List ShellToken)
    (delimiter : List Char)
    (lines : List (List Char)) :
    Option HereDocument :=
  match lines.dropWhile (· != delimiter) with
  | [] => none
  | _ :: rest =>
    some
      { command := command
        contents := (lines.takeWhile (· != delimiter)).flatMap (· ++ ['\n'])
        rest := rest }

/-- The reading of a command with one here-document. -/
def read (text : String) : Option HereDocument :=
  match piecesAt (· == '\n') text.toList with
  | [] => none
  | first :: lines => do
    let command ← ShellLine.tokensOf first
    let delimiter ← delimiterOf command
    ofLines command delimiter lines

end HereDocument

/-- The digits of a number to base sixteen are letters and digits. -/
theorem Text.isAlphanum_of_mem_toDigits
    {number : Nat}
    {character : Char}
    (member : character ∈ Nat.toDigits 16 number) :
    character.isAlphanum = true := by
  have digit : ∀ digit < 16, (Nat.digitChar digit).isAlphanum = true := by decide
  induction number using Nat.strongRecOn with
  | ind number inductionHypothesis =>
    rw [Nat.toDigits_eq_if (by decide)] at member
    split at member
    case isTrue small =>
      rw [List.mem_singleton.1 member]
      exact digit number small
    case isFalse large =>
      rcases List.mem_append.1 member with leading | last
      · exact inductionHypothesis (number / 16) (by omega) leading
      · rw [List.mem_singleton.1 last]
        exact digit (number % 16) (Nat.mod_lt _ (by decide))

/-- A fresh token is made of letters and digits. -/
theorem TokenSupply.isAlphanum_of_mem_next (supply : TokenSupply) :
    ∀ character ∈ supply.next.toList, character.isAlphanum = true := by
  intro character member
  rw [TokenSupply.next, paddedHex, String.toList_ofList] at member
  rcases List.mem_append.1 member with filling | digits
  · rw [(List.mem_replicate.1 filling).2]
    decide
  · exact isAlphanum_of_mem_toDigits digits

namespace ScriptCommand

/-- What an upload writes for a script: the script, ended by a line end. -/
def written (script : List Char) : List Char :=
  if script.getLast? = some '\n' then script else script ++ ['\n']

/-- The body of an upload lacks only the line end of what is written. -/
theorem body_append_newline (script : List Char) : body script ++ ['\n'] = written script := by
  rw [body, written]
  split
  case isTrue ended =>
    obtain ⟨lead, rfl⟩ := List.getLast?_eq_some_iff.1 ended
    rw [List.dropLast_concat]
  case isFalse => rfl

/-- The lines of the body are lines of the script. -/
theorem mem_lines_of_mem_body
    {script line : List Char}
    (isLine : line ∈ piecesAt (· == '\n') (body script)) :
    line ∈ piecesAt (· == '\n') script := by
  rw [body] at isLine
  split at isLine
  case isTrue ended =>
    obtain ⟨lead, rfl⟩ := List.getLast?_eq_some_iff.1 ended
    rw [List.dropLast_concat] at isLine
    rw [piecesAt_append_cons rfl]
    exact List.mem_append_left _ isLine
  case isFalse => exact isLine

/-- The line that announces the script. -/
def announcement (delimiter path : List Char) : List Char :=
  "cat > ".toList ++ shellWordOf path ++ " <<\x27".toList ++ delimiter ++ ['\x27']

/-- The line behind the script. -/
def permission (path : List Char) : List Char :=
  "chmod 0755 ".toList ++ shellWordOf path

/-- An upload is its announcement, the body of the script, the delimiter and the permission. -/
theorem toList_upload (delimiter path script : String) :
    (upload delimiter path script).toList =
      announcement delimiter.toList path.toList ++
        '\n' :: (body script.toList ++
          '\n' :: (delimiter.toList ++ '\n' :: permission path.toList)) := by
  delta upload announcement permission
  simp only [toString, String.toList_append, shellWord, String.toList_ofList]
  simp

variable {delimiter path : List Char}

/-- The line that announces a script is read as five tokens, with the path in one word. -/
theorem tokensOf_announcement
    {isQuoted : Bool}
    (word : ShellLine.IsWord (shellWordOf path) path isQuoted)
    (bare : '\x27' ∉ delimiter) :
    ShellLine.tokensOf (announcement delimiter path) =
      some [.word ['c', 'a', 't'] false, .operator ['>'], .word path isQuoted,
        .operator ['<', '<'], .word delimiter true] := by
  have command : "cat > ".toList.foldlM ShellLine.read {} =
      some { tokens := [.word ['c', 'a', 't'] false, .operator ['>']] } := by decide
  delta announcement
  rw [ShellLine.tokensOf, List.foldlM_append, List.foldlM_append, List.foldlM_append,
    List.foldlM_append, command, Option.bind_eq_bind, Option.bind_some, word]
  simp only [Option.bind_some]
  rw [ShellLine.read_document, Option.bind_some, ShellLine.read_unquotable bare, Option.bind_some]
  simp [ShellLine.read, ShellLine.finish]

/-- The line behind a script is read as three words, the path the last of them. -/
theorem tokensOf_permission
    {isQuoted : Bool}
    (word : ShellLine.IsWord (shellWordOf path) path isQuoted) :
    ShellLine.tokensOf (permission path) =
      some [.word ['c', 'h', 'm', 'o', 'd'] false, .word ['0', '7', '5', '5'] false,
        .word path isQuoted] := by
  have command : "chmod 0755 ".toList.foldlM ShellLine.read {} =
      some { tokens := [.word ['c', 'h', 'm', 'o', 'd'] false,
        .word ['0', '7', '5', '5'] false] } :=
    by decide
  delta permission
  rw [ShellLine.tokensOf, List.foldlM_append, command, Option.bind_eq_bind, Option.bind_some, word]
  rfl

/-- The lines of an upload are its announcement, the lines of the body, the delimiter and the
permission. -/
theorem lines_upload
    {delimiter path script : String}
    (delimiterOneLine : '\n' ∉ delimiter.toList)
    (pathOneLine : '\n' ∉ path.toList) :
    piecesAt (· == '\n') (upload delimiter path script).toList =
      announcement delimiter.toList path.toList ::
        (piecesAt (· == '\n') (body script.toList) ++
          [delimiter.toList, permission path.toList]) := by
  have whole {line : List Char} (oneLine : '\n' ∉ line) : piecesAt (· == '\n') line = [line] :=
    piecesAt_of_forall_not fun character member =>
      beq_eq_false_iff_ne.2 fun isNewline => oneLine (isNewline ▸ member)
  have wordOneLine := newline_not_mem_shellWordOf pathOneLine
  have announced : '\n' ∉ announcement delimiter.toList path.toList := by
    delta announcement
    simp [wordOneLine, delimiterOneLine]
  have permitted : '\n' ∉ permission path.toList := by
    delta permission
    simp [wordOneLine]
  rw [toList_upload, piecesAt_append_cons rfl, piecesAt_append_cons rfl, piecesAt_append_cons rfl,
    whole announced, whole delimiterOneLine, whole permitted]
  rfl

/-- The document of an upload ends at the delimiter, because no line of the script is the
delimiter. -/
theorem ofLines_body
    {command : List ShellToken}
    {delimiter script permitted : List Char}
    (apart : delimiter ∉ piecesAt (· == '\n') script) :
    HereDocument.ofLines command delimiter
        (piecesAt (· == '\n') (body script) ++ [delimiter, permitted]) =
      some { command, contents := written script, rest := [permitted] } := by
  have before : ∀ line ∈ piecesAt (· == '\n') (body script), (line != delimiter) = true := by
    intro line isLine
    exact bne_iff_ne.2 fun isDelimiter => apart (isDelimiter ▸ mem_lines_of_mem_body isLine)
  rw [HereDocument.ofLines, List.dropWhile_append_of_pos before,
    List.takeWhile_append_of_pos before, List.dropWhile_cons_of_neg (by simp),
    List.takeWhile_cons_of_neg (by simp), List.append_nil, flatMap_piecesAt,
    body_append_newline]

/-- An upload with a delimiter that needs no care is read as the script at its path. -/
theorem read_upload
    {delimiter path script : String}
    {isQuoted : Bool}
    (word : ShellLine.IsWord (shellWordOf path.toList) path.toList isQuoted)
    (bare : '\x27' ∉ delimiter.toList)
    (delimiterOneLine : '\n' ∉ delimiter.toList)
    (pathOneLine : '\n' ∉ path.toList)
    (apart : delimiter.toList ∉ piecesAt (· == '\n') script.toList) :
    HereDocument.read (upload delimiter path script) =
      some
        { command := [.word ['c', 'a', 't'] false, .operator ['>'], .word path.toList isQuoted,
            .operator ['<', '<'], .word delimiter.toList true]
          contents := written script.toList
          rest := [permission path.toList] } := by
  rw [HereDocument.read, lines_upload delimiterOneLine pathOneLine]
  simp only [tokensOf_announcement word bare, Option.bind_eq_bind, Option.bind_some]
  exact ofLines_body apart

/-- A token of letters and digits makes a delimiter without quotes and line ends. -/
theorem not_mem_delimiter
    {token : String}
    (bare : ∀ character ∈ token.toList, character.isAlphanum = true)
    {character : Char}
    (apart : character ∉ "CUMULUS_EOF_".toList)
    (special : character.isAlphanum = false) :
    character ∉ (ScriptCommand.delimiter token).toList := by
  rw [ScriptCommand.delimiter, String.toList_append, List.mem_append]
  rintro (inLead | inToken)
  · exact apart inLead
  · rw [bare character inToken] at special
    exact Bool.false_ne_true special.symm

/-- The file an upload leaves on a node is the script, for every script: read by a shell, the
upload writes the script, ended by a line end when it has none, to the path as one word, with
nothing of it expanded, and what follows the document is one line, which makes the same word
executable. The delimiter is one that a token of letters and digits makes, and no line of the
script is that delimiter. -/
theorem upload_writes_the_script
    (token path script : String)
    (isToken : ∀ character ∈ token.toList, character.isAlphanum = true)
    (oneLine : '\n' ∉ path.toList)
    (apart : (ScriptCommand.delimiter token).toList ∉ piecesAt (· == '\n') script.toList) :
    ∃ isQuoted,
      HereDocument.read (upload (ScriptCommand.delimiter token) path script) =
          some
            { command := [.word "cat".toList false, .operator ">".toList,
                .word path.toList isQuoted, .operator "<<".toList,
                .word (ScriptCommand.delimiter token).toList true]
              contents :=
                if script.toList.getLast? = some '\n' then script.toList
                else script.toList ++ ['\n']
              rest := ["chmod 0755 ".toList ++ (shellWord path).toList] } ∧
        ShellLine.tokensOf ("chmod 0755 ".toList ++ (shellWord path).toList) =
          some [.word "chmod".toList false, .word "0755".toList false,
            .word path.toList isQuoted] := by
  obtain ⟨isQuoted, word⟩ := ShellLine.isWord_shellWordOf path.toList
  have wordText : (shellWord path).toList = shellWordOf path.toList := by
    rw [shellWord, String.toList_ofList]
  rw [wordText]
  exact ⟨isQuoted,
    read_upload word (not_mem_delimiter isToken (by decide) (by decide))
      (not_mem_delimiter isToken (by decide) (by decide)) oneLine apart,
    tokensOf_permission word⟩

/-- Blank lines, both kinds of quotes, a parameter and several line ends at the end arrive as they
are, at a path with a blank and a quote in it. -/
theorem blank_lines_and_quotes_arrive :
    let token := TokenSupply.next { label := 7, drawn := 1 }
    let path := "/tmp/it\x27s new.sh"
    let script := "#!/bin/sh\n\necho \x27a\x27 \"$HOME\"\n\n\n"
    '\n' ∉ path.toList ∧
      (ScriptCommand.delimiter token).toList ∉ piecesAt (· == '\n') script.toList ∧
      (HereDocument.read (upload (ScriptCommand.delimiter token) path script)).map
          HereDocument.contents = some script.toList := by
  intro token path script
  have oneLine : '\n' ∉ path.toList := by decide
  have apart : (ScriptCommand.delimiter token).toList ∉ piecesAt (· == '\n') script.toList := by
    have starts : ∀ line ∈ piecesAt (· == '\n') script.toList,
      line.head? ≠ some 'C' := by decide
    intro isLine
    refine starts _ isLine ?_
    rw [ScriptCommand.delimiter, String.toList_append]
    rfl
  obtain ⟨isQuoted, reading, _⟩ := upload_writes_the_script token path script
    (TokenSupply.isAlphanum_of_mem_next _) oneLine apart
  have ended : script.toList.getLast? = some '\n' := by decide
  refine ⟨oneLine, apart, ?_⟩
  rw [reading, if_pos ended]
  rfl

end ScriptCommand

end Fleet
