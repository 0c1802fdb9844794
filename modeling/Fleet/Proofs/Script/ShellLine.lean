import Fleet.Text.ShellWord

/-!
# How a shell reads a line

One line of a command is read character by character into words and operators. Single quotes keep
everything up to the next one, a backslash outside of them keeps the character behind it, and a run
of operator characters is the longest operator it begins with. Parameters, commands put in place,
patterns, double quotes and comments are outside of this reading: a line that has one of them
outside of single quotes, or that ends inside of a quote, is not read at all.

A shell word is one word of every line it is written into.
-/

namespace Fleet

/-- A token of a line: a word without its quotes, or an operator. -/
inductive ShellToken where
  | word (text : List Char) (isQuoted : Bool)
  | operator (text : List Char)
  deriving DecidableEq, Repr

/-- What the next character of a line belongs to. -/
inductive ShellStand where
  /-- No token has begun. -/
  | between
  | word (text : List Char) (isQuoted : Bool)
  | quotes (text : List Char)
  | escape (text : List Char)
  | operator (text : List Char)
  deriving DecidableEq, Repr

/-- A line that has been read up to some character. -/
structure ShellLine where
  tokens : List ShellToken := []
  stand : ShellStand := .between
  deriving DecidableEq, Repr

namespace ShellLine

/-- The operators of a shell. -/
def operators : List (List Char) :=
  ["&", "|", ";", "(", ")", "<", ">", "&&", "||", ";;", "<<", ">>", "<&", ">&", "<>", ">|",
    "<<-"].map String.toList

/-- The characters that are, or in some position may be, more than themselves. -/
def special : List Char :=
  "|&;<>()$`\\\"\x27 \t\n*?[]#~!\x7b\x7d^%".toList

/-- An ordinary character is part of a word wherever it stands. -/
def isOrdinary (character : Char) : Bool :=
  !special.contains character

/-- A character where no token is under way. -/
def start (tokens : List ShellToken) (character : Char) : Option ShellLine :=
  if character = ' ' || character = '\t' then some { tokens := tokens }
  else if character = '\x27' then some { tokens := tokens, stand := .quotes [] }
  else if character = '\\' then some { tokens := tokens, stand := .escape [] }
  else if operators.contains [character] then
    some { tokens := tokens, stand := .operator [character] }
  else if isOrdinary character then some { tokens := tokens, stand := .word [character] false }
  else none

/-- One more character. A number right in front of an angle would name what is redirected. -/
def read (line : ShellLine) (character : Char) : Option ShellLine :=
  match line.stand with
  | .between => start line.tokens character
  | .word text isQuoted =>
    if character = '\x27' then some { line with stand := .quotes text }
    else if character = '\\' then some { line with stand := .escape text }
    else if isOrdinary character then
      some { line with stand := .word (text ++ [character]) isQuoted }
    else if text.all Char.isDigit && (character = '<' || character = '>') then none
    else start (line.tokens ++ [.word text isQuoted]) character
  | .quotes text =>
    if character = '\x27' then some { line with stand := .word text true }
    else some { line with stand := .quotes (text ++ [character]) }
  | .escape text => some { line with stand := .word (text ++ [character]) true }
  | .operator text =>
    if operators.contains (text ++ [character]) then
      some { line with stand := .operator (text ++ [character]) }
    else start (line.tokens ++ [.operator text]) character

/-- The tokens of a line that ends here. -/
def finish (line : ShellLine) : Option (List ShellToken) :=
  match line.stand with
  | .between => some line.tokens
  | .word text isQuoted => some (line.tokens ++ [.word text isQuoted])
  | .operator text => some (line.tokens ++ [.operator text])
  | .quotes _ | .escape _ => none

/-- The tokens of a line. -/
def tokensOf (characters : List Char) : Option (List ShellToken) :=
  (characters.foldlM read {}).bind finish

/-- Where no token is under way, the characters are the whole of one word so far. -/
def IsWord (characters text : List Char) (isQuoted : Bool) : Prop :=
  ∀ tokens, characters.foldlM read { tokens } = some { tokens, stand := .word text isQuoted }

end ShellLine

open ShellLine Text

section Words

variable {tokens : List ShellToken}

/-- What a shell word leaves as it is has no second meaning in a shell. -/
theorem ShellLine.isOrdinary_of_isPlainInShell
    {character : Char}
    (plain : isPlainInShell character = true) :
    isOrdinary character = true := by
  have apart : special.all (!isPlainInShell ·) = true := by decide
  rw [isOrdinary, Bool.not_eq_true', ← Bool.not_eq_true, List.contains_iff_mem]
  intro meaningful
  have notPlain := List.all_eq_true.1 apart character meaningful
  rw [plain] at notPlain
  exact Bool.false_ne_true notPlain

theorem ShellLine.ne_of_isOrdinary
    {character other : Char}
    (ordinary : isOrdinary character = true)
    (meaningful : other ∈ special) :
    character ≠ other := by
  rintro rfl
  rw [isOrdinary, List.contains_iff_mem.2 meaningful] at ordinary
  exact Bool.false_ne_true ordinary

/-- No ordinary character is an operator. -/
theorem ShellLine.not_operator_of_isOrdinary
    {character : Char}
    (ordinary : isOrdinary character = true) :
    operators.contains [character] = false := by
  have covered : operators.all (·.head?.all (special.contains ·)) = true := by decide
  rw [← Bool.not_eq_true, List.contains_iff_mem]
  intro isOperator
  have meaningful : special.contains character = true := List.all_eq_true.1 covered _ isOperator
  exact ne_of_isOrdinary ordinary (List.contains_iff_mem.1 meaningful) rfl

theorem ShellLine.start_of_isOrdinary
    {character : Char}
    (ordinary : isOrdinary character = true) :
    start tokens character = some { tokens, stand := .word [character] false } := by
  have notBlank : ¬ (character = ' ' || character = '\t') = true := by
    simp only [Bool.or_eq_true, decide_eq_true_eq, not_or]
    exact ⟨ne_of_isOrdinary ordinary (by decide), ne_of_isOrdinary ordinary (by decide)⟩
  rw [start, if_neg notBlank, if_neg (ne_of_isOrdinary ordinary (by decide)),
    if_neg (ne_of_isOrdinary ordinary (by decide)),
    if_neg (by rw [not_operator_of_isOrdinary ordinary]; exact Bool.false_ne_true), if_pos ordinary]

/-- Ordinary characters go on with a word. -/
theorem ShellLine.read_ordinary
    {characters : List Char}
    (ordinary : ∀ character ∈ characters, isOrdinary character = true)
    (text : List Char)
    (isQuoted : Bool) :
    characters.foldlM read { tokens, stand := .word text isQuoted } =
      some { tokens, stand := .word (text ++ characters) isQuoted } := by
  induction characters generalizing text with
  | nil => simp
  | cons character rest inductionHypothesis =>
    obtain ⟨first, others⟩ := List.forall_mem_cons.1 ordinary
    have step : read { tokens, stand := .word text isQuoted } character =
        some { tokens, stand := .word (text ++ [character]) isQuoted } := by
      have notQuote : character ≠ '\x27' := ne_of_isOrdinary first (by decide)
      have notBackslash : character ≠ '\\' := ne_of_isOrdinary first (by decide)
      simp only [read, if_neg notQuote, if_neg notBackslash, if_pos first]
    rw [List.foldlM_cons, step]
    simpa using inductionHypothesis others (text ++ [character])

/-- Between single quotes everything but a quote is text. -/
theorem ShellLine.read_quoteForShell
    (text : List Char)
    (character : Char) :
    (quoteForShell character).foldlM read { tokens, stand := .quotes text } =
      some { tokens, stand := .quotes (text ++ [character]) } := by
  rw [quoteForShell]
  split
  · simp [read]
  · rename_i isText
    have notQuote : character ≠ '\x27' := fun isQuote => isText (by simp [isQuote])
    simp [read, notQuote]

/-- What a shell word writes between its quotes is read as the characters it stands for. -/
theorem ShellLine.read_quoted (characters text : List Char) :
    (characters.flatMap quoteForShell).foldlM read { tokens, stand := .quotes text } =
      some { tokens, stand := .quotes (text ++ characters) } := by
  induction characters generalizing text with
  | nil => simp
  | cons character rest inductionHypothesis =>
    rw [List.flatMap_cons, List.foldlM_append, read_quoteForShell]
    simpa using inductionHypothesis (text ++ [character])

/-- A shell word is read as the one word it was made from. -/
theorem ShellLine.isWord_shellWordOf (characters : List Char) :
    ∃ isQuoted, IsWord (shellWordOf characters) characters isQuoted := by
  by_cases plain : (!characters.isEmpty && characters.all isPlainInShell) = true
  · refine ⟨false, fun tokens => ?_⟩
    rw [shellWordOf, if_pos plain]
    cases characters with
    | nil => simp at plain
    | cons character rest =>
      have ordinary : ∀ member ∈ character :: rest, isOrdinary member = true := by
        intro member isMember
        rw [Bool.and_eq_true] at plain
        exact isOrdinary_of_isPlainInShell (List.all_eq_true.1 plain.2 member isMember)
      obtain ⟨first, others⟩ := List.forall_mem_cons.1 ordinary
      rw [List.foldlM_cons, read, start_of_isOrdinary first]
      exact read_ordinary others [character] false
  · refine ⟨true, fun tokens => ?_⟩
    have opened : read { tokens } '\x27' = some { tokens, stand := .quotes [] } := by
      simp [read, start]
    rw [shellWordOf, if_neg plain, List.cons_append, List.foldlM_cons, opened, Option.bind_eq_bind,
      Option.bind_some, List.foldlM_append, read_quoted]
    simp [read]

/-- Text without a quote is read between single quotes as it is. -/
theorem ShellLine.read_unquotable
    {characters : List Char}
    (bare : '\x27' ∉ characters) :
    characters.foldlM read { tokens, stand := .quotes [] } =
      some { tokens, stand := .quotes characters } := by
  have verbatim (text : List Char) : characters.foldlM read { tokens, stand := .quotes text } =
      some { tokens, stand := .quotes (text ++ characters) } := by
    induction characters generalizing text with
    | nil => simp
    | cons character rest inductionHypothesis =>
      rw [List.mem_cons, not_or] at bare
      have step : read { tokens, stand := .quotes text } character =
          some { tokens, stand := .quotes (text ++ [character]) } := by
        simp only [read, if_neg (Ne.symm bare.1)]
      rw [List.foldlM_cons, step]
      simpa using inductionHypothesis bare.2 (text ++ [character])
  exact verbatim []

/-- Behind a word, two angles and a quote announce a document with a quoted delimiter. -/
theorem ShellLine.read_document
    (text : List Char)
    (isQuoted : Bool) :
    " <<\x27".toList.foldlM read { tokens, stand := .word text isQuoted } =
      some { tokens := tokens ++ [.word text isQuoted] ++ [.operator ['<', '<']],
             stand := .quotes [] } := by
  let behind := tokens ++ [.word text isQuoted]
  have ends : isOrdinary ' ' = false := by decide
  have blank : read { tokens, stand := .word text isQuoted } ' ' = some { tokens := behind } := by
    simp [read, start, ends, behind]
  have angle : read { tokens := behind } '<' =
      some { tokens := behind, stand := .operator ['<'] } := rfl
  have angles : read { tokens := behind, stand := .operator ['<'] } '<' =
      some { tokens := behind, stand := .operator ['<', '<'] } := rfl
  have opened : read { tokens := behind, stand := .operator ['<', '<'] } '\x27' =
      some { tokens := behind ++ [.operator ['<', '<']], stand := .quotes [] } := rfl
  have characters : " <<\x27".toList = [' ', '<', '<', '\x27'] := by decide
  rw [characters, List.foldlM_cons, blank, Option.bind_eq_bind, Option.bind_some, List.foldlM_cons,
    angle, Option.bind_eq_bind, Option.bind_some, List.foldlM_cons, angles, Option.bind_eq_bind,
    Option.bind_some, List.foldlM_cons, opened]
  rfl

end Words

/-- A shell word is of one line when its text is. -/
theorem Text.newline_not_mem_shellWordOf
    {characters : List Char}
    (oneLine : '\n' ∉ characters) :
    '\n' ∉ shellWordOf characters := by
  rw [shellWordOf]
  split
  · exact oneLine
  · simp only [List.cons_append, List.mem_cons, List.mem_append, List.mem_flatMap,
      List.not_mem_nil, or_false, not_or, not_exists, not_and]
    refine ⟨by decide, fun character member => ?_, by decide⟩
    have notNewline : '\n' ≠ character := fun same => oneLine (same ▸ member)
    rw [quoteForShell]
    split <;> simp [notNewline]

end Fleet
