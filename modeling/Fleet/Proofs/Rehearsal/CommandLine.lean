import Fleet.Rehearsal.Host.Runner
import Fleet.Text.ShellWord

/-!
# Command lines of a local host

A text that is written as a shell word is read back as one word, whatever follows it. So a line of
such words makes the shell run the program that the first word names, with the other words as its
arguments, and what comes of it is what comes of starting the program directly.

The program that formats its arguments uses its format up to the last one of them. With the format
of one line it prints every argument as a line of its own.
-/

namespace Fleet.Rehearsal.Host

open Text (isPlainInShell quoteForShell shellWordOf shellWord)

/-- A line of shell words. -/
def commandLine (words : List String) : String :=
  " ".intercalate (words.map shellWord)

@[simp]
theorem toList_commandLine_nil : (commandLine []).toList = [] := rfl

@[simp]
theorem toList_commandLine_singleton (word : String) :
    (commandLine [word]).toList = shellWordOf word.toList := by
  simp [commandLine, shellWord]

@[simp]
theorem toList_commandLine_cons_cons
    (word next : String)
    (words : List String) :
    (commandLine (word :: next :: words)).toList =
      shellWordOf word.toList ++ ' ' :: (commandLine (next :: words)).toList := by
  simp [commandLine, shellWord]

/-! ## Reading words -/

/-- The pieces of a word in which nothing is put in place. -/
def letters (characters : List Char) : List Piece :=
  characters.map .letter

/-- A plain character is part of the word. -/
theorem tokens_plain
    {character : Char}
    (plain : isPlainInShell character = true)
    (word : Option (List Piece))
    (rest : List Char) :
    tokens .plain word (character :: rest) =
      tokens .plain (extend word (.letter character)) rest := by
  have apart : "\x27\x22$\\&|>; \n\t".toList.all (!isPlainInShell ·) = true := by decide
  have differs : ∀ other ∈ "\x27\x22$\\&|>; \n\t".toList, character ≠ other := by
    rintro other member rfl
    have special := List.all_eq_true.1 apart _ member
    rw [plain] at special
    cases special
  simp only [String.reduceToList, List.forall_mem_cons] at differs
  rw [tokens] <;> simp_all

theorem tokens_plain_append
    {characters : List Char}
    (plain : ∀ character ∈ characters, isPlainInShell character = true)
    (read : List Piece)
    (rest : List Char) :
    tokens .plain (some read) (characters ++ rest) =
      tokens .plain (some (read ++ letters characters)) rest := by
  induction characters generalizing read with
  | nil => rw [letters, List.map_nil, List.append_nil, List.nil_append]
  | cons first others inductionHypothesis =>
    obtain ⟨plainFirst, plainOthers⟩ := List.forall_mem_cons.1 plain
    rw [List.cons_append, tokens_plain plainFirst, extend, Option.getD_some,
      inductionHypothesis plainOthers, List.append_assoc]
    rfl

/-- What is written for a character between single quotes is read as the character. -/
theorem tokens_quoteForShell
    (character : Char)
    (read : List Piece)
    (rest : List Char) :
    tokens .single (some read) (quoteForShell character ++ rest) =
      tokens .single (some (read ++ [.letter character])) rest := by
  rw [quoteForShell]
  split
  case isTrue escaped =>
    simp [tokens, extend]
  case isFalse ordinary =>
    rw [List.cons_append, List.nil_append, tokens]
    · rfl
    · rintro rfl
      simp at ordinary

theorem tokens_quoted
    (characters : List Char)
    (read : List Piece)
    (rest : List Char) :
    tokens .single (some read) (characters.flatMap quoteForShell ++ rest) =
      tokens .single (some (read ++ letters characters)) rest := by
  induction characters generalizing read with
  | nil => rw [letters, List.map_nil, List.append_nil, List.flatMap_nil, List.nil_append]
  | cons first others inductionHypothesis =>
    rw [List.flatMap_cons, List.append_assoc, tokens_quoteForShell, inductionHypothesis,
      List.append_assoc]
    rfl

/-- A shell word is read as the text that it stands for, whatever follows it. -/
theorem tokens_shellWordOf
    (characters rest : List Char) :
    tokens .plain none (shellWordOf characters ++ rest) =
      tokens .plain (some (letters characters)) rest := by
  rw [shellWordOf]
  split
  case isTrue bare =>
    obtain ⟨filled, plain⟩ := Bool.and_eq_true_iff.1 bare
    cases characters with
    | nil => cases filled
    | cons first others =>
      obtain ⟨plainFirst, plainOthers⟩ := List.forall_mem_cons.1 (List.all_eq_true.1 plain)
      rw [List.cons_append, tokens_plain plainFirst, extend, Option.getD_none, List.nil_append,
        tokens_plain_append plainOthers]
      rfl
  case isFalse =>
    rw [List.cons_append, List.cons_append, List.append_assoc, tokens, Option.getD_none,
      tokens_quoted, List.nil_append, List.cons_append, tokens, Option.getD_some, List.nil_append]

/-- A line of shell words is read as these words. -/
theorem tokens_commandLine
    (words : List String) :
    tokens .plain none (commandLine words).toList =
      (words.map fun word => letters word.toList).map .word := by
  induction words with
  | nil => rfl
  | cons word others inductionHypothesis =>
    cases others with
    | nil =>
      have whole := tokens_shellWordOf word.toList []
      rw [List.append_nil] at whole
      rw [toList_commandLine_singleton, whole, tokens]
      rfl
    | cons next others =>
      rw [toList_commandLine_cons_cons, tokens_shellWordOf, List.map_cons, List.map_cons,
        ← inductionHypothesis]
      simp [tokens, wordToken]

/-! ## Running them -/

theorem commands_words
    (command : Command)
    (words : List (List Piece)) :
    commands command (words.map .word) = [{ command with words := command.words ++ words }] := by
  induction words generalizing command with
  | nil => rw [List.map_nil, commands, List.append_nil]
  | cons word others inductionHypothesis =>
    rw [List.map_cons, commands, inductionHypothesis, List.append_assoc]
    rfl

namespace Shell

@[simp]
theorem expand_letters
    (shell : Shell)
    (text : String) :
    shell.expand (letters text.toList) = text := by
  rw [expand, letters, List.map_map, ← String.toList_inj, String.toList_join, List.flatMap_map]
  simp [Char.toString]

/-- A line of shell words is run as one command. -/
theorem run_commandLine
    {words : List String}
    {reached : Shell}
    {status : Int}
    (ran : ({} : Shell).runWords false words = reached)
    (alive : reached.outcome.code = some status) :
    run (commandLine words) = { reached.outcome with code := some reached.status } := by
  have texts : (words.map fun word => letters word.toList).map ({} : Shell).expand = words := by
    simp [Function.comp_def]
  have read : commands {} (tokens .plain none (commandLine words).toList) =
      [{ words := words.map fun word => letters word.toList }] := by
    rw [tokens_commandLine, commands_words]
    rfl
  rw [run, read, List.foldl_cons, List.foldl_nil, step]
  simp [texts, ran, alive]

end Shell

variable {name : String} {program : List String → Outcome} {arguments : List String}

/-- A program ends with a status of its own. -/
theorem exists_code_of_simpleProgram
    (found : simpleProgram name = some program)
    (arguments : List String) :
    ∃ status, (program arguments).code = some status := by
  have copied : ∀ argument, ∃ status, (copyOne argument).code = some status := by
    intro argument
    unfold copyOne
    split
    · exact ⟨_, rfl⟩
    · split <;> exact ⟨_, rfl⟩
    · exact ⟨_, rfl⟩
  unfold simpleProgram at found
  split at found <;> cases found
  · exact ⟨_, rfl⟩
  · exact ⟨_, rfl⟩
  · unfold echo
    split <;> exact ⟨_, rfl⟩
  · unfold print
    split <;> exact ⟨_, rfl⟩
  · unfold copy
    split
    · exact copied _
    · dsimp only
      split <;> exact ⟨_, rfl⟩

/-- The shell runs the program that a line of shell words names, unless it is one of its own. -/
theorem Shell.run_program
    (found : simpleProgram name = some program)
    (notOwn : name ≠ "echo")
    (arguments : List String) :
    Shell.run (commandLine (name :: arguments)) = program arguments := by
  have ran : ({} : Shell).runWords false (name :: arguments) =
      ({} : Shell).finish false (program arguments) := by
    unfold simpleProgram at found
    split at found <;> cases found
    case h_3 => exact absurd rfl notOwn
    all_goals rfl
  obtain ⟨status, code⟩ := exists_code_of_simpleProgram found arguments
  rw [run_commandLine ran rfl]
  simp only [Shell.finish, code, List.nil_append, Option.getD_some, Bool.false_eq_true, if_false]
  rw [← code]

/-! ## Starting programs -/

/-- A line of shell words holds the characters of its words, and what is written around them. -/
theorem mem_commandLine_iff
    {character : Char}
    (unquoting : character ∉ ['\x27', '\\', ' '])
    (words : List String) :
    character ∈ (commandLine words).toList ↔ ∃ word ∈ words, character ∈ word.toList := by
  have quoted : ∀ other, character ∈ quoteForShell other ↔ character = other := by
    intro other
    rw [quoteForShell]
    split <;> simp_all
  have written : ∀ characters, character ∈ shellWordOf characters ↔ character ∈ characters := by
    intro characters
    rw [shellWordOf]
    split
    · rfl
    · simp_all
  induction words with
  | nil => simp
  | cons word others inductionHypothesis =>
    cases others with
    | nil => simp [written]
    | cons next others =>
      have apart : character ≠ ' ' := by
        rintro rfl
        simp at unquoting
      rw [toList_commandLine_cons_cons, List.mem_append, List.mem_cons, written,
        or_iff_right apart]
      exact (or_congr_right inductionHypothesis).trans (by simp)

theorem holdsZero_commandLine
    (words : List String) :
    Files.holdsZero (commandLine words) = words.any Files.holdsZero := by
  rw [Bool.eq_iff_iff, List.any_eq_true]
  simp only [Files.holdsZero, List.contains_iff_mem]
  exact mem_commandLine_iff (by decide) words

theorem sublist_shellWordOf
    (characters : List Char) :
    characters.Sublist (shellWordOf characters) := by
  have quoted : characters.Sublist (characters.flatMap quoteForShell) := by
    induction characters with
    | nil => exact List.Sublist.refl _
    | cons first others inductionHypothesis =>
      have kept : [first].Sublist (quoteForShell first) := by
        rw [quoteForShell]
        split <;> simp
      exact kept.append inductionHypothesis
  rw [shellWordOf]
  split
  · exact List.Sublist.refl _
  · exact (quoted.trans (List.sublist_append_left _ _)).cons _

theorem sublist_commandLine
    {word : String}
    {words : List String}
    (among : word ∈ words) :
    word.toList.Sublist (commandLine words).toList := by
  induction words with
  | nil => cases among
  | cons first others inductionHypothesis =>
    cases others with
    | nil =>
      obtain rfl := List.mem_singleton.1 among
      rw [toList_commandLine_singleton]
      exact sublist_shellWordOf _
    | cons next others =>
      rw [toList_commandLine_cons_cons]
      rcases List.mem_cons.1 among with rfl | later
      · exact (sublist_shellWordOf _).trans (List.sublist_append_left _ _)
      · exact ((inductionHypothesis later).cons _).trans (List.sublist_append_right _ _)

/-- A part of a text takes no more bytes than the whole. -/
theorem utf8ByteSize_le_of_sublist
    {part whole : List Char}
    (sublist : part.Sublist whole) :
    (String.ofList part).utf8ByteSize ≤ (String.ofList whole).utf8ByteSize := by
  induction sublist with
  | slnil => exact Nat.le_refl _
  | cons character _ inductionHypothesis =>
    rw [String.ofList_cons, String.utf8ByteSize_append]
    exact Nat.le_trans inductionHypothesis (Nat.le_add_left _ _)
  | cons_cons character _ inductionHypothesis =>
    rw [String.ofList_cons, String.ofList_cons, String.utf8ByteSize_append,
      String.utf8ByteSize_append]
    exact Nat.add_le_add_left inductionHypothesis _

theorem utf8ByteSize_le_commandLine
    {word : String}
    {words : List String}
    (among : word ∈ words) :
    word.utf8ByteSize ≤ (commandLine words).utf8ByteSize := by
  simpa using utf8ByteSize_le_of_sublist (sublist_commandLine among)

/-- A program is found under its name. -/
theorem start_of_simpleProgram
    (found : simpleProgram name = some program)
    (arguments : List String) :
    start name arguments =
      if arguments.any Files.holdsZero then .error .holdsZero
      else if arguments.any fun argument => argumentCeiling ≤ argument.utf8ByteSize then
        .error .tooMuch
      else .ok (program arguments) := by
  unfold simpleProgram at found
  split at found <;> cases found <;> rfl

/-- The shell takes any script that can be an argument. -/
theorem start_sh
    (script : String) :
    start "sh" ["-c", script] =
      if Files.holdsZero script then .error .holdsZero
      else if argumentCeiling ≤ script.utf8ByteSize then .error .tooMuch
      else .ok (Shell.run script) := by
  have zero : ("sh" :: ["-c", script]).any Files.holdsZero = Files.holdsZero script := by
    rw [List.any_cons, List.any_cons, List.any_cons, List.any_nil, Bool.or_false]
    rfl
  have long : (["-c", script].any fun argument => argumentCeiling ≤ argument.utf8ByteSize) =
      decide (argumentCeiling ≤ script.utf8ByteSize) := by
    have short : decide (argumentCeiling ≤ "-c".utf8ByteSize) = false := by decide
    rw [List.any_cons, List.any_cons, List.any_nil, Bool.or_false, short, Bool.false_or]
  rw [start, zero, long]
  by_cases excessive : argumentCeiling ≤ script.utf8ByteSize
  · rw [if_pos excessive, decide_eq_true excessive]
    rfl
  · rw [if_neg excessive, decide_eq_false excessive]
    rfl

/-- A program that is not one of the shell's own is started through the shell as it is directly,
with the same arguments, as long as the line is not too long. -/
theorem start_sh_commandLine
    (found : simpleProgram name = some program)
    (notOwn : name ≠ "echo")
    (short : (commandLine (name :: arguments)).utf8ByteSize < argumentCeiling) :
    start "sh" ["-c", commandLine (name :: arguments)] = start name arguments := by
  have fits : (arguments.any fun argument => argumentCeiling ≤ argument.utf8ByteSize) = false := by
    refine List.any_eq_false.2 fun argument among => ?_
    have within := utf8ByteSize_le_commandLine (List.mem_cons_of_mem name among)
    simpa using Nat.lt_of_le_of_lt within short
  have nameless : Files.holdsZero name = false := by
    unfold simpleProgram at found
    split at found <;> cases found <;> decide
  rw [start_sh, start_of_simpleProgram found, holdsZero_commandLine, List.any_cons, nameless,
    Bool.false_or, if_neg (Nat.not_le_of_lt short), fits, Shell.run_program found notOwn]
  rfl

/-! ## Printing lines -/

/-- One use of the format of one line prints one argument. -/
theorem applyFormat_line
    (text : String)
    (texts : List String) :
    applyFormat ("%s\\n".length + 1) "%s\\n".toList (text :: texts) =
      (bytesOf text ++ [10], texts) := by
  show applyFormat 5 ['%', 's', '\\', 'n'] (text :: texts) = _
  simp [applyFormat, readEscape, escapedByte]

/-- With the format of one line, every argument is a line. -/
theorem format_lines
    {texts : List String}
    {allowance : Nat}
    (nonempty : texts ≠ [])
    (allowed : texts.length ≤ allowance) :
    format "%s\\n" allowance texts = texts.flatMap fun text => bytesOf text ++ [10] := by
  induction texts generalizing allowance with
  | nil => exact absurd rfl nonempty
  | cons text others inductionHypothesis =>
    cases allowance with
    | zero => cases allowed
    | succ allowance =>
      rw [format, applyFormat_line, List.flatMap_cons]
      cases others with
      | nil => simp
      | cons next others =>
        have onwards := inductionHypothesis (List.cons_ne_nil _ _) (Nat.le_of_succ_le_succ allowed)
        simp [onwards]

/-- Texts that are printed line by line through the shell arrive as they are. -/
theorem start_sh_lines
    {texts : List String}
    (nonempty : texts ≠ [])
    (noZero : ∀ text ∈ texts, Files.holdsZero text = false)
    (short : (commandLine ("printf" :: "%s\\n" :: texts)).utf8ByteSize < argumentCeiling) :
    start "sh" ["-c", commandLine ("printf" :: "%s\\n" :: texts)] =
      .ok { output := texts.flatMap fun text => bytesOf text ++ [10] } := by
  have spared : Files.holdsZero (commandLine ("printf" :: "%s\\n" :: texts)) = false := by
    have others : texts.any Files.holdsZero = false := by simpa using noZero
    rw [holdsZero_commandLine, List.any_cons, List.any_cons, others, Bool.or_false]
    rfl
  rw [start_sh, spared, if_neg (Nat.not_le_of_lt short), Shell.run_program rfl (by decide), print,
    formatted, format_lines nonempty (Nat.le_succ _)]
  rfl

end Fleet.Rehearsal.Host
