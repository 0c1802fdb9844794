/-!
# Finding and cutting text

Searching for one text inside another, taking a known beginning off a text, and cutting a text at
separating characters. All cuts are stated on lists of characters, where they lose nothing: the
pieces and the separators put together give back the text.
-/

namespace Fleet.Text

/-- The needle occurs somewhere in the text. -/
def occursIn (needle : List Char) : List Char → Bool
  | [] => needle.isEmpty
  | character :: rest => needle.isPrefixOf (character :: rest) || occursIn needle rest

/-- The text contains the needle. -/
def containsText (text needle : String) : Bool :=
  occursIn needle.toList text.toList

/-- What follows a known beginning, when the characters start with it. -/
def afterLead : (lead characters : List Char) → Option (List Char)
  | [], characters => some characters
  | _ :: _, [] => none
  | expected :: lead, character :: characters =>
    if character = expected then afterLead lead characters else none

/-- What follows a known beginning, when the text starts with it. -/
def textAfter (lead text : String) : Option String :=
  (afterLead lead.toList text.toList).map String.ofList

/-- The pieces of a list of characters between separators; there is always at least one. -/
def piecesAt (isSeparator : Char → Bool) : List Char → List (List Char)
  | [] => [[]]
  | character :: rest =>
    if isSeparator character then
      [] :: piecesAt isSeparator rest
    else
      match piecesAt isSeparator rest with
      | [] => [[character]]
      | piece :: pieces => (character :: piece) :: pieces

/-- The pieces of a text between separators. -/
def splitAt (isSeparator : Char → Bool) (text : String) : List String :=
  (piecesAt isSeparator text.toList).map String.ofList

/-- The characters before and after the first separator. -/
def cutAtFirst (separator : Char) : List Char → Option (List Char × List Char)
  | [] => none
  | character :: rest =>
    if character = separator then
      some ([], rest)
    else
      (cutAtFirst separator rest).map fun (before, after) => (character :: before, after)

/-- The characters before and after the last separator. -/
def cutAtLast (separator : Char) (characters : List Char) : Option (List Char × List Char) :=
  (cutAtFirst separator characters.reverse).map fun (after, before) =>
    (before.reverse, after.reverse)

/-- Texts joined with a separator between neighbours. -/
def joinWith (separator : String) (texts : List String) : String :=
  String.intercalate separator texts

theorem occursIn_iff (needle characters : List Char) :
    occursIn needle characters = true ↔ needle <:+: characters := by
  induction characters with
  | nil => simp [occursIn, List.infix_nil]
  | cons character rest inductionHypothesis =>
    simp [occursIn, inductionHypothesis, List.infix_cons_iff]

theorem containsText_iff (text needle : String) :
    containsText text needle = true ↔ needle.toList <:+: text.toList :=
  occursIn_iff needle.toList text.toList

theorem containsText_append_self (text needle : String) :
    containsText (text ++ needle) needle = true := by
  rw [containsText_iff, String.toList_append]
  exact (List.suffix_append _ _).isInfix

theorem containsText_append
    {text needle : String}
    (contained : containsText text needle = true)
    (rest : String) :
    containsText (text ++ rest) needle = true := by
  rw [containsText_iff, String.toList_append] at *
  exact contained.trans (List.prefix_append _ _).isInfix

theorem containsText_append_right
    {text needle : String}
    (contained : containsText text needle = true)
    (lead : String) :
    containsText (lead ++ text) needle = true := by
  rw [containsText_iff, String.toList_append] at *
  exact contained.trans (List.suffix_append _ _).isInfix

/-- A beginning comes off exactly when it stands in front. -/
theorem afterLead_eq_some_iff (lead characters rest : List Char) :
    afterLead lead characters = some rest ↔ characters = lead ++ rest := by
  induction lead generalizing characters with
  | nil => simp [afterLead]
  | cons expected lead inductionHypothesis =>
    cases characters with
    | nil => simp [afterLead]
    | cons character characters =>
      by_cases same : character = expected
      · simp [afterLead, same, inductionHypothesis]
      · simp [afterLead, same]

/-- A cut at the first separator gives back the text around one separator. -/
theorem eq_of_cutAtFirst
    {separator : Char}
    {characters before after : List Char}
    (cut : cutAtFirst separator characters = some (before, after)) :
    characters = before ++ separator :: after ∧ separator ∉ before := by
  induction characters generalizing before with
  | nil => simp [cutAtFirst] at cut
  | cons character rest inductionHypothesis =>
    by_cases same : character = separator
    · simp [cutAtFirst, same] at cut
      obtain ⟨rfl, rfl⟩ := cut
      simp [same]
    · simp only [cutAtFirst, same, if_false, Option.map_eq_some_iff, Prod.mk.injEq,
        Prod.exists] at cut
      obtain ⟨start, finish, found, rfl, rfl⟩ := cut
      obtain ⟨shape, absent⟩ := inductionHypothesis found
      exact ⟨by simp [shape], by simp [absent, Ne.symm same]⟩

/-- A text is cut at the first separator exactly when it stands around one in this way. -/
theorem cutAtFirst_eq_some_iff
    {separator : Char}
    {characters before after : List Char} :
    cutAtFirst separator characters = some (before, after) ↔
      characters = before ++ separator :: after ∧ separator ∉ before := by
  constructor
  · exact eq_of_cutAtFirst
  · rintro ⟨rfl, absent⟩
    induction before with
    | nil => simp [cutAtFirst]
    | cons character before inductionHypothesis =>
      simp only [List.mem_cons, not_or] at absent
      simp [cutAtFirst, Ne.symm absent.1, inductionHypothesis absent.2]

/-- A text is cut at the last separator exactly when it stands around one in this way. -/
theorem cutAtLast_eq_some_iff
    {separator : Char}
    {characters before after : List Char} :
    cutAtLast separator characters = some (before, after) ↔
      characters = before ++ separator :: after ∧ separator ∉ after := by
  simp only [cutAtLast, Option.map_eq_some_iff, Prod.exists, Prod.mk.injEq]
  constructor
  · rintro ⟨after, before, cut, rfl, rfl⟩
    obtain ⟨shape, absent⟩ := eq_of_cutAtFirst cut
    refine ⟨?_, by simpa using absent⟩
    rw [← List.reverse_reverse characters, shape]
    simp
  · rintro ⟨rfl, absent⟩
    refine ⟨after.reverse, before.reverse,
      cutAtFirst_eq_some_iff.2 ⟨by simp, ?_⟩, by simp, by simp⟩
    simpa using absent

/-- A known beginning comes off what is written behind it. -/
@[simp]
theorem textAfter_append (lead rest : String) : textAfter lead (lead ++ rest) = some rest := by
  have off : afterLead lead.toList (lead ++ rest).toList = some rest.toList :=
    (afterLead_eq_some_iff _ _ _).2 (String.toList_append ..)
  rw [textAfter, off, Option.map_some, String.ofList_toList]

theorem textAfter_eq_some_iff {lead text rest : String} :
    textAfter lead text = some rest ↔ text = lead ++ rest := by
  constructor
  · intro off
    obtain ⟨characters, found, rfl⟩ := Option.map_eq_some_iff.1 off
    rw [String.ext_iff, String.toList_append, String.toList_ofList]
    exact (afterLead_eq_some_iff _ _ _).1 found
  · rintro rfl
    exact textAfter_append lead rest

/-- Of two beginnings neither of which starts with the other one, a text has one at most. -/
theorem textAfter_append_eq_none
    {lead other : String}
    (rest : String)
    (apart : ¬ lead.toList <+: other.toList ∧ ¬ other.toList <+: lead.toList) :
    textAfter lead (other ++ rest) = none := by
  rw [textAfter, Option.map_eq_none_iff]
  cases found : afterLead lead.toList (other ++ rest).toList with
  | none => rfl
  | some remaining =>
    have shape := (afterLead_eq_some_iff _ _ _).1 found
    rw [String.toList_append] at shape
    rcases List.prefix_or_prefix_of_prefix (List.prefix_append other.toList rest.toList)
        (shape ▸ List.prefix_append lead.toList remaining) with otherFirst | leadFirst
    · exact absurd otherFirst apart.2
    · exact absurd leadFirst apart.1

/-- There is always at least one piece. -/
theorem piecesAt_ne_nil
    (isSeparator : Char → Bool)
    (characters : List Char) :
    piecesAt isSeparator characters ≠ [] := by
  cases characters with
  | nil => simp [piecesAt]
  | cons character rest =>
    simp only [piecesAt]
    split
    · simp
    · split <;> simp

/-- Characters without a separator are one piece. -/
theorem piecesAt_of_forall_not
    {isSeparator : Char → Bool}
    {characters : List Char}
    (whole : ∀ character ∈ characters, isSeparator character = false) :
    piecesAt isSeparator characters = [characters] := by
  induction characters with
  | nil => rfl
  | cons character rest inductionHypothesis =>
    obtain ⟨inside, restInside⟩ := List.forall_mem_cons.1 whole
    simp [piecesAt, inside, inductionHypothesis restInside]

/-- A separator parts the pieces before it from the pieces behind it. -/
theorem piecesAt_append_cons
    {isSeparator : Char → Bool}
    {separator : Char}
    (separates : isSeparator separator = true)
    (before after : List Char) :
    piecesAt isSeparator (before ++ separator :: after) =
      piecesAt isSeparator before ++ piecesAt isSeparator after := by
  induction before with
  | nil => simp [piecesAt, separates]
  | cons character rest inductionHypothesis =>
    rw [List.cons_append, piecesAt, piecesAt, inductionHypothesis]
    split
    · rfl
    · cases pieces : piecesAt isSeparator rest with
      | nil => exact absurd pieces (piecesAt_ne_nil _ _)
      | cons piece others => rfl

/-- The pieces between occurrences of one character, each with it at its end, are the characters
with it at their end. -/
theorem flatMap_piecesAt
    (separator : Char)
    (characters : List Char) :
    (piecesAt (· == separator) characters).flatMap (· ++ [separator]) =
      characters ++ [separator] := by
  induction characters with
  | nil => rfl
  | cons character rest inductionHypothesis =>
    rw [piecesAt]
    split
    case isTrue same =>
      rw [List.flatMap_cons, inductionHypothesis, beq_iff_eq.1 same]
      rfl
    case isFalse =>
      cases pieces : piecesAt (· == separator) rest with
      | nil => exact absurd pieces (piecesAt_ne_nil _ _)
      | cons piece others =>
        rw [pieces] at inductionHypothesis
        simpa using inductionHypothesis

end Fleet.Text
