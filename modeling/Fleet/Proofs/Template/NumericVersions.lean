import Fleet.Template.Version
import Mathlib.Data.List.Forall2

/-!
# Versions of numbers

A numeric version is made of numerals, each of which fits a word of 64 bits, with one separator
between neighbours. Such versions are compared as the lists of their numbers, in the lexicographic
order in which a list comes before its continuations. Leading zeros and the choice of separators do
not matter. Among numeric versions the order is therefore a total preorder, which it is not among
all versions.
-/

namespace Fleet

namespace Text

/-- Characters have no separator, or the first one parts the first piece from the others. -/
theorem piecesAt_cases
    (isSeparator : Char → Bool)
    (characters : List Char) :
    (∀ character ∈ characters, isSeparator character = false) ∧
        piecesAt isSeparator characters = [characters] ∨
      ∃ before separator after, characters = before ++ separator :: after ∧
        isSeparator separator = true ∧
        piecesAt isSeparator characters = before :: piecesAt isSeparator after := by
  induction characters with
  | nil => exact Or.inl ⟨List.forall_mem_nil _, rfl⟩
  | cons character rest inductionHypothesis =>
    by_cases separates : isSeparator character = true
    · exact Or.inr ⟨[], character, rest, rfl, separates, by rw [piecesAt, if_pos separates]⟩
    · have inside : isSeparator character = false := Bool.eq_false_iff.2 separates
      rcases inductionHypothesis with
        ⟨whole, -⟩ | ⟨before, separator, after, rfl, parts, pieces⟩
      · have entire : ∀ other ∈ character :: rest, isSeparator other = false :=
          List.forall_mem_cons.2 ⟨inside, whole⟩
        exact Or.inl ⟨entire, piecesAt_of_forall_not entire⟩
      · refine Or.inr ⟨character :: before, separator, after, rfl, parts, ?_⟩
        rw [piecesAt, if_neg separates, pieces]

end Text

namespace Version

open Text

/-- Decimal digits, leading zeros among them, that write a number of at most 64 bits. -/
structure Numeral (digits : List Char) (value : Nat) : Prop where
  written : digits ≠ []
  decimal : ∀ digit ∈ digits, digit.isDigit = true
  valued : value = Nat.ofDigitChars 10 digits 0
  fits : value < UInt64.size

/-- Characters that consist of numerals with a separator between neighbours, and the numbers that
the numerals write. -/
inductive Spells : List Char → List Nat → Prop
  | last {digits : List Char} {value : Nat} (numeral : Numeral digits value) :
    Spells digits [value]
  | more {digits : List Char} {value : Nat} {separator : Char} {rest : List Char}
      {values : List Nat} (numeral : Numeral digits value)
      (separates : separator ∈ ['.', '-', '_'])
      (later : Spells rest values) : Spells (digits ++ separator :: rest) (value :: values)

theorem isSeparator_iff (character : Char) :
    isSeparator character = true ↔ character ∈ ['.', '-', '_'] := by
  simp [isSeparator, or_assoc]

namespace Numeral

variable {digits : List Char} {value : Nat}

theorem not_isSeparator (numeral : Numeral digits value) :
    ∀ character ∈ digits, isSeparator character = false := by
  intro character written
  have digit := numeral.decimal character written
  refine Bool.eq_false_iff.2 fun separates => ?_
  have notDigit : ∀ separator ∈ ['.', '-', '_'], separator.isDigit = false := by simp
  rw [notDigit character ((isSeparator_iff character).1 separates)] at digit
  cases digit

/-- A numeral is read as its value. -/
theorem readBounded_eq (numeral : Numeral digits value) :
    readBounded largest64 digits = some value := by
  have bounded : value ≤ largest64 := Nat.le_of_lt_succ numeral.fits
  have read : readDigits digits = some value := by
    rw [readDigits_eq numeral.written numeral.decimal, numeral.valued]
  obtain ⟨first, rest, rfl⟩ := List.exists_cons_of_ne_nil numeral.written
  have unsigned : first ≠ '+' := by
    rintro rfl
    cases numeral.decimal '+' List.mem_cons_self
  simp [readBounded, unsigned, read, bounded]

end Numeral

/-- The numbers of a numeric version are those that its segments write. -/
theorem spells_iff
    {characters : List Char}
    {values : List Nat} :
    Spells characters values ↔
      List.Forall₂ Numeral (piecesAt isSeparator characters) values := by
  constructor
  · intro spells
    induction spells with
    | last numeral =>
      rw [piecesAt_of_forall_not numeral.not_isSeparator]
      exact .cons numeral .nil
    | @more _ _ separator _ _ numeral separates _ inductionHypothesis =>
      rw [piecesAt_append_cons ((isSeparator_iff separator).2 separates),
        piecesAt_of_forall_not numeral.not_isSeparator]
      exact .cons numeral inductionHypothesis
  · intro numerals
    induction values generalizing characters with
    | nil => exact absurd (List.forall₂_nil_right_iff.1 numerals) (piecesAt_ne_nil _ _)
    | cons value values inductionHypothesis =>
      rcases piecesAt_cases isSeparator characters with
        ⟨-, single⟩ | ⟨digits, separator, rest, rfl, separates, pieces⟩
      · rw [single, List.forall₂_cons] at numerals
        rw [List.forall₂_nil_left_iff.1 numerals.2]
        exact .last numerals.1
      · rw [pieces, List.forall₂_cons] at numerals
        exact .more numerals.1 ((isSeparator_iff separator).1 separates)
          (inductionHypothesis numerals.2)

/-- A version spells some numbers exactly when each of its segments is a numeral. -/
theorem exists_spells_iff (version : String) :
    (∃ values, Spells version.toList values) ↔
      ∀ segment ∈ segments version, ∃ value, Numeral segment.toList value := by
  simp only [spells_iff, segments, splitAt, List.forall_mem_map, String.toList_ofList]
  generalize piecesAt isSeparator version.toList = pieces
  induction pieces with
  | nil => simp
  | cons piece pieces inductionHypothesis =>
    rw [List.forall_mem_cons, ← inductionHypothesis]
    constructor
    · rintro ⟨_, _ | ⟨numeral, numerals⟩⟩
      exact ⟨⟨_, numeral⟩, _, numerals⟩
    · rintro ⟨⟨value, numeral⟩, values, numerals⟩
      exact ⟨value :: values, .cons numeral numerals⟩

/-- Segments that are numerals are compared by their values. -/
theorem compareSegments_eq
    {left right : List Char}
    {leftValue rightValue : Nat}
    (leftNumeral : Numeral left leftValue)
    (rightNumeral : Numeral right rightValue) :
    compareSegments (.ofList left) (.ofList right) = compare leftValue rightValue := by
  rw [compareSegments, segmentNumber, segmentNumber, String.toList_ofList, String.toList_ofList,
    leftNumeral.readBounded_eq, rightNumeral.readBounded_eq]

/-- The comparison of segments until the first difference is the lexicographic one. -/
theorem compareLists_eq
    {left right : List (List Char)}
    {leftValues rightValues : List Nat}
    (leftNumerals : List.Forall₂ Numeral left leftValues)
    (rightNumerals : List.Forall₂ Numeral right rightValues) :
    compareLists (left.map .ofList) (right.map .ofList) =
      List.compareLex compare leftValues rightValues := by
  induction leftNumerals generalizing right rightValues with
  | nil => cases rightNumerals <;> rfl
  | cons numeral _ inductionHypothesis =>
    cases rightNumerals with
    | nil => rfl
    | cons other others =>
      rw [List.map_cons, List.map_cons, compareLists, compareSegments_eq numeral other,
        inductionHypothesis others, List.compareLex_cons_cons]

theorem order_eq_compareLex
    {left right : String}
    {leftValues rightValues : List Nat}
    (leftNumeric : Spells left.toList leftValues)
    (rightNumeric : Spells right.toList rightValues) :
    order left right = List.compareLex compare leftValues rightValues :=
  compareLists_eq (spells_iff.1 leftNumeric) (spells_iff.1 rightNumeric)

/-- The lexicographic comparison decides the lexicographic order, in which a list comes before its
continuations. -/
theorem compareLex_eq_lt_iff (left right : List Nat) :
    List.compareLex compare left right = .lt ↔ left < right := by
  induction left generalizing right with
  | nil => cases right <;> simp [List.compareLex]
  | cons value values inductionHypothesis =>
    cases right with
    | nil => simp [List.compareLex]
    | cons other others =>
      rw [List.compareLex_cons_cons, Ordering.then_eq_lt, Nat.compare_eq_lt, Nat.compare_eq_eq,
        inductionHypothesis, List.cons_lt_cons_iff]

/-- Versions are numeric exactly when all their segments are numerals, and numeric versions are
compared as their lists of numbers: the first difference decides, and a list comes before its
continuations. Among them the order is a total preorder in which just those versions are equal that
spell the same numbers. -/
theorem numeric_versions_are_ordered_by_numbers
    {first second third : String}
    {firstValues secondValues thirdValues : List Nat}
    (firstNumeric : Spells first.toList firstValues)
    (secondNumeric : Spells second.toList secondValues)
    (thirdNumeric : Spells third.toList thirdValues) :
    (∀ version : String, (∃ values, Spells version.toList values) ↔
      ∀ segment ∈ segments version, ∃ value, Numeral segment.toList value) ∧
    order first second = List.compareLex compare firstValues secondValues ∧
    (order first second = .lt ↔ firstValues < secondValues) ∧
    (order first second = .eq ↔ firstValues = secondValues) ∧
    (order first second = .gt ↔ secondValues < firstValues) ∧
    (order first first).isLE = true ∧
    ((order first second).isLE = true ∨ (order second first).isLE = true) ∧
    ((order first second).isLE = true → (order second third).isLE = true →
      (order first third).isLE = true) := by
  rw [order_eq_compareLex firstNumeric secondNumeric,
    order_eq_compareLex secondNumeric thirdNumeric,
    order_eq_compareLex secondNumeric firstNumeric, order_eq_compareLex firstNumeric thirdNumeric,
    order_self]
  refine ⟨exists_spells_iff, rfl, compareLex_eq_lt_iff _ _, Std.LawfulEqCmp.compare_eq_iff_eq, ?_,
    rfl, ?_, Std.TransCmp.isLE_trans⟩
  · rw [Std.OrientedCmp.gt_iff_lt]
    exact compareLex_eq_lt_iff _ _
  · cases compared : List.compareLex compare firstValues secondValues with
    | lt | eq => exact Or.inl rfl
    | gt => exact Or.inr (Ordering.isLE_of_eq_lt (Std.OrientedCmp.gt_iff_lt.1 compared))

/-- A leading zero and another separator make no difference, and ten is more than four. -/
theorem release_numbers_are_compared_by_value :
    Spells "22.04".toList [22, 4] ∧ Spells "022_4".toList [22, 4] ∧
      Spells "22-10-0".toList [22, 10, 0] ∧
      order "22.04" "022_4" = .eq ∧ (order "022_4" "22-10-0").isLE = true ∧
      (order "22.04" "22-10-0").isLE = true := by
  have major : Numeral ['2', '2'] 22 := ⟨by decide, by simp, by decide, by decide⟩
  have april : Numeral ['0', '4'] 4 := ⟨by decide, by simp, by decide, by decide⟩
  have zeroed : Numeral ['0', '2', '2'] 22 := ⟨by decide, by simp, by decide, by decide⟩
  have four : Numeral ['4'] 4 := ⟨by decide, by simp, by decide, by decide⟩
  have october : Numeral ['1', '0'] 10 := ⟨by decide, by simp, by decide, by decide⟩
  have zero : Numeral ['0'] 0 := ⟨by decide, by simp, by decide, by decide⟩
  have first : Spells "22.04".toList [22, 4] := .more major (by decide) (.last april)
  have second : Spells "022_4".toList [22, 4] := .more zeroed (by decide) (.last four)
  have third : Spells "22-10-0".toList [22, 10, 0] :=
    .more major (by decide) (.more october (by decide) (.last zero))
  obtain ⟨-, -, -, equal, -, -, -, further⟩ :=
    numeric_versions_are_ordered_by_numbers first second third
  obtain ⟨-, -, below, -⟩ := numeric_versions_are_ordered_by_numbers second third third
  have same : order "22.04" "022_4" = .eq := equal.2 rfl
  have less : (order "022_4" "22-10-0").isLE = true :=
    Ordering.isLE_of_eq_lt (below.2 (by decide))
  exact ⟨first, second, third, same, less, further (Ordering.isLE_of_eq_eq same) less⟩

end Version

end Fleet
