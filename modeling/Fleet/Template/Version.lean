import Fleet.Text.Decimal
import Fleet.Text.Search

/-!
# Versions

A version is cut into segments at points, hyphens and underscores. Two segments that both write
numbers are compared as numbers and any others as texts; the first difference decides, and a version
whose segments run out first is the smaller.
-/

namespace Fleet.Version

open Fleet.Text

/-- The characters between segments. -/
def isSeparator (character : Char) : Bool :=
  character == '.' || character == '-' || character == '_'

/-- The segments of a version. -/
def segments (version : String) : List String :=
  splitAt isSeparator version

/-- The number that a segment writes, when it fits a word of 64 bits. -/
def segmentNumber (segment : String) : Option Nat :=
  readBounded largest64 segment.toList

/-- The order of two segments. -/
def compareSegments (left right : String) : Ordering :=
  match segmentNumber left, segmentNumber right with
  | some leftNumber, some rightNumber => compare leftNumber rightNumber
  | _, _ => compare left right

/-- The order of two lists of segments. -/
def compareLists : List String → List String → Ordering
  | [], [] => .eq
  | [], _ :: _ => .lt
  | _ :: _, [] => .gt
  | left :: lefts, right :: rights =>
    (compareSegments left right).then (compareLists lefts rights)

/-- The order of two versions. -/
def order (left right : String) : Ordering :=
  compareLists (segments left) (segments right)

theorem compareLists_self (segments : List String) : compareLists segments segments = .eq := by
  induction segments with
  | nil => rfl
  | cons segment rest inductionHypothesis =>
    have same : compareSegments segment segment = .eq := by
      simp only [compareSegments]
      split <;> simp_all
    simp [compareLists, same, inductionHypothesis]

/-- Every version equals itself. -/
@[simp]
theorem order_self (version : String) : order version version = .eq :=
  compareLists_self (segments version)

end Fleet.Version
