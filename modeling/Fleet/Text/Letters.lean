/-!
# Letter case

Comparisons that ignore case fold the twenty-six ASCII letters only; every other character,
accented letters included, stands for itself.
-/

namespace Fleet.Text

/-- A text with its ASCII capitals in lower case. -/
def lowerCase (text : String) : String :=
  String.ofList (text.toList.map Char.toLower)

/-- Two texts are the same word when they agree up to the case of ASCII letters. -/
def sameWord (left right : String) : Bool :=
  lowerCase left == lowerCase right

end Fleet.Text
