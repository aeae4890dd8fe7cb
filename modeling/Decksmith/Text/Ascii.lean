/-! Comparisons that ignore the case of ASCII letters only. -/

namespace Decksmith.Text

/-- Whether two texts differ at most in the case of ASCII letters. -/
def sameIgnoringAsciiCase (a b : List Char) : Bool :=
  a.map Char.toLower == b.map Char.toLower

end Decksmith.Text
