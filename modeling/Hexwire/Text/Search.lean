/-! # Searching text

A text occurs in another when it stands there as one run of characters.
-/

namespace Hexwire.Text

/-- Whether characters occur in others as one run. -/
def occursIn (needle : List Char) : List Char → Bool
  | [] => needle.isEmpty
  | c :: rest => needle.isPrefixOf (c :: rest) || occursIn needle rest

/-- Whether a text occurs in another. -/
def mentions (text needle : String) : Bool := occursIn needle.toList text.toList

end Hexwire.Text
