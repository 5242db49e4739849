/-! # Filling lines with words

Words are put on a line as long as it does not grow wider than a limit; a word that alone is wider
stands on a line of its own. Words are what stands between single spaces, so two spaces in a row
keep their width as an empty word.
-/

namespace Hexwire.Text

/-- Lines of words, of which the current one is given. -/
def fillFrom (width : Nat) (current : String) : List String → List String
  | [] => [current]
  | word :: rest =>
    if current.length + 1 + word.length ≤ width then fillFrom width (current ++ " " ++ word) rest
    else current :: fillFrom width word rest

/-- The lines of a text of single-spaced words. -/
def fill (width : Nat) (text : String) : List String :=
  match text.splitOn " " with
  | [] => []
  | first :: rest => fillFrom width first rest

/-- Text followed by spaces up to a width. -/
def padRight (width : Nat) (text : String) : String :=
  text ++ String.ofList (List.replicate (width - text.length) ' ')

/-- Text after as many spaces as given. -/
def indented (count : Nat) (text : String) : String :=
  String.ofList (List.replicate count ' ') ++ text

end Hexwire.Text
