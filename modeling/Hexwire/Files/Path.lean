/-! # Paths

A path is a text whose components are separated by slashes. A path that starts with one slash, or
with more than two, is absolute; two slashes at the start are kept as they are. Normalising a path
removes empty components and single points and lets two points cancel the component before them.
-/

namespace Hexwire.Path

/-- The components of a path, empty ones included. -/
def components : List Char → List (List Char)
  | [] => [[]]
  | c :: rest =>
    if c = '/' then [] :: components rest
    else match components rest with
      | [] => [[c]]
      | first :: others => (c :: first) :: others

/-- Components with a slash between any two. -/
def join (parts : List (List Char)) : List Char := ['/'].intercalate parts

/-- The slashes that a path keeps at its start. -/
def root : List Char → List Char
  | ['/', '/'] => ['/', '/']
  | '/' :: '/' :: '/' :: _ => ['/']
  | '/' :: '/' :: _ => ['/', '/']
  | '/' :: _ => ['/']
  | _ => []

/-- One more component on a stack of components whose top comes first. Two points that cancel
nothing stay at the start of a relative path and vanish at the start of an absolute one. -/
def push (absolute : Bool) (stack : List (List Char)) (part : List Char) : List (List Char) :=
  if part = [] ∨ part = ['.'] then stack
  else if part = ['.', '.'] then
    match stack with
    | [] => if absolute then [] else [part]
    | top :: below => if top = ['.', '.'] then part :: top :: below else below
  else part :: stack

/-- The components of a normalised path. -/
def resolve (absolute : Bool) (parts : List (List Char)) : List (List Char) :=
  (parts.foldl (push absolute) []).reverse

/-- A path in its normal form; the normal form of nothing is a single point. -/
def normalize (path : List Char) : List Char :=
  let start := root path
  let body := join (resolve (!start.isEmpty) (components path))
  if start.isEmpty && body.isEmpty then ['.'] else start ++ body

/-- A path followed by another, which takes over if it is absolute. -/
def append (base path : List Char) : List Char :=
  match path with
  | '/' :: _ => path
  | _ => if base.isEmpty || base.getLast? = some '/' then base ++ path else base ++ '/' :: path

/-- The absolute normal form of a path seen from a directory. -/
def absolute (directory path : List Char) : List Char := normalize (append directory path)

/-- A path up to and including its last slash, and what follows it. -/
def splitLast (path : List Char) : List Char × List Char :=
  let name := (path.reverse.takeWhile (· ≠ '/')).reverse
  (path.take (path.length - name.length), name)

/-- A path without the slashes at its end, unless it consists of slashes. -/
def trimSlashes (path : List Char) : List Char :=
  if path.all (· = '/') then path else (path.reverse.dropWhile (· = '/')).reverse

/-- The directory that a path lies in. -/
def directory (path : List Char) : List Char := trimSlashes (splitLast path).1

/-- The last component of a path. -/
def name (path : List Char) : List Char := (splitLast path).2

end Hexwire.Path
