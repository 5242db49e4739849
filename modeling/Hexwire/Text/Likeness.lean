/-! # How alike two words are

The likeness of two words counts characters that they share: those of their longest common run, and,
to the left and to the right of it, those of the longest common runs there. Of several longest runs
the first in the first word counts, and of those the first in the second word. A suggestion for a
word is another whose shared characters make up at least six tenths of both.
-/

namespace Hexwire.Text

/-- The length of the run of characters with which both words start. -/
def commonLead : List Char → List Char → Nat
  | a :: left, b :: right => if a = b then commonLead left right + 1 else 0
  | _, _ => 0

/-- The position and length of the longest run with which the first word starts and that lies in the
second, the first of the longest ones. -/
def leadWithin (word : List Char) : List Char → Nat × Nat
  | [] => (0, 0)
  | c :: rest =>
    let here := commonLead word (c :: rest)
    let (position, length) := leadWithin word rest
    if here < length then (position + 1, length) else (0, here)

/-- The positions in both words and the length of their longest common run. -/
def longestRun : List Char → List Char → Nat × Nat × Nat
  | [], _ => (0, 0, 0)
  | c :: rest, word =>
    let (position, length) := leadWithin (c :: rest) word
    let (start, later, longer) := longestRun rest word
    if length < longer then (start + 1, later, longer) else (0, position, length)

/-- The count of characters that two words share, found by at most as many splittings as given. -/
def sharedWithin : Nat → List Char → List Char → Nat
  | 0, _, _ => 0
  | depth + 1, left, right =>
    let (i, j, length) := longestRun left right
    if length = 0 then 0
    else
      sharedWithin depth (left.take i) (right.take j) + length +
        sharedWithin depth (left.drop (i + length)) (right.drop (j + length))

/-- The count of characters that two words share. -/
def shared (left right : String) : Nat :=
  sharedWithin (left.length + 1) left.toList right.toList

/-- Whether two words are alike. -/
def isAlike (left right : String) : Bool :=
  3 * (left.length + right.length) ≤ 10 * shared left right

/-- Whether the first of two words is the better suggestion for a word: the more alike one, and of
two equally alike ones the later one in the order of characters. -/
def suggestsBetter (word left right : String) : Bool :=
  let l := shared left word * (right.length + word.length)
  let r := shared right word * (left.length + word.length)
  r < l || (l = r && right < left)

/-- The suggestions for a word among others: the three best ones in the order of characters. -/
def suggestions (word : String) (others : List String) : List String :=
  let best := ((others.filter fun other => isAlike other word).mergeSort
    fun left right => !suggestsBetter word right left).take 3
  best.mergeSort fun left right => left ≤ right

end Hexwire.Text
