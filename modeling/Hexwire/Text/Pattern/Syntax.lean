/-! # Patterns of text

A pattern describes which runs of characters match. Whether case counts, which scripts belong to a
class of characters and where lines end is settled for each part when a pattern is read, so a
pattern means the same wherever it stands. The extent of a pattern is the least and the greatest
count of characters of a run that matches.
-/

namespace Hexwire.Text

namespace Pattern

/-- How far case is ignored. -/
inductive Folding where
  /-- Case counts. -/
  | exact
  /-- Case of ASCII letters is ignored. -/
  | ascii
  /-- Case of all letters is ignored. -/
  | wide
  deriving DecidableEq, Repr

/-- Named classes of characters. -/
inductive Category where
  | digit
  | space
  | word
  deriving DecidableEq, Repr

/-- A part of a set of characters. -/
inductive Member where
  /-- The code points from the first to the last. -/
  | range (first last : Nat)
  /-- The characters of a class or all others; a class that is not wide has only ASCII
  characters. -/
  | category (category : Category) (negated wide : Bool)
  deriving DecidableEq, Repr

/-- A place between characters. -/
inductive Anchor where
  | textStart
  | lineStart
  | textEnd
  /-- The end of the text, or before a line feed that ends it. -/
  | lastLineEnd
  | lineEnd
  /-- Between a character of a word and one that is none. -/
  | boundary (wide : Bool)
  | noBoundary (wide : Bool)
  deriving DecidableEq, Repr

/-- How the count of a repetition is chosen. -/
inductive Greed where
  /-- As many as possible, then fewer. -/
  | most
  /-- As few as possible, then more. -/
  | least
  /-- As many as possible and no fewer. -/
  | all
  deriving DecidableEq, Repr

/-- The least and the greatest count of characters. -/
structure Extent where
  low : Nat
  high : Nat
  deriving DecidableEq, Repr

end Pattern

open Pattern in
/-- A pattern. -/
inductive Pattern where
  /-- One character of a set, or one outside it. -/
  | one (negated : Bool) (members : List Member) (folding : Folding)
  | anchor (anchor : Anchor)
  | sequence (parts : List Pattern)
  | choice (branches : List Pattern)
  | repetition (greed : Greed) (least : Nat) (most : Option Nat) (body : Pattern)
  /-- A part whose run is remembered under a number. -/
  | group (number : Nat) (body : Pattern)
  /-- What is remembered under a number; the extent is the one of that group. -/
  | recall (number : Nat) (folding : Folding) (extent : Extent)
  /-- One of two parts, by whether something is remembered under a number. -/
  | conditional (number : Nat) (positive negative : Pattern)
  /-- A part that is not tried again once it matched. -/
  | atomic (body : Pattern)
  /-- A part that must match, or must not, without taking characters. -/
  | look (behind negated : Bool) (body : Pattern)

namespace Pattern

/-- The pattern that matches where no character is taken. -/
def empty : Pattern := .sequence []

/-- The greatest extent that is told apart. -/
def farthest : Nat := Nat.pow 2 64

/-- An extent with bounds that are told apart. -/
def Extent.clipped (extent : Extent) : Extent :=
  ⟨min extent.low farthest, min extent.high farthest⟩

/-- The extent of one extent after another. -/
def Extent.add (first second : Extent) : Extent :=
  ⟨first.low + second.low, first.high + second.high⟩

/-- The extent of either of two extents. -/
def Extent.either (first second : Extent) : Extent :=
  ⟨min first.low second.low, max first.high second.high⟩

/-- The extent of a repetition. -/
def Extent.times (extent : Extent) (least : Nat) (most : Option Nat) : Extent :=
  ⟨extent.low * least, match most with
    | some count => extent.high * count
    | none => if extent.high = 0 then 0 else farthest⟩

mutual

/-- The extent of a pattern. -/
def extent : Pattern → Extent
  | .one _ _ _ => ⟨1, 1⟩
  | .anchor _ => ⟨0, 0⟩
  | .sequence parts => (extentOfAll parts).clipped
  | .choice branches => (extentOfEither branches).clipped
  | .repetition _ least most body => (body.extent.times least most).clipped
  | .group _ body => body.extent
  | .recall _ _ extent => extent
  | .conditional _ positive negative => positive.extent.either negative.extent
  | .atomic body => body.extent
  | .look _ _ _ => ⟨0, 0⟩

/-- The extent of patterns one after the other. -/
def extentOfAll : List Pattern → Extent
  | [] => ⟨0, 0⟩
  | part :: rest => part.extent.add (extentOfAll rest)

/-- The extent of one of several patterns. -/
def extentOfEither : List Pattern → Extent
  | [] => ⟨0, 0⟩
  | [branch] => branch.extent
  | branch :: rest => branch.extent.either (extentOfEither rest)

end

mutual

/-- Whether every part that looks behind takes a fixed count of characters. -/
def looksFixed : Pattern → Bool
  | .one _ _ _ => true
  | .anchor _ => true
  | .sequence parts => allLookFixed parts
  | .choice branches => allLookFixed branches
  | .repetition _ _ _ body => body.looksFixed
  | .group _ body => body.looksFixed
  | .recall _ _ _ => true
  | .conditional _ positive negative => positive.looksFixed && negative.looksFixed
  | .atomic body => body.looksFixed
  | .look behind _ body => (!behind || body.extent.low = body.extent.high) && body.looksFixed

/-- Whether every part of patterns that looks behind takes a fixed count of characters. -/
def allLookFixed : List Pattern → Bool
  | [] => true
  | part :: rest => part.looksFixed && allLookFixed rest

end

end Pattern

end Hexwire.Text
