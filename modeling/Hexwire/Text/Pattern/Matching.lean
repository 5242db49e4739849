import Hexwire.Text.Pattern.Reader

/-! # Matching patterns

A pattern is tried at a place of a text, and what comes after it is tried at each place that it
leads to, in the order in which the pattern prefers them, until one succeeds. A repetition does not
start another round where its last round took nothing. The runs that groups took are remembered on
the way.
-/

namespace Hexwire.Text.Pattern

/-- A place in a text with the runs that groups took on the way, the latest first. -/
structure Spot where
  place : Nat
  runs : List (Nat × Nat × Nat) := []

/-- What is tried from a spot on. -/
abbrev Next := Spot → Option Spot

/-- Whether a character belongs to a class. -/
def Category.contains (category : Category) (wide : Bool) (c : Char) : Bool :=
  match category with
  | .digit => if wide then (decimalDigit? c).isSome else c.isDigit
  | .space => isAsciiBlank c || (wide && (isWideBlank c || ('\x1c' ≤ c && c ≤ '\x1f')))
  | .word => c = '_' || (if wide then isAlphanumeric c else c.isAlphanum)

/-- The code points that a folding does not tell apart from a character. -/
def Folding.variants (folding : Folding) (c : Char) : List Nat :=
  match folding with
  | .exact => [c.toNat]
  | .ascii => asciiCaseVariants c.toNat
  | .wide => caseVariants c.toNat

/-- Whether a part of a set has a character, of which the variants are given. -/
def Member.contains (c : Char) (variants : List Nat) : Member → Bool
  | .range first last => variants.any fun code => first ≤ code && code ≤ last
  | .category kind negated wide => kind.contains wide c != negated

/-- Whether a set has a character. -/
def admits (negated : Bool) (members : List Member) (folding : Folding) (c : Char) : Bool :=
  members.any (Member.contains c (folding.variants c)) != negated

/-- Whether a character of a word stands at a place. -/
def wordAt (text : Array Char) (wide : Bool) (place : Nat) : Bool :=
  match text[place]? with
  | some c => Category.word.contains wide c
  | none => false

/-- Whether a place between characters is of a kind. No boundary is found in a text without
characters, nor the lack of one. -/
def Anchor.holds (text : Array Char) (place : Nat) : Anchor → Bool
  | .textStart => place = 0
  | .lineStart => place = 0 || text[place - 1]? = some '\n'
  | .textEnd => place = text.size
  | .lastLineEnd => place = text.size || (place + 1 = text.size && text[place]? = some '\n')
  | .lineEnd => place = text.size || text[place]? = some '\n'
  | .boundary wide =>
    !text.isEmpty && (place ≠ 0 && wordAt text wide (place - 1)) != wordAt text wide place
  | .noBoundary wide =>
    !text.isEmpty && (place ≠ 0 && wordAt text wide (place - 1)) == wordAt text wide place

/-- Tries rounds of a repetition and what comes after them, more rounds first. The first count
bounds the rounds, the second counts those that are done, and `before` is the place where the last
round that could have been left out started. -/
def mostRounds (round : Spot → Next → Option Spot) (least : Nat) (most : Option Nat) (next : Next) :
    Nat → Nat → Option Nat → Spot → Option Spot
  | 0, _, _, spot => next spot
  | bound + 1, done, before, spot =>
    if done < least then round spot (mostRounds round least most next bound (done + 1) before)
    else
      let further :=
        if most.all (done < ·) && before ≠ some spot.place then
          round spot (mostRounds round least most next bound (done + 1) (some spot.place))
        else none
      further <|> next spot

/-- Tries rounds of a repetition and what comes after them, fewer rounds first. -/
def fewestRounds (round : Spot → Next → Option Spot) (least : Nat) (most : Option Nat)
    (next : Next) : Nat → Nat → Option Nat → Spot → Option Spot
  | 0, _, _, spot => next spot
  | bound + 1, done, before, spot =>
    if done < least then round spot (fewestRounds round least most next bound (done + 1) before)
    else match next spot with
      | some found => some found
      | none =>
        if most.all (done < ·) && before ≠ some spot.place then
          round spot (fewestRounds round least most next bound (done + 1) (some spot.place))
        else none

/-- Whether a run of a text stands at a place, under a folding. -/
def sameRun (text : Array Char) (folding : Folding) (start size place : Nat) : Bool :=
  place + size ≤ text.size && (List.range size).all fun index =>
    match text[start + index]?, text[place + index]? with
    | some c, some d => (folding.variants c).contains d.toNat
    | _, _ => false

mutual

/-- Tries a pattern at a spot and what comes after it. -/
def tryAt (text : Array Char) : Pattern → Spot → Next → Option Spot
  | .one negated members folding, spot, next =>
    match text[spot.place]? with
    | some c =>
      if admits negated members folding c then next { spot with place := spot.place + 1 } else none
    | none => none
  | .anchor kind, spot, next => if kind.holds text spot.place then next spot else none
  | .sequence parts, spot, next => tryAll text parts spot next
  | .choice branches, spot, next => tryEach text branches spot next
  | .repetition greed least most body, spot, next =>
    let round (spot : Spot) (next : Next) : Option Spot := tryAt text body spot next
    let bound := least + text.size + 3
    match greed with
    | .most => mostRounds round least most next bound 0 none spot
    | .least => fewestRounds round least most next bound 0 none spot
    | .all =>
      let settled (spot : Spot) (next : Next) : Option Spot :=
        (tryAt text body spot some).bind next
      (mostRounds settled least most some bound 0 none spot).bind next
  | .group number body, spot, next =>
    tryAt text body spot fun after =>
      next { after with runs := (number, spot.place, after.place) :: after.runs }
  | .recall number folding _, spot, next =>
    match spot.runs.lookup number with
    | some (start, stop) =>
      if sameRun text folding start (stop - start) spot.place then
        next { spot with place := spot.place + (stop - start) }
      else none
    | none => none
  | .conditional number positive negative, spot, next =>
    if (spot.runs.lookup number).isSome then tryAt text positive spot next
    else tryAt text negative spot next
  | .atomic body, spot, next => (tryAt text body spot some).bind next
  | .look behind negated body, spot, next =>
    let back := if behind then body.extent.low else 0
    let found :=
      if spot.place < back then none
      else tryAt text body { spot with place := spot.place - back } some
    match found, negated with
    | some after, false => next { after with place := spot.place }
    | none, true => next spot
    | _, _ => none

/-- Tries patterns one after the other and what comes after them. -/
def tryAll (text : Array Char) : List Pattern → Spot → Next → Option Spot
  | [], spot, next => next spot
  | part :: rest, spot, next => tryAt text part spot fun after => tryAll text rest after next

/-- Tries patterns in turn, each with what comes after it, until one succeeds. -/
def tryEach (text : Array Char) : List Pattern → Spot → Next → Option Spot
  | [], _, _ => none
  | branch :: rest, spot, next => tryAt text branch spot next <|> tryEach text rest spot next

end

/-- Whether a pattern matches a run at the start of a text. -/
def matchesStart (pattern : Pattern) (text : String) : Bool :=
  (tryAt text.toList.toArray pattern ⟨0, []⟩ some).isSome

/-- Whether a pattern matches a run of a text anywhere. -/
def occursIn (pattern : Pattern) (text : String) : Bool :=
  let characters := text.toList.toArray
  (List.range (characters.size + 1)).any fun place =>
    (tryAt characters pattern ⟨place, []⟩ some).isSome

end Hexwire.Text.Pattern
