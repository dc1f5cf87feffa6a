import NodeLink.Text.CanonicalForm
import NodeLink.Text.CanonicalPair
import NodeLink.Text.CombiningClass
/-!
# Canonical composition

One way to write each of the texts that look the same.  A text is taken apart
into letters and marks, the marks on a letter are put in the order of their
classes, and what can be written as one character is.  This is Unicode's
Normalization Form C.
-/

namespace NodeLink.Text

/-! ### Hangul syllables

A syllable is a leading consonant, a vowel and, as a rule, a trailing
consonant; its code follows from theirs.
-/

namespace Hangul

def syllables : Nat := 0xAC00
def leads : Nat := 0x1100
def vowels : Nat := 0x1161
def trails : Nat := 0x11A7
def leadCount : Nat := 19
def vowelCount : Nat := 21
def trailCount : Nat := 28
def syllableCount : Nat := leadCount * vowelCount * trailCount

def isSyllable (code : Nat) : Bool := syllables ≤ code && code < syllables + syllableCount

def split? (c : Char) : Option (List Char) :=
  if isSyllable c.toNat then
    let place := c.toNat - syllables
    let lead := Char.ofNat (leads + place / (vowelCount * trailCount))
    let vowel := Char.ofNat (vowels + place / trailCount % vowelCount)
    let trail := place % trailCount
    some (lead :: vowel :: if trail = 0 then [] else [Char.ofNat (trails + trail)])
  else none

def join? (first second : Char) : Option Char :=
  let front := first.toNat
  let back := second.toNat
  if leads ≤ front && front < leads + leadCount && vowels ≤ back &&
      back < vowels + vowelCount then
    some (Char.ofNat
      (syllables + ((front - leads) * vowelCount + (back - vowels)) * trailCount))
  else if isSyllable front && (front - syllables) % trailCount = 0 && trails < back &&
      back < trails + trailCount then
    some (Char.ofNat (front + (back - trails)))
  else none

end Hangul

/-! ### Taking apart -/

def pairParts : Nat → Char → List Char
  | 0, c => [c]
  | depth + 1, c =>
    match canonicalPair? c with
    | some pair => pairParts depth pair.first ++ [pair.second]
    | none => [c]

/-- The letters and marks of a character.  No composite holds others more than
three deep. -/
def canonicalParts (c : Char) : List Char :=
  ((Hangul.split? c).or (canonicalForm? c)).getD (pairParts 3 c)

def insertMark (c : Char) : List Char → List Char
  | [] => [c]
  | d :: rest =>
    if combiningClass d ≠ 0 ∧ combiningClass d < combiningClass c then d :: insertMark c rest
    else c :: d :: rest

def marksInOrder (text : List Char) : List Char :=
  text.foldr insertMark []

/-! ### Putting together -/

def joined? (first second : Char) : Option Char :=
  (Hangul.join? first second).or (composite? first second)

/-- Puts the text behind a letter together with it.  `marks` are those on the
letter that do not join it, last one first; they hide all that is not of a
higher class from it. -/
def joinedFrom (letter : Char) (marks : List Char) : List Char → List Char
  | [] => letter :: marks.reverse
  | c :: rest =>
    let isSeen := marks.head?.all (combiningClass · < combiningClass c)
    match if isSeen then joined? letter c else none with
    | some whole => joinedFrom whole marks rest
    | none =>
      if combiningClass c = 0 then letter :: marks.reverse ++ joinedFrom c [] rest
      else joinedFrom letter (c :: marks) rest

def joinedText : List Char → List Char
  | [] => []
  | c :: rest => if combiningClass c = 0 then joinedFrom c [] rest else c :: joinedText rest

/-- The canonical composition of a text; characters below the first mark are
written in one way only. -/
def composed (text : List Char) : List Char :=
  if text.all (·.toNat < 0x300) then text
  else joinedText (marksInOrder (text.flatMap canonicalParts))

end NodeLink.Text
