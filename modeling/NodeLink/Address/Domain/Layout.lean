import NodeLink.Text.Direction
/-!
# Layout of labels from both directions

In a domain with right-to-left letters each label has to keep its characters
together however it is laid out.  A label runs in the direction of its first
letter and ends in a letter or number that keeps that direction; it holds no
letters of the other direction, nor two kinds of numbers.
-/

namespace NodeLink.Address.Domain

open NodeLink.Text

def isShared : Direction → Bool
  | .europeanNumber | .europeanSeparator | .europeanTerminator | .commonSeparator
  | .nonspacingMark | .boundaryNeutral | .otherNeutral => true
  | _ => false

def lastDirection? (classes : List Direction) : Option Direction :=
  (classes.reverse.dropWhile (· == .nonspacingMark)).head?

def runsLeftToRight (classes : List Direction) : Bool :=
  classes.all (fun d => isShared d || d == .leftToRight) &&
    (lastDirection? classes).any [.leftToRight, .europeanNumber].contains

def runsRightToLeft (classes : List Direction) : Bool :=
  classes.all (fun d => isShared d || [.rightToLeft, .arabicLetter, .arabicNumber].contains d) &&
    (lastDirection? classes).any
      [.rightToLeft, .arabicLetter, .europeanNumber, .arabicNumber].contains &&
    !(classes.contains .europeanNumber && classes.contains .arabicNumber)

def keepsTogether (label : List Char) : Bool :=
  let classes := label.map direction
  match classes with
  | [] => true
  | .leftToRight :: _ => runsLeftToRight classes
  | .rightToLeft :: _ | .arabicLetter :: _ => runsRightToLeft classes
  | _ => false

def laidOutWell (labels : List (List Char)) : Bool :=
  !labels.any (·.any isRightToLeft) || labels.all keepsTogether

end NodeLink.Address.Domain
