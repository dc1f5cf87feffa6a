import NodeLink.Text.CombiningClass
import NodeLink.Text.Joining
/-!
# Joiners in domains

Two characters without a shape join their neighbours or keep them apart.  They
may stand only where that is seen: behind a sign that takes the vowel from a
consonant, and the one that keeps letters apart also between two letters that
would join.
-/

namespace NodeLink.Address.Domain

open NodeLink.Text

def joiner : Char := '\u200d'

def nonJoiner : Char := '\u200c'

def followsVirama (before : List Char) : Bool :=
  before.head?.any (combiningClass · == viramaClass)

def nearest? (text : List Char) : Option Char :=
  (text.dropWhile (joining · == .transparent)).head?

/-- Whether a character may stand between others; those before it are given
from the nearest one on. -/
def fitsBetween (before : List Char) (c : Char) (behind : List Char) : Bool :=
  if c = joiner then followsVirama before
  else if c = nonJoiner then
    followsVirama before ||
      ((nearest? before).any (joining · |>.joinsNext) &&
        (nearest? behind).any (joining · |>.joinsPrevious))
  else true

def joinersFit (before : List Char) : List Char → Bool
  | [] => true
  | c :: rest => fitsBetween before c rest && joinersFit (c :: before) rest

end NodeLink.Address.Domain
