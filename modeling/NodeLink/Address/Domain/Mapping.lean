import NodeLink.Address.Domain.Repertoire
import NodeLink.Address.Domain.Replacement
import NodeLink.Text.Canonical
/-!
# What a domain is read as

Each character of a domain is replaced by what it counts as, and the text is
brought into canonical composition.  A character outside the repertoire makes
the domain unreadable.
-/

namespace NodeLink.Address.Domain

open NodeLink.Text

/-- What a character counts as; none outside the repertoire.  A composite
counts as what its parts do. -/
def image? (c : Char) : Option (List Char) :=
  if c.toNat < 0x80 then some [c.toLower]
  else if inRepertoire c then some (composed ((canonicalParts c).flatMap replaced))
  else none

def isSettled (c : Char) : Bool := image? c == some [c]

def settled? (text : List Char) : Option (List Char) :=
  (text.mapM image?).map fun images => composed images.flatten

def isSettledText (text : List Char) : Bool :=
  text.all isSettled && composed text == text

end NodeLink.Address.Domain
