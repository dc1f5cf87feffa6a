/-!
# Host names

Names of the domain system as they may stand in front of a port: labels of
letters, digits and hyphens between dots.
-/

namespace NodeLink.Address

def splitAt (separator : Char) (text : List Char) : List (List Char) :=
  text.splitOn separator

def isLabelChar (c : Char) : Bool :=
  c.isAlphanum || c == '-'

def isLabel (label : List Char) : Bool :=
  !label.isEmpty && label.length ≤ 63 && label.head? != some '-' && label.all isLabelChar

def namesHost (name : List Char) : Bool :=
  !name.isEmpty && name.length ≤ 253 && (splitAt '.' name).all isLabel

end NodeLink.Address
