import NodeLink.Address.Domain.Joiner
import NodeLink.Address.Domain.Layout
import NodeLink.Address.Domain.Mapping
import NodeLink.Address.Hostname
import NodeLink.Address.Punycode
import NodeLink.Text.Hex
import NodeLink.Text.Utf8
/-!
# Domain names in URLs

The ASCII form of a domain as a URL carries it.  Percent-encoded bytes are
decoded, the text is brought into the form in which domains are compared, and
its labels are written in Punycode behind `xn--` where they go beyond ASCII.
Labels that are already written so have to stand for a text of that form.
-/

namespace NodeLink.Address.Domain

open NodeLink.Text

def percentValue? (high low : Char) : Option UInt8 := do
  let upper ← Hex.value? high
  let lower ← Hex.value? low
  return UInt8.ofNat (upper * 16 + lower)

def percentDecoded : List Char → List UInt8
  | '%' :: high :: low :: rest =>
    match percentValue? high low with
    | some b => b :: percentDecoded rest
    | none => Utf8.encodeChar '%' ++ percentDecoded (high :: low :: rest)
  | c :: rest => Utf8.encodeChar c ++ percentDecoded rest
  | [] => []

def isForbidden (c : Char) : Bool :=
  c.toNat ≤ 0x20 || c.toNat == 0x7F ||
    ['%', '#', '/', ':', '<', '>', '?', '@', '[', '\\', ']', '^', '|'].contains c

def isAscii (text : List Char) : Bool := text.all Punycode.isBasic

/-! ### Labels -/

def punycodeMark : List Char := ['x', 'n', '-', '-']

def encodedLimit : Nat := 1000

def decodedLimit : Nat := 2000

/-- The text of a label, which is in Punycode behind the mark for it.  What is
written so goes beyond ASCII and is in the form in which domains are
compared. -/
def labelText? (label : List Char) : Option (List Char) :=
  if label.take 4 = punycodeMark then
    let coded := label.drop 4
    if isAscii coded && coded.length ≤ decodedLimit then
      (Punycode.decode coded).filter fun text => !isAscii text && isSettledText text
    else none
  else some label

/-- A text that may be a label: no mark stands in front, joiners stand where
they are seen, and it is not too long to be encoded. -/
def isLabelText (text : List Char) : Bool :=
  !text.head?.any isMark && joinersFit [] text && (isAscii text || text.length ≤ encodedLimit)

def asciiLabel (text : List Char) : List Char :=
  if isAscii text then text else punycodeMark ++ Punycode.encode text

def joinLabels (labels : List (List Char)) : List Char :=
  ['.'].intercalate labels

def toAscii? (host : List Char) : Option (List Char) := do
  let text ← settled? (← Utf8.decode (percentDecoded host))
  if text.isEmpty || text.any isForbidden then none
  let labels ← (splitAt '.' text).mapM labelText?
  if labels.all isLabelText && laidOutWell labels then
    return joinLabels (labels.map asciiLabel)
  else none

end NodeLink.Address.Domain
