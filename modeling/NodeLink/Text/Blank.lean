/-!
# Blank characters

The characters that separate words, as Unicode's `White_Space` property lists
them, and the trimming of a text on both sides.  Every rule of the library
that speaks of blank text means this class.
-/

namespace NodeLink.Text

def isBlank (c : Char) : Bool :=
  let code := c.toNat
  (0x9 ≤ code && code ≤ 0xD) || code == 0x20 || code == 0x85 || code == 0xA0 ||
    code == 0x1680 || (0x2000 ≤ code && code ≤ 0x200A) || code == 0x2028 ||
    code == 0x2029 || code == 0x202F || code == 0x205F || code == 0x3000

def trimmed (text : List Char) : List Char :=
  ((text.dropWhile isBlank).reverse.dropWhile isBlank).reverse

def trim (text : String) : String :=
  String.ofList (trimmed text.toList)

def isBlankText (text : String) : Bool :=
  text.toList.all isBlank

def withoutBlanks (text : String) : List Char :=
  text.toList.filter fun c => !isBlank c

end NodeLink.Text
