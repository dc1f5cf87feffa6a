import NodeLink.Text.Hex
/-!
# TOML lexemes

Blanks, comments, keys and the four forms of strings.  Every reader takes its
lexeme from the front of a text and returns what follows.
-/

namespace NodeLink.Toml

open NodeLink.Text

def isBlank (c : Char) : Bool := c == ' ' || c == '\t'

def skipBlanks (text : List Char) : List Char := text.dropWhile isBlank

def isControl (c : Char) : Bool :=
  (c.toNat < 0x20 && c != '\t') || c.toNat == 0x7F

def newline? : List Char → Option (List Char)
  | '\n' :: rest => some rest
  | '\r' :: '\n' :: rest => some rest
  | _ => none

def skipComment (text : List Char) : List Char :=
  match text with
  | '#' :: rest => rest.dropWhile (!isControl ·)
  | _ => text

def endLine? (text : List Char) : Option (List Char) :=
  match skipComment (skipBlanks text) with
  | [] => some []
  | rest => newline? rest

/-- Skips blanks, comments and line ends.  Each step but the last takes at
least a line end, so the length of the text bounds their number. -/
def skipLines : Nat → List Char → List Char
  | 0, text => text
  | fuel + 1, text =>
    match newline? (skipComment (skipBlanks text)) with
    | some rest => skipLines fuel rest
    | none => skipBlanks text

def skipAll (text : List Char) : List Char := skipLines text.length text

/-! ### Escape sequences -/

def isScalar (code : Nat) : Bool :=
  code < 0xD800 || (0xDFFF < code && code ≤ 0x10FFFF)

def codeChar (digits : Nat) (text : List Char) : Option (Char × List Char) := do
  let code ← Hex.number? (text.take digits)
  if (text.take digits).length = digits && isScalar code then
    return (Char.ofNat code, text.drop digits)
  else none

def escape? : List Char → Option (Char × List Char)
  | 'b' :: rest => some ('\x08', rest)
  | 't' :: rest => some ('\t', rest)
  | 'n' :: rest => some ('\n', rest)
  | 'f' :: rest => some ('\x0c', rest)
  | 'r' :: rest => some ('\r', rest)
  | '"' :: rest => some ('"', rest)
  | '\\' :: rest => some ('\\', rest)
  | 'u' :: rest => codeChar 4 rest
  | 'U' :: rest => codeChar 8 rest
  | _ => none

/-! ### Strings -/

def cons (c : Char) (taken : Option (List Char × List Char)) :
    Option (List Char × List Char) :=
  taken.map fun (text, rest) => (c :: text, rest)

def basicBody : Nat → List Char → Option (List Char × List Char)
  | 0, _ => none
  | fuel + 1, text =>
    match text with
    | [] => none
    | '"' :: rest => some ([], rest)
    | '\\' :: rest => (escape? rest).bind fun (c, rest) => cons c (basicBody fuel rest)
    | c :: rest => if isControl c then none else cons c (basicBody fuel rest)

def literalBody : List Char → Option (List Char × List Char)
  | [] => none
  | c :: rest =>
    if c = '\'' then some ([], rest)
    else if isControl c then none
    else cons c (literalBody rest)

/-- The closing quotes of a string of several lines: three of them, and up to
two more that belong to the string. -/
def closing? (quote : Char) (text : List Char) : Option (List Char × List Char) :=
  let count := (text.takeWhile (· = quote)).length
  if count < 3 then none
  else
    let extra := min (count - 3) 2
    some (List.replicate extra quote, text.drop (3 + extra))

def skipEmptyLines : Nat → List Char → List Char
  | 0, text => text
  | fuel + 1, text =>
    match newline? (skipBlanks text) with
    | some rest => skipEmptyLines fuel rest
    | none => skipBlanks text

def lineContinuation? (text : List Char) : Option (List Char) :=
  (newline? (skipBlanks text)).map fun rest => skipEmptyLines rest.length rest

def longBasicBody : Nat → List Char → Option (List Char × List Char)
  | 0, _ => none
  | fuel + 1, text =>
    match closing? '"' text with
    | some taken => some taken
    | none =>
      match newline? text with
      | some rest => cons '\n' (longBasicBody fuel rest)
      | none =>
        match text with
        | [] => none
        | '\\' :: rest =>
          match lineContinuation? rest with
          | some rest => longBasicBody fuel rest
          | none => (escape? rest).bind fun (c, rest) => cons c (longBasicBody fuel rest)
        | c :: rest => if isControl c then none else cons c (longBasicBody fuel rest)

def longLiteralBody : Nat → List Char → Option (List Char × List Char)
  | 0, _ => none
  | fuel + 1, text =>
    match closing? '\'' text with
    | some taken => some taken
    | none =>
      match newline? text with
      | some rest => cons '\n' (longLiteralBody fuel rest)
      | none =>
        match text with
        | [] => none
        | c :: rest => if isControl c then none else cons c (longLiteralBody fuel rest)

def skipFirstNewline (text : List Char) : List Char :=
  (newline? text).getD text

def string? (text : List Char) : Option (List Char × List Char) :=
  let fuel := text.length + 1
  match text with
  | '"' :: '"' :: '"' :: rest => longBasicBody fuel (skipFirstNewline rest)
  | '\'' :: '\'' :: '\'' :: rest => longLiteralBody fuel (skipFirstNewline rest)
  | '"' :: rest => basicBody fuel rest
  | '\'' :: rest => literalBody rest
  | _ => none

/-! ### Keys -/

def isBare (c : Char) : Bool := c.isAlphanum || c == '_' || c == '-'

def keyPart? (text : List Char) : Option (String × List Char) :=
  match text with
  | '"' :: rest => (basicBody (rest.length + 1) rest).map fun (key, rest) => (String.ofList key, rest)
  | '\'' :: rest => (literalBody rest).map fun (key, rest) => (String.ofList key, rest)
  | _ =>
    let bare := text.takeWhile isBare
    if bare.isEmpty then none else some (String.ofList bare, text.dropWhile isBare)

def keyParts : Nat → List Char → Option (List String × List Char)
  | 0, _ => none
  | fuel + 1, text => do
    let (part, rest) ← keyPart? (skipBlanks text)
    match skipBlanks rest with
    | '.' :: rest =>
      let (parts, rest) ← keyParts fuel rest
      return (part :: parts, rest)
    | rest => return ([part], rest)

def depthLimit : Nat := 80

def key? (text : List Char) : Option ((List String × String) × List Char) := do
  let (parts, rest) ← keyParts (text.length + 1) text
  let last ← parts.getLast?
  if depthLimit ≤ parts.length then none else return ((parts.dropLast, last), rest)

end NodeLink.Toml
