import NodeLink.Text.Hex
/-!
# Writing TOML

Strings in the plainest of the four forms that can hold them: between double
quotes if nothing has to be escaped, else between single quotes, else in the
forms for several lines, and with escape sequences only where no form can do
without them.
-/

namespace NodeLink.Toml

open NodeLink.Text

def needsEscape (c : Char) : Bool :=
  (c.toNat < 0x20 && c != '\t' && c != '\n') || c.toNat == 0x7F

def hasRun (count : Nat) (c : Char) (text : List Char) : Bool :=
  match text with
  | [] => count == 0
  | _ :: rest => text.take count == List.replicate count c || hasRun count c rest

inductive StringForm
  | basic
  | literal
  | longBasic
  | longLiteral
  deriving DecidableEq, Repr

/-- The form in which a text is written. -/
def formOf (text : List Char) : StringForm :=
  let isPlain := !text.any needsEscape
  let hasNewline := text.contains '\n'
  if isPlain && !hasNewline && !text.contains '\\' && !text.contains '"' then .basic
  else if isPlain && !hasNewline && !text.contains '\'' then .literal
  else if isPlain && !text.contains '\\' && !hasRun 3 '"' text then .longBasic
  else if isPlain && !hasRun 3 '\'' text then .longLiteral
  else if hasNewline then .longBasic
  else .basic

def codeEscape (c : Char) : List Char :=
  ['\\', 'u', '0', '0', Hex.upperDigit (c.toNat / 16), Hex.upperDigit (c.toNat % 16)]

def escapeChar (c : Char) : List Char :=
  if c = '\\' then ['\\', '\\']
  else if c = '\t' then ['\\', 't']
  else if c = '\r' then ['\\', 'r']
  else if c.toNat = 0x08 then ['\\', 'b']
  else if c.toNat = 0x0C then ['\\', 'f']
  else if needsEscape c then codeEscape c
  else [c]

def escapedBasic : List Char → List Char
  | [] => []
  | c :: rest =>
    if c = '"' then '\\' :: '"' :: escapedBasic rest
    else if c = '\n' then '\\' :: 'n' :: escapedBasic rest
    else escapeChar c ++ escapedBasic rest

/-- The same with line feeds and up to two quotes in a row left as they are;
`quotes` of them stand in front. -/
def escapedLong : Nat → List Char → List Char
  | _, [] => []
  | quotes, c :: rest =>
    if c = '"' then
      if quotes < 2 then '"' :: escapedLong (quotes + 1) rest
      else '\\' :: '"' :: escapedLong 0 rest
    else if c = '\n' then '\n' :: escapedLong 0 rest
    else escapeChar c ++ escapedLong 0 rest

def opening (text : List Char) : List Char :=
  if text.contains '\n' then ['\n'] else []

def writeString (text : List Char) : List Char :=
  let triple (quote : Char) := [quote, quote, quote]
  match formOf text with
  | .basic => '"' :: (escapedBasic text ++ ['"'])
  | .literal => '\'' :: (text ++ ['\''])
  | .longBasic => triple '"' ++ opening text ++ escapedLong 0 text ++ triple '"'
  | .longLiteral => triple '\'' ++ opening text ++ text ++ triple '\''

def writeNat (n : Nat) : List Char := Nat.toDigits 10 n

def writeLine (key : List Char) (value : List Char) : List Char :=
  key ++ [' ', '=', ' '] ++ value ++ ['\n']

end NodeLink.Toml
