import NodeLink.Toml.Item
import NodeLink.Toml.Scalar
/-!
# Reading TOML

Values, and documents as sequences of lines: a key with its value, a header
that opens a table or another element of an array of tables, or nothing.
-/

namespace NodeLink.Toml

abbrev ItemReader := List Char → Option (Item × List Char)

/-- The items of an array behind its bracket, with line ends and comments
between them and perhaps a comma behind the last one.  Each item takes at least
one character, so the length of the text bounds their number. -/
def readItems (element : ItemReader) : Nat → List Char → Option (List Item × List Char)
  | 0, _ => none
  | fuel + 1, text =>
    match skipAll text with
    | ']' :: rest => some ([], rest)
    | text => do
      let (item, rest) ← element text
      match skipAll rest with
      | ']' :: rest => return ([item], rest)
      | ',' :: rest =>
        let (items, rest) ← readItems element fuel rest
        return (item :: items, rest)
      | _ => none

/-- The entries of an inline table behind its brace, on one line and with no
comma behind the last one. -/
def readEntries (element : ItemReader) : Nat → Entries → List Char → Option (Entries × List Char)
  | 0, _, _ => none
  | fuel + 1, entries, text => do
    let ((path, name), rest) ← key? text
    let (item, rest) ← element (skipBlanks (← mark? '=' rest))
    let entries ← insertInline path name item entries
    match skipBlanks rest with
    | '\x7d' :: rest => return (entries, rest)
    | ',' :: rest => readEntries element fuel entries rest
    | _ => none

def readInline (element : ItemReader) (text : List Char) : Option (Item × List Char) :=
  match skipBlanks text with
  | '\x7d' :: rest => some (.inline false false [], rest)
  | text => (readEntries element (text.length + 1) [] text).map fun (entries, rest) =>
      (.inline false false entries, rest)

def readNumeric (text : List Char) : Option (Item × List Char) :=
  if startsMoment text then (moment? text).map fun rest => (.moment, rest)
  else
    match float? text with
    | some (isFinite, rest) => if isFinite then some (.float, rest) else none
    | none =>
      match specialFloat? text with
      | some rest => some (.float, rest)
      | none => (integer? text).map fun (n, rest) => (.integer n, rest)

def readWord (text : List Char) : Option (Item × List Char) :=
  ((dropWord? ['t', 'r', 'u', 'e'] text).map fun rest => (Item.bool true, rest)).or
    ((dropWord? ['f', 'a', 'l', 's', 'e'] text).map fun rest => (Item.bool false, rest))

def readValue : Nat → List Char → Option (Item × List Char)
  | depth, text =>
    match text, depth with
    | '[' :: rest, depth + 1 =>
      (readItems (readValue depth) (rest.length + 1) rest).map fun (items, rest) => (.array items, rest)
    | '\x7b' :: rest, depth + 1 => readInline (readValue depth) rest
    | '"' :: _, _ => (string? text).map fun (chars, rest) => (.string (String.ofList chars), rest)
    | '\'' :: _, _ => (string? text).map fun (chars, rest) => (.string (String.ofList chars), rest)
    | _, _ => (readWord text).or (readNumeric text)

def readEntryLine (draft : Draft) (text : List Char) : Option (Draft × List Char) := do
  let ((path, name), rest) ← key? text
  let (item, rest) ← readValue (depthLimit - 1) (skipBlanks (← mark? '=' rest))
  let rest ← endLine? rest
  return (← draft.add path name item, rest)

def readHeader (draft : Draft) (text : List Char) : Option (Draft × List Char) := do
  match text with
  | '[' :: rest =>
    let ((path, name), rest) ← key? rest
    let rest ← endLine? (← mark? ']' (← mark? ']' rest))
    return (← draft.openElement path name, rest)
  | _ =>
    let ((path, name), rest) ← key? text
    let rest ← endLine? (← mark? ']' rest)
    return (← draft.openTable path name, rest)

def readLine (draft : Draft) (text : List Char) : Option (Draft × List Char) :=
  match text with
  | '#' :: _ => (endLine? text).map fun rest => (draft, rest)
  | '[' :: rest => readHeader draft rest
  | _ =>
    match newline? text with
    | some rest => some (draft, rest)
    | none => readEntryLine draft text

def readLines : Nat → Draft → List Char → Option Draft
  | fuel, draft, text =>
    match skipBlanks text, fuel with
    | [], _ => some draft
    | _, 0 => none
    | text, fuel + 1 => (readLine draft text).bind fun (draft, rest) => readLines fuel draft rest

def byteOrderMark : Char := '\ufeff'

def readDocument (text : List Char) : Option Entries := do
  let text := if text.head? = some byteOrderMark then text.drop 1 else text
  (← readLines text.length Draft.empty text).close

end NodeLink.Toml
