import NodeLink.Json.NumberText
import NodeLink.Text.Hex
import NodeLink.Text.Utf8
/-!
# Reading JSON

A text is read in one pass by a machine that keeps a stack of the arrays and
objects still open.  The machine refuses a text at the first character that no
value can go on with; a text that ends while every character was acceptable
has ended too early.  These are the two faults a reader reports.

Members of the outermost object whose names a reader does not know are only
skimmed: their values have to be grammatical, but their nesting, the size of
their numbers, the pairing of their surrogates and the encoding of their
strings are not looked at.  A reader that knows every name skims nothing.
-/

namespace NodeLink.Json

open NodeLink.Text

inductive Fault
  | unexpectedEnd
  | malformed
  deriving DecidableEq, Repr

def Fault.text : Fault → String
  | .unexpectedEnd => "<unexpected end>"
  | .malformed => "<bad json>"

def greatestDepth : Nat := 127

namespace Reader

inductive Frame
  | array (before : List Value)
  | object (before : List (String × Value)) (name : String)

/-- How far into an escape sequence a string is.  Four bytes follow a `u`
before they are looked at; a leading surrogate has to be followed by an escaped
trailing one. -/
inductive Escape
  | absent
  | backslash
  | digits (lead : Option Nat) (taken : List Char)
  | leading (lead : Nat)
  | leadingBackslash (lead : Nat)

/-- A string under construction, last character first.  It is broken once a
byte has been met that belongs to no character. -/
structure StringText where
  before : List Char
  escape : Escape
  broken : Bool

inductive Mode
  | value (closable : Bool)
  | name (closable : Bool)
  | colon
  | text (isName : Bool) (part : StringText)
  | word (rest : List Char) (value : Value)
  | number (literal : NumberText)
  | behind
  | complete (value : Value)

structure State where
  stack : List Frame
  mode : Mode
  skimming : Bool

def State.start : State := ⟨[], .value false, false⟩

def isSpace (c : Char) : Bool :=
  c = ' ' || c = '\t' || c = '\n' || c = '\r'

def State.deliver (st : State) (value : Value) : State :=
  match st.stack with
  | [] => ⟨[], .complete value, false⟩
  | .array before :: rest => ⟨.array (value :: before) :: rest, .behind, st.skimming⟩
  | .object before name :: rest =>
    ⟨.object ((name, value) :: before) name :: rest, .behind, st.skimming && !rest.isEmpty⟩

def State.openWith (st : State) (frame : Frame) (mode : Mode) : Option State :=
  if !st.skimming && greatestDepth ≤ st.stack.length then none
  else some ⟨frame :: st.stack, mode, st.skimming⟩

def State.close (st : State) (c : Char) : Option State :=
  match st.stack with
  | .array before :: rest =>
    if c = ']' then some (State.deliver { st with stack := rest } (.array before.reverse))
    else none
  | .object before _ :: rest =>
    if c = '\x7d' then some (State.deliver { st with stack := rest } (.object before.reverse))
    else none
  | [] => none

def emptyString : StringText := ⟨[], .absent, false⟩

def State.begin (st : State) (c : Char) : Option State :=
  if c = '[' then st.openWith (.array []) (.value true)
  else if c = '\x7b' then st.openWith (.object [] "") (.name true)
  else if c = '"' then some { st with mode := .text false emptyString }
  else if c = 't' then some { st with mode := .word ['r', 'u', 'e'] (.bool true) }
  else if c = 'f' then some { st with mode := .word ['a', 'l', 's', 'e'] (.bool false) }
  else if c = 'n' then some { st with mode := .word ['u', 'l', 'l'] .null }
  else (NumberText.start? c).map fun literal => { st with mode := .number literal }

def State.behind (st : State) (c : Char) : Option State :=
  if isSpace c then some st
  else match st.mode, st.stack with
    | .complete _, _ => none
    | _, .array _ :: _ =>
      if c = ',' then some { st with mode := .value false } else st.close c
    | _, .object _ _ :: _ =>
      if c = ',' then some { st with mode := .name false } else st.close c
    | _, [] => none

def State.endNumber (st : State) (literal : NumberText) : Option State :=
  match literal.value? with
  | some n => some (st.deliver (.number n))
  | none => if st.skimming then some (st.deliver .null) else none

def State.endString (st : State) (isName : Bool) (part : StringText) : Option State :=
  if part.broken then none
  else
    let text := String.ofList part.before.reverse
    if !isName then some (st.deliver (.string text))
    else match st.stack with
      | .object before _ :: rest => some { st with stack := .object before text :: rest, mode := .colon }
      | _ => none

def StringText.push (part : StringText) (c : Char) : StringText :=
  { part with before := c :: part.before, escape := .absent }

def namedEscape? (c : Char) : Option Char :=
  if c = '"' then some '"'
  else if c = '\\' then some '\\'
  else if c = '/' then some '/'
  else if c = 'b' then some '\x08'
  else if c = 'f' then some '\x0c'
  else if c = 'n' then some '\n'
  else if c = 'r' then some '\r'
  else if c = 't' then some '\t'
  else none

def StringText.unit (part : StringText) (skimming : Bool) (lead : Option Nat) (n : Nat) :
    Option StringText :=
  if skimming then some (part.push '\ufffd')
  else match lead with
    | none =>
      if 0xDC00 ≤ n && n ≤ 0xDFFF then none
      else if 0xD800 ≤ n && n ≤ 0xDBFF then some { part with escape := .leading n }
      else some (part.push (Char.ofNat n))
    | some high =>
      if 0xDC00 ≤ n && n ≤ 0xDFFF then
        some (part.push (Char.ofNat (0x10000 + (high - 0xD800) * 0x400 + (n - 0xDC00))))
      else none

def byteLength (chars : List Char) : Nat :=
  chars.foldl (fun total c => total + c.utf8Size) 0

def StringText.step (part : StringText) (skimming : Bool) (c : Char) : Option StringText :=
  match part.escape with
  | .absent =>
    if c = '\\' then some { part with escape := .backslash }
    else if c.toNat < 0x20 then none
    else some (part.push c)
  | .backslash =>
    if c = 'u' then some { part with escape := .digits none [] }
    else (namedEscape? c).map part.push
  | .digits lead taken =>
    let now := c :: taken
    if byteLength now < 4 then some { part with escape := .digits lead now }
    else if now.length = 4 then (Hex.number? now.reverse).bind (part.unit skimming lead)
    else none
  | .leading lead => if c = '\\' then some { part with escape := .leadingBackslash lead } else none
  | .leadingBackslash lead =>
    if c = 'u' then some { part with escape := .digits (some lead) [] } else none

def StringText.stray (part : StringText) (skimming : Bool) : Option StringText :=
  match part.escape with
  | .absent => some { part with broken := !skimming }
  | .digits lead taken =>
    let now := '\x7f' :: taken
    if byteLength now < 4 then some { part with escape := .digits lead now } else none
  | _ => none

def StringText.isPlain (part : StringText) : Bool :=
  match part.escape with
  | .absent => true
  | _ => false

/-- Whether the value of the member whose name was read last is only skimmed,
given which names of the outermost object are known. -/
def State.skims (known : String → Bool) (st : State) : Bool :=
  match st.stack with
  | [.object _ name] => !known name
  | _ => st.skimming

def State.step (known : String → Bool) (st : State) (c : Char) : Option State :=
  match st.mode with
  | .value closable =>
    if isSpace c then some st
    else if closable && c == ']' then st.close c
    else st.begin c
  | .name closable =>
    if isSpace c then some st
    else if c = '"' then some { st with mode := .text true emptyString }
    else if closable then st.close c
    else none
  | .colon =>
    if isSpace c then some st
    else if c = ':' then some { st with mode := .value false, skimming := st.skims known }
    else none
  | .text isName part =>
    if c = '"' && part.isPlain then st.endString isName part
    else (part.step st.skimming c).map fun part => { st with mode := .text isName part }
  | .word rest value =>
    match rest with
    | [] => none
    | [last] => if c = last then some (st.deliver value) else none
    | next :: rest => if c = next then some { st with mode := .word rest value } else none
  | .number literal =>
    match literal.extend? c with
    | some literal => some { st with mode := .number literal }
    | none => if literal.isComplete then (st.endNumber literal).bind (·.behind c) else none
  | .behind => st.behind c
  | .complete _ => st.behind c

def State.symbolStep (known : String → Bool) (st : State) : Option Char → Option State
  | some c => st.step known c
  | none =>
    match st.mode with
    | .text isName part =>
      (part.stray st.skimming).map fun part => { st with mode := .text isName part }
    | _ => none

def State.finish (st : State) : Except Fault Value :=
  match st.mode with
  | .complete value => .ok value
  | .number literal =>
    if !literal.isComplete then .error .unexpectedEnd
    else match st.endNumber literal with
      | none => .error .malformed
      | some ⟨_, .complete value, _⟩ => .ok value
      | some _ => .error .unexpectedEnd
  | _ => .error .unexpectedEnd

def finish? (outcome : Option State) : Except Fault Value :=
  match outcome with
  | none => .error .malformed
  | some st => st.finish

/-- Reads a text, skimming the members of the outermost object whose names are
not known.  Members stay in the order of the text. -/
def readKnowing (known : String → Bool) (text : List Char) : Except Fault Value :=
  finish? (text.foldlM (State.step known) State.start)

def readBytesKnowing (known : String → Bool) (bytes : List UInt8) : Except Fault Value :=
  finish? ((Utf8.symbols bytes).foldlM (State.symbolStep known) State.start)

end Reader

/-- Reads a value; the members of its objects come sorted by name. -/
def read (text : List Char) : Except Fault Value :=
  (Reader.readKnowing (fun _ => true) text).map Value.canonical

def readBytes (bytes : List UInt8) : Except Fault Value :=
  (Reader.readBytesKnowing (fun _ => true) bytes).map Value.canonical

def readText (text : String) : Except Fault Value :=
  read text.toList

end NodeLink.Json
