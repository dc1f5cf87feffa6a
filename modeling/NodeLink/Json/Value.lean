import NodeLink.Number.Binary64
/-!
# JSON values

Numbers keep the distinction between integers, which stay exact within 64
bits, and binary numbers.  An object keeps its members as they were written;
`Value.canonical` sorts them by name and lets the last of several members of
one name stand.
-/

namespace NodeLink.Json

open NodeLink.Number

inductive Number
  | integer (value : Int)
  | binary (negative : Bool) (magnitude : Binary64)
  deriving DecidableEq, Repr

inductive Value
  | null
  | bool (b : Bool)
  | number (n : Number)
  | string (s : String)
  | array (items : List Value)
  | object (members : List (String × Value))
  deriving Repr

namespace Members

def find? (members : List (String × Value)) (name : String) : Option Value :=
  (members.reverse.find? (·.1 = name)).map (·.2)

def insert (name : String) (value : Value) :
    List (String × Value) → List (String × Value)
  | [] => [(name, value)]
  | member :: rest =>
    if name < member.1 then (name, value) :: member :: rest
    else if name = member.1 then (name, value) :: rest
    else member :: insert name value rest

def sorted (members : List (String × Value)) : List (String × Value) :=
  members.foldl (fun done member => insert member.1 member.2 done) []

end Members

mutual

def Value.canonical : Value → Value
  | .array items => .array (canonicalItems items)
  | .object members => .object (Members.sorted (canonicalMembers members))
  | value => value

def canonicalItems : List Value → List Value
  | [] => []
  | item :: rest => item.canonical :: canonicalItems rest

def canonicalMembers : List (String × Value) → List (String × Value)
  | [] => []
  | (name, value) :: rest => (name, value.canonical) :: canonicalMembers rest

end

def Value.member? (value : Value) (name : String) : Option Value :=
  match value with
  | .object members => Members.find? members name
  | _ => none

def Value.ofText (text : String) : Value := .string text

def Value.ofInt (n : Int) : Value := .number (.integer n)

def Value.ofNat (n : Nat) : Value := .number (.integer n)

def Value.ofText? (text : Option String) : Value :=
  match text with
  | none => .null
  | some text => .string text

end NodeLink.Json
