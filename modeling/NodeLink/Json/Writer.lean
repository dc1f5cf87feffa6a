import NodeLink.Json.Value
import NodeLink.Number.Shortest
import NodeLink.Text.Hex
/-!
# Writing JSON

Values without any space between tokens, members in the order in which the
value holds them.  A string escapes the quote, the backslash and the control
characters below the space; everything else stands for itself.  A binary
number shows its shortest decimal: positional while its leading digit lies
between 10⁻⁵ and 10¹⁵, with an exponent otherwise.
-/

namespace NodeLink.Json

open NodeLink.Number NodeLink.Text

def escapeChar (c : Char) : List Char :=
  if c = '"' then ['\\', '"']
  else if c = '\\' then ['\\', '\\']
  else if c = '\n' then ['\\', 'n']
  else if c = '\r' then ['\\', 'r']
  else if c = '\t' then ['\\', 't']
  else if c.toNat = 0x08 then ['\\', 'b']
  else if c.toNat = 0x0C then ['\\', 'f']
  else if c.toNat < 0x20 then
    ['\\', 'u', '0', '0', Hex.digit (c.toNat / 16), Hex.digit (c.toNat % 16)]
  else [c]

def quoted (text : List Char) : List Char :=
  '"' :: text.flatMap escapeChar ++ ['"']

def greatestPlain : Int := 15

def leastPlain : Int := -5

def plain (digits : List Char) (lead : Int) : List Char :=
  if lead < 0 then '0' :: '.' :: List.replicate (-lead - 1).toNat '0' ++ digits
  else
    let whole := lead.toNat + 1
    let fraction := digits.drop whole
    digits.take whole ++ List.replicate (whole - digits.length) '0' ++ '.' ::
      (if fraction.isEmpty then ['0'] else fraction)

def withExponent (digits : List Char) (lead : Int) : List Char :=
  let fraction := digits.drop 1
  digits.take 1 ++ (if fraction.isEmpty then [] else '.' :: fraction) ++
    ['e', if lead < 0 then '-' else '+'] ++ Nat.toDigits 10 lead.natAbs

def magnitudeText (x : Binary64) : List Char :=
  if x.isZero then ['0', '.', '0']
  else
    let (digits, lead) := shortestDigits x
    if leastPlain ≤ lead ∧ lead ≤ greatestPlain then plain digits lead
    else withExponent digits lead

def integerText : Int → List Char
  | .ofNat n => Nat.toDigits 10 n
  | .negSucc n => '-' :: Nat.toDigits 10 (n + 1)

def Number.text : Number → List Char
  | .integer value => integerText value
  | .binary negative x => if negative then '-' :: magnitudeText x else magnitudeText x

mutual

def Value.write : Value → List Char
  | .null => ['n', 'u', 'l', 'l']
  | .bool true => ['t', 'r', 'u', 'e']
  | .bool false => ['f', 'a', 'l', 's', 'e']
  | .number n => n.text
  | .string s => quoted s.toList
  | .array [] => ['[', ']']
  | .array (item :: rest) => '[' :: (item.write ++ writeItems rest)
  | .object [] => ['\x7b', '\x7d']
  | .object ((name, value) :: rest) =>
    '\x7b' :: (quoted name.toList ++ ':' :: (value.write ++ writeMembers rest))

def writeItems : List Value → List Char
  | [] => [']']
  | item :: rest => ',' :: (item.write ++ writeItems rest)

def writeMembers : List (String × Value) → List Char
  | [] => ['\x7d']
  | (name, value) :: rest =>
    ',' :: (quoted name.toList ++ ':' :: (value.write ++ writeMembers rest))

end

def Value.text (value : Value) : String :=
  String.ofList value.write

end NodeLink.Json
