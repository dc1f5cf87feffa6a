import NodeLink.Text.Hex
/-!
# Quoted texts

A text between double quotes, as diagnostic output shows it: quotes and
backslashes are escaped, control characters are named or numbered.  Also the
forms that optional values and lists of texts take around it.
-/

namespace NodeLink.Text.Quoted

def hexDigits (n : Nat) : List Char :=
  Nat.toDigits 16 n

/-- How a character is shown.  Control characters are named or numbered; from U+00A0 up every
character is shown as it is, also one that has no shape of its own. -/
def escape (c : Char) : List Char :=
  if c = '"' then ['\\', '"']
  else if c = '\\' then ['\\', '\\']
  else if c = '\n' then ['\\', 'n']
  else if c = '\r' then ['\\', 'r']
  else if c = '\t' then ['\\', 't']
  else if c.toNat = 0 then ['\\', '0']
  else if c.toNat < 0x20 || (0x7F ≤ c.toNat && c.toNat < 0xA0) then
    ['\\', 'u', '\x7b'] ++ hexDigits c.toNat ++ ['\x7d']
  else [c]

def quote (text : String) : String :=
  String.ofList ('"' :: text.toList.flatMap escape ++ ['"'])

def optional (show? : Option String) : String :=
  match show? with
  | none => "None"
  | some inner => "Some(" ++ inner ++ ")"

def list (items : List String) : String :=
  "[" ++ String.intercalate ", " items ++ "]"

def record (name : String) (fields : List (String × String)) : String :=
  name ++ " \x7b " ++
    String.intercalate ", " (fields.map fun field => field.1 ++ ": " ++ field.2) ++ " \x7d"

end NodeLink.Text.Quoted
