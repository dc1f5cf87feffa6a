import NodeLink.Number.Binary64
import NodeLink.Text.Numeral
import NodeLink.Toml.Lexeme
/-!
# TOML scalars

Integers in four bases, floating-point numbers, truth values, and dates and
times.  Single underscores may stand between digits.  Integers have to fit 64
bits with a sign, and floating-point literals must not be too great.
-/

namespace NodeLink.Toml

open NodeLink.Text NodeLink.Number

def digitGroup (isDigit : Char → Bool) : List Char → List Char × List Char
  | [] => ([], [])
  | c :: rest =>
    if isDigit c then
      let (digits, behind) := digitGroup isDigit rest
      (c :: digits, behind)
    else if c = '_' && rest.head?.any isDigit then digitGroup isDigit rest
    else ([], c :: rest)

def digits? (isDigit : Char → Bool) (text : List Char) : Option (List Char × List Char) :=
  if text.head?.any isDigit then some (digitGroup isDigit text) else none

def sign (text : List Char) : Bool × List Char :=
  match text with
  | '-' :: rest => (true, rest)
  | '+' :: rest => (false, rest)
  | _ => (false, text)

def decimal? (text : List Char) : Option ((Bool × List Char) × List Char) :=
  let (negative, rest) := sign text
  match rest with
  | '0' :: behind => some ((negative, ['0']), behind)
  | _ => (digits? Numeral.isDigit rest).map fun (digits, behind) => ((negative, digits), behind)

def greatest : Nat := Nat.pow 2 63 - 1

def signed? (negative : Bool) (magnitude : Nat) : Option Int :=
  if negative then if magnitude ≤ greatest + 1 then some (-magnitude) else none
  else if magnitude ≤ greatest then some magnitude
  else none

def digitOf? (base : Nat) (c : Char) : Option Nat :=
  (Hex.value? c).filter (· < base)

def magnitude? (base : Nat) (digits : List Char) : Option Nat :=
  digits.foldlM (fun total c => (digitOf? base c).map (total * base + ·)) 0

def based? (base : Nat) (text : List Char) : Option (Int × List Char) := do
  let (digits, rest) ← digits? (fun c => (digitOf? base c).isSome) text
  return (← signed? false (← magnitude? base digits), rest)

def integer? (text : List Char) : Option (Int × List Char) :=
  match text with
  | '0' :: 'x' :: rest => based? 16 rest
  | '0' :: 'o' :: rest => based? 8 rest
  | '0' :: 'b' :: rest => based? 2 rest
  | _ => do
    let ((negative, digits), rest) ← decimal? text
    return (← signed? negative (← magnitude? 10 digits), rest)

def fraction? (text : List Char) : Option (List Char × List Char) :=
  match text with
  | '.' :: rest => digits? Numeral.isDigit rest
  | _ => none

def exponent? (text : List Char) : Option ((Bool × List Char) × List Char) :=
  match text with
  | c :: rest =>
    if c = 'e' || c = 'E' then
      let (negative, rest) := sign rest
      (digits? Numeral.isDigit rest).map fun (digits, rest) => ((negative, digits), rest)
    else none
  | [] => none

/-- Whether a literal is small enough for a floating-point number.  The place
of its first digit decides unless it is near the limit. -/
def isFinite (whole fraction : List Char) (exponent : Bool × List Char) : Bool :=
  let digits := (whole ++ fraction).dropWhile (· = '0')
  let power : Int := ((magnitude? 10 exponent.2).getD 0 : Nat)
  let scale := (if exponent.1 then -power else power) - fraction.length
  let place := scale + digits.length
  if digits.isEmpty || place < 300 then true
  else if 400 < place then false
  else
    let significand := (magnitude? 10 digits).getD 0
    (Binary64.ofQuotient (significand * Nat.pow 10 scale.toNat) (Nat.pow 10 (-scale).toNat)).isSome

/-- A floating-point literal, and whether it is accepted: one that is too great
is not, while one that is too small counts as the negative infinity. -/
def float? (text : List Char) : Option (Bool × List Char) := do
  let ((negative, whole), rest) ← decimal? text
  match fraction? rest with
  | some (fraction, rest) =>
    match exponent? rest with
    | some (exponent, rest) => return (negative || isFinite whole fraction exponent, rest)
    | none => return (negative || isFinite whole fraction (false, []), rest)
  | none =>
    let (exponent, rest) ← exponent? rest
    return (negative || isFinite whole [] exponent, rest)

def dropWord? (word : List Char) (text : List Char) : Option (List Char) :=
  if word.isPrefixOf text then some (text.drop word.length) else none

def specialFloat? (text : List Char) : Option (List Char) :=
  let (_, rest) := sign text
  (dropWord? ['i', 'n', 'f'] rest).or (dropWord? ['n', 'a', 'n'] rest)

/-! ### Dates and times -/

def field? (count low high : Nat) (text : List Char) : Option (Nat × List Char) := do
  let digits := text.take count
  if digits.length ≠ count then none
  let n ← Numeral.digitsWithin? high digits
  if n < low then none else return (n, text.drop count)

def isLeapYear (year : Nat) : Bool :=
  (year % 4 == 0 && year % 100 != 0) || year % 400 == 0

def daysIn (year month : Nat) : Nat :=
  if month = 2 then if isLeapYear year then 29 else 28
  else if month = 4 || month = 6 || month = 9 || month = 11 then 30
  else 31

def mark? (c : Char) (text : List Char) : Option (List Char) :=
  match text with
  | first :: rest => if first = c then some rest else none
  | [] => none

def startsDate (text : List Char) : Bool :=
  ((field? 4 0 9999 text).bind fun (_, rest) => mark? '-' rest).isSome

def startsTime (text : List Char) : Bool :=
  ((field? 2 0 23 text).bind fun (_, rest) => mark? ':' rest).isSome

def date? (text : List Char) : Option (List Char) := do
  let (year, rest) ← field? 4 0 9999 text
  let (month, rest) ← field? 2 1 12 (← mark? '-' rest)
  let (_, rest) ← field? 2 1 (daysIn year month) (← mark? '-' rest)
  return rest

def time? (text : List Char) : Option (List Char) := do
  let (_, rest) ← field? 2 0 23 text
  let (_, rest) ← field? 2 0 59 (← mark? ':' rest)
  let (_, rest) ← field? 2 0 60 (← mark? ':' rest)
  match mark? '.' rest with
  | some behind =>
    if behind.head?.any Numeral.isDigit then return behind.dropWhile Numeral.isDigit else return rest
  | none => return rest

def offset? (text : List Char) : Option (List Char) :=
  match text with
  | 'Z' :: rest => some rest
  | 'z' :: rest => some rest
  | '+' :: rest => hours rest
  | '-' :: rest => hours rest
  | _ => some text
where
  hours (text : List Char) : Option (List Char) := do
    let (_, rest) ← field? 2 0 23 text
    let (_, rest) ← field? 2 0 59 (← mark? ':' rest)
    return rest

def moment? (text : List Char) : Option (List Char) := do
  if startsDate text then
    let rest ← date? text
    match rest with
    | c :: behind =>
      if (c = 'T' || c = 't' || c = ' ') && startsTime behind then offset? (← time? behind)
      else return rest
    | [] => return rest
  else time? text

def startsMoment (text : List Char) : Bool := startsDate text || startsTime text

end NodeLink.Toml
