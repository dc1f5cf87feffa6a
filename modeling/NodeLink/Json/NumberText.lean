import NodeLink.Json.Value
import NodeLink.Text.Numeral
/-!
# Number literals

The parts of a number literal as they are collected one character at a time,
and the number that a complete literal denotes.  An integer within 64 bits is
exact.  Any other literal gives a binary number: the digits are collected as
long as they fit 64 bits, later ones only count, and the result is scaled by a
power of ten.
-/

namespace NodeLink.Json

open NodeLink.Number NodeLink.Text

inductive NumberStage
  | sign
  | zero
  | whole
  | point
  | fraction
  | mark
  | markSign
  | exponent
  deriving DecidableEq, Repr

structure NumberText where
  stage : NumberStage
  negative : Bool
  whole : List Char
  fraction : List Char
  exponentNegative : Bool
  exponent : List Char
  deriving DecidableEq, Repr

namespace NumberText

def start? (c : Char) : Option NumberText :=
  if c = '-' then some ⟨.sign, true, [], [], false, []⟩
  else if c = '0' then some ⟨.zero, false, ['0'], [], false, []⟩
  else if Numeral.isDigit c then some ⟨.whole, false, [c], [], false, []⟩
  else none

def isMark (c : Char) : Bool := c = 'e' || c = 'E'

def pushFraction (n : NumberText) (c : Char) : NumberText :=
  { n with stage := .fraction, fraction := c :: n.fraction }

def pushExponent (n : NumberText) (c : Char) : NumberText :=
  { n with stage := .exponent, exponent := c :: n.exponent }

def extend? (n : NumberText) (c : Char) : Option NumberText :=
  match n.stage with
  | .sign =>
    if c = '0' then some { n with stage := .zero, whole := ['0'] }
    else if Numeral.isDigit c then some { n with stage := .whole, whole := [c] }
    else none
  | .zero =>
    if c = '.' then some { n with stage := .point }
    else if isMark c then some { n with stage := .mark }
    else none
  | .whole =>
    if Numeral.isDigit c then some { n with whole := c :: n.whole }
    else if c = '.' then some { n with stage := .point }
    else if isMark c then some { n with stage := .mark }
    else none
  | .point => if Numeral.isDigit c then some (n.pushFraction c) else none
  | .fraction =>
    if Numeral.isDigit c then some (n.pushFraction c)
    else if isMark c then some { n with stage := .mark }
    else none
  | .mark =>
    if c = '+' then some { n with stage := .markSign }
    else if c = '-' then some { n with stage := .markSign, exponentNegative := true }
    else if Numeral.isDigit c then some (n.pushExponent c)
    else none
  | .markSign => if Numeral.isDigit c then some (n.pushExponent c) else none
  | .exponent => if Numeral.isDigit c then some (n.pushExponent c) else none

def isComplete (n : NumberText) : Bool :=
  match n.stage with
  | .zero | .whole | .fraction | .exponent => true
  | _ => false

/-- Appends digits to a significand as long as it stays within 64 bits, and
counts the digits from the first one that does not fit. -/
def absorb (significand : Nat) : List Char → Nat × Nat
  | [] => (significand, 0)
  | c :: rest =>
    let next := significand * 10 + (c.toNat - '0'.toNat)
    if next ≤ Numeral.maxWord64 then absorb next rest else (significand, rest.length + 1)

def greatestExponent : Nat := Nat.pow 2 31 - 1

def exponentValue (n : NumberText) : Nat :=
  n.exponent.reverse.foldl (fun total c => total * 10 + (c.toNat - '0'.toNat)) 0

def integerValue (negative : Bool) (significand : Nat) : Option Number :=
  if !negative then some (.integer significand)
  else if significand = 0 then some (.binary true Binary64.zero)
  else if significand ≤ Nat.pow 2 63 then some (.integer (-significand))
  else (Binary64.ofNat significand).map (.binary true)

def value? (n : NumberText) : Option Number :=
  let (whole, skipped) := absorb 0 n.whole.reverse
  if n.fraction.isEmpty && n.exponent.isEmpty && skipped == 0 then
    integerValue n.negative whole
  else
    let (significand, ignored) := absorb whole n.fraction.reverse
    let places : Int := (skipped : Int) - (n.fraction.length - ignored : Nat)
    let exponent := n.exponentValue
    if greatestExponent < exponent then
      if significand ≠ 0 ∧ n.exponentNegative = false then none
      else some (.binary n.negative Binary64.zero)
    else
      let scale := if n.exponentNegative then places - exponent else places + exponent
      (Binary64.ofDecimal significand scale).map (.binary n.negative)

end NumberText

end NodeLink.Json
