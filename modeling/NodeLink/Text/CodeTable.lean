import NodeLink.Text.Blank
import NodeLink.Text.Hex
/-!
# Tables of character codes

A property of characters is kept as a text of rows.  A row is a code in
hexadecimal or a run of codes, as in `300..36F`, and may carry a value behind
it.  The row of a code is found by halving, so it takes few steps however long
the table is.
-/

namespace NodeLink.Text

variable {α : Type}

structure CodeRow (α : Type) where
  first : Nat
  last : Nat
  value : α

namespace CodeRow

def covers (row : CodeRow α) (code : Nat) : Bool :=
  row.first ≤ code && code ≤ row.last

def ofText? (value? : List Char → Option α) (text : List Char) : Option (CodeRow α) := do
  let first ← Hex.number? (text.takeWhile Hex.isDigit)
  match text.dropWhile Hex.isDigit with
  | '.' :: '.' :: rest =>
    let last ← Hex.number? (rest.takeWhile Hex.isDigit)
    return { first, last, value := ← value? (rest.dropWhile Hex.isDigit) }
  | rest => return { first, last := first, value := ← value? rest }

end CodeRow

structure CodeTable (α : Type) where
  rows : Array (CodeRow α)

namespace CodeTable

def ofRows (rows : List (CodeRow α)) : CodeTable α :=
  ⟨(rows.mergeSort fun row other => row.first ≤ other.first).toArray⟩

def ofText (value? : List Char → Option α) (text : String) : CodeTable α :=
  let words := (text.toList.splitOnP isBlank).filter (!·.isEmpty)
  ⟨(words.filterMap (CodeRow.ofText? value?)).toArray⟩

/-- How many rows begin at or before a code, if that is true of those before
`low` and of none from `high` on. -/
def begunWithin (rows : Array (CodeRow α)) (code low high : Nat)
    (bounded : high ≤ rows.size) : Nat :=
  if below : low < high then
    let middle := (low + high) / 2
    have inside : middle < rows.size := by omega
    if rows[middle].first ≤ code then begunWithin rows code (middle + 1) high bounded
    else begunWithin rows code low middle (by omega)
  else low
termination_by high - low

def begun (table : CodeTable α) (code : Nat) : Nat :=
  begunWithin table.rows code 0 table.rows.size (Nat.le_refl _)

def row? (table : CodeTable α) (code : Nat) : Option (CodeRow α) :=
  (table.rows[table.begun code - 1]?).filter (·.covers code)

def value? (table : CodeTable α) (code : Nat) : Option α :=
  (table.row? code).map (·.value)

end CodeTable

def charsOfText? : List Char → Option (List Char)
  | ['='] => some []
  | '=' :: codes => (codes.splitOn ',').mapM fun digits => (Hex.number? digits).map Char.ofNat
  | _ => none

end NodeLink.Text
