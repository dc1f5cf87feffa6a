/-!
# TOML items

What a document holds: scalars, arrays, tables and arrays of tables.  Tables
remember how they came about, because that decides who may add to them: a table
that a header names once is closed to other headers, one that only appeared on
the way to another may be named later, and one that a dotted key opened takes
further dotted keys only.
-/

namespace NodeLink.Toml

inductive Item
  | string (text : String)
  | integer (n : Int)
  | bool (b : Bool)
  | float
  | moment
  | array (items : List Item)
  | inline (implicit dotted : Bool) (entries : List (String × Item))
  | table (implicit dotted : Bool) (entries : List (String × Item))
  | tables (elements : List (List (String × Item)))

abbrev Entries := List (String × Item)

namespace Entries

def find? (entries : Entries) (name : String) : Option Item :=
  (List.find? (·.1 = name) entries).map (·.2)

def set (entries : Entries) (name : String) (item : Item) : Entries :=
  match entries with
  | [] => [(name, item)]
  | entry :: rest => if entry.1 = name then (name, item) :: rest else entry :: set rest name item

def remove (entries : Entries) (name : String) : Entries :=
  entries.filter (·.1 ≠ name)

end Entries

/-- A table that is being filled: whether a dotted key opened it, and what it
holds. -/
structure Open where
  dotted : Bool
  entries : Entries

def Open.set (table : Open) (name : String) (item : Item) : Open :=
  { table with entries := Entries.set table.entries name item }

/-- Follows a path from the entries of a document and changes the table it
leads to, giving what the change gives.  Tables that are missing on the way are
made; the last of several tables stands for all of them.  A path that is part
of a dotted key may only go through tables that no header has named. -/
def descend {α : Type} (dotted : Bool) (change : Open → Option (Open × α)) :
    List String → Open → Option (Open × α)
  | [], table => change table
  | name :: path, table => do
    match Entries.find? table.entries name with
    | none =>
      let (inner, result) ← descend dotted change path ⟨dotted, []⟩
      return (table.set name (.table true inner.dotted inner.entries), result)
    | some (.table implicit isDotted entries) =>
      if dotted && !implicit then none
      else
        let (inner, result) ← descend dotted change path ⟨isDotted, entries⟩
        return (table.set name (.table implicit inner.dotted inner.entries), result)
    | some (.tables elements) =>
      let last ← elements.getLast?
      let (inner, result) ← descend dotted change path ⟨false, last⟩
      return (table.set name (.tables (elements.dropLast ++ [inner.entries])), result)
    | some _ => none

def descendInline (change : Open → Option Open) : List String → Open → Option Open
  | [], table => change table
  | name :: path, table => do
    match Entries.find? table.entries name with
    | none =>
      let inner ← descendInline change path ⟨true, []⟩
      return table.set name (.inline true inner.dotted inner.entries)
    | some (.inline implicit isDotted entries) =>
      if !implicit then none
      else
        let inner ← descendInline change path ⟨isDotted, entries⟩
        return table.set name (.inline implicit inner.dotted inner.entries)
    | some _ => none

/-- Adds an entry under a key that is not taken.  A dotted key may only add to
a table that dotted keys have opened, any other key to any other table. -/
def addEntry (path : List String) (name : String) (item : Item) (table : Open) : Option Open :=
  if table.dotted == path.isEmpty then none
  else
    match Entries.find? table.entries name with
    | some _ => none
    | none => some (table.set name item)

def only (change : Open → Option Open) (table : Open) : Option (Open × Unit) :=
  (change table).map fun table => (table, ())

def insert (path : List String) (name : String) (item : Item) (entries : Entries) : Option Entries :=
  (descend true (only (addEntry path name item)) path ⟨false, entries⟩).map (·.1.entries)

def insertInline (path : List String) (name : String) (item : Item) (entries : Entries) :
    Option Entries :=
  (descendInline (addEntry path name item) path ⟨false, entries⟩).map (·.entries)

/-- A document under construction: what is finished, and the table that keys go
to now, which is named by the last header.  A document starts with the keys of
its outermost table. -/
structure Draft where
  finished : Entries
  path : List String
  isElement : Bool
  entries : Entries

def Draft.empty : Draft := ⟨[], [], false, []⟩

def pushElement (name : String) (entries : Entries) (parent : Open) : Option Open :=
  match Entries.find? parent.entries name with
  | none => some (parent.set name (.tables [entries]))
  | some (.tables elements) => some (parent.set name (.tables (elements ++ [entries])))
  | some _ => none

def placeTable (name : String) (entries : Entries) (parent : Open) : Option Open :=
  match Entries.find? parent.entries name with
  | none => some (parent.set name (.table false false entries))
  | some (.table true _ _) => some (parent.set name (.table false false entries))
  | some _ => none

def Draft.close (draft : Draft) : Option Entries :=
  match draft.path.getLast? with
  | none => some draft.entries
  | some name =>
    let place := if draft.isElement then pushElement name draft.entries else placeTable name draft.entries
    (descend false (only place) draft.path.dropLast ⟨false, draft.finished⟩).map (·.1.entries)

/-- Takes out what stands under a name that a header opens as a table: nothing
yet, or a table that only appeared on the way to another. -/
def takeTable (name : String) (parent : Open) : Option (Open × Entries) :=
  match Entries.find? parent.entries name with
  | none => some (parent, [])
  | some (.table true false entries) =>
    some ({ parent with entries := Entries.remove parent.entries name }, entries)
  | some _ => none

def Draft.openTable (draft : Draft) (path : List String) (name : String) : Option Draft := do
  let finished ← draft.close
  let (parent, entries) ← descend false (takeTable name) path ⟨false, finished⟩
  return ⟨parent.entries, path ++ [name], false, entries⟩

def admitsElement (name : String) (parent : Open) : Option Open :=
  match Entries.find? parent.entries name with
  | none => some parent
  | some (.tables _) => some parent
  | some _ => none

def Draft.openElement (draft : Draft) (path : List String) (name : String) : Option Draft := do
  let finished ← draft.close
  let (parent, _) ← descend false (only (admitsElement name)) path ⟨false, finished⟩
  return ⟨parent.entries, path ++ [name], true, []⟩

def Draft.add (draft : Draft) (path : List String) (name : String) (item : Item) : Option Draft :=
  (insert path name item draft.entries).map fun entries => { draft with entries }

end NodeLink.Toml
