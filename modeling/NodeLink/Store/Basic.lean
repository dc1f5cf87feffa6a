import NodeLink.FileTree
/-!
# Stores

Byte strings kept under names, in memory or as files of one directory.  A file
store keeps a value in a file named after its key.
-/

namespace NodeLink

inductive Store
  | memory (entries : List (String × List UInt8))
  | files (directory : String) (tree : FileNode)

namespace Store

def faultMessage (fault : FileFault) : String :=
  "store I/O error: " ++ fault.message

def fileOf (directory key : String) : String :=
  Path.join directory (key ++ ".json")

def putEntry (key : String) (value : List UInt8) :
    List (String × List UInt8) → List (String × List UInt8)
  | [] => [(key, value)]
  | entry :: rest => if entry.1 = key then (key, value) :: rest else entry :: putEntry key value rest

/-- The directory is made if it is missing, even where writing fails.  This is what comes of
putting a value into a store in the end: a file store lets a new file take the place of the old
one, so that nobody sees a value half written. -/
def put (store : Store) (key : String) (value : List UInt8) : Store × Except FileFault Unit :=
  match store with
  | .memory entries => (.memory (putEntry key value entries), .ok ())
  | .files directory tree =>
    match tree.makeDirectories directory with
    | (tree, .error fault) => (.files directory tree, .error fault)
    | (tree, .ok ()) =>
      match tree.write (fileOf directory key) value with
      | .error fault => (.files directory tree, .error fault)
      | .ok tree => (.files directory tree, .ok ())

/-- The value of a key; a missing one is not a fault. -/
def get (store : Store) (key : String) : Except FileFault (Option (List UInt8)) :=
  match store with
  | .memory entries => .ok ((entries.find? (·.1 = key)).map (·.2))
  | .files directory tree =>
    match tree.read (fileOf directory key) with
    | .ok bytes => .ok (some bytes)
    | .error .notFound => .ok none
    | .error fault => .error fault

def remove (store : Store) (key : String) : Store × Except FileFault Unit :=
  match store with
  | .memory entries => (.memory (entries.filter (·.1 ≠ key)), .ok ())
  | .files directory tree =>
    match tree.remove (fileOf directory key) with
    | .ok tree => (.files directory tree, .ok ())
    | .error .notFound => (store, .ok ())
    | .error fault => (store, .error fault)

def contains (store : Store) (key : String) : Bool :=
  match store with
  | .memory entries => entries.any (·.1 = key)
  | .files directory tree => tree.isFile (fileOf directory key)

def listing (store : Store) : List (String × Nat) :=
  match store with
  | .memory _ => []
  | .files _ tree => tree.sortedListing

end Store

end NodeLink
