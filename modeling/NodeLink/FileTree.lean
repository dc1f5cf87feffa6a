import NodeLink.Text.Utf8
/-!
# File trees

A tree of directories and files, and the operations of a file system on it
with the faults that they report.  A path is looked up component by component:
everything before the last component has to be a directory that exists.
-/

namespace NodeLink

open NodeLink.Text

inductive FileNode
  | file (bytes : List UInt8)
  | directory (entries : List (String × FileNode))

inductive FileFault
  | notFound
  | occupied
  | notDirectory
  | isDirectory
  | nameTooLong
  | notUtf8
  | nulInName
  deriving DecidableEq, Repr

def FileFault.message : FileFault → String
  | .notFound => "No such file or directory (os error 2)"
  | .occupied => "File exists (os error 17)"
  | .notDirectory => "Not a directory (os error 20)"
  | .isDirectory => "Is a directory (os error 21)"
  | .nameTooLong => "File name too long (os error 36)"
  | .notUtf8 => "stream did not contain valid UTF-8"
  | .nulInName => "file name contained an unexpected NUL byte"

namespace Path

def join (base path : String) : String :=
  if path.toList.head? = some '/' then path
  else if base.isEmpty || base.toList.getLast? = some '/' then base ++ path
  else base ++ "/" ++ path

def components (path : String) : List String :=
  ((path.toList.splitOn '/').map String.ofList).filter fun name => name ≠ "" && name ≠ "."

def namesDirectory (path : String) : Bool :=
  path.toList.getLast? = some '/'

end Path

namespace FileNode

def empty : FileNode := .directory []

def child? (entries : List (String × FileNode)) (name : String) : Option FileNode :=
  (entries.find? (·.1 = name)).map (·.2)

def find? : FileNode → List String → Option FileNode
  | node, [] => some node
  | .directory entries, name :: rest => (child? entries name).bind fun node => node.find? rest
  | .file _, _ :: _ => none

def alterEntry (name : String) (change : Option FileNode → Option FileNode) :
    List (String × FileNode) → List (String × FileNode)
  | [] => ((change none).map fun node => (name, node)).toList
  | entry :: rest =>
    if entry.1 = name then ((change (some entry.2)).map fun node => (name, node)).toList ++ rest
    else entry :: alterEntry name change rest

def alter (change : Option FileNode → Option FileNode) : List String → FileNode → FileNode
  | [], node => node
  | [name], .directory entries => .directory (alterEntry name change entries)
  | name :: rest, .directory entries =>
    .directory (alterEntry name (fun node? => node?.map (alter change rest)) entries)
  | _, .file bytes => .file bytes

def longestName : Nat := 255

def checkName (name : String) : Except FileFault Unit :=
  if longestName < Utf8.byteCount name then .error .nameTooLong else .ok ()

/-- The components of a path without parents of parents, behind those in
`done`, which is kept last one first.  All but the last have to be directories
that exist. -/
def settle (root : FileNode) : List String → List String → Except FileFault (List String)
  | done, [] => .ok done.reverse
  | done, name :: rest =>
    if name = ".." then settle root (done.drop 1) rest
    else do
      checkName name
      match rest, root.find? (name :: done).reverse with
      | [], _ => return (name :: done).reverse
      | _, none => throw .notFound
      | _, some (.file _) => throw .notDirectory
      | _, some (.directory _) => settle root (name :: done) rest

def locate (root : FileNode) (path : String) : Except FileFault (List String) :=
  if path.toList.contains '\x00' then .error .nulInName
  else settle root [] (Path.components path)

def stat (root : FileNode) (path : String) : Except FileFault FileNode := do
  match root.find? (← root.locate path) with
  | none => throw .notFound
  | some (.file bytes) => if Path.namesDirectory path then throw .notDirectory else return .file bytes
  | some node => return node

def exists? (root : FileNode) (path : String) : Bool :=
  (root.stat path).toBool

def isFile (root : FileNode) (path : String) : Bool :=
  match root.stat path with
  | .ok (.file _) => true
  | _ => false

def read (root : FileNode) (path : String) : Except FileFault (List UInt8) := do
  match ← root.stat path with
  | .file bytes => return bytes
  | .directory _ => throw .isDirectory

def write (root : FileNode) (path : String) (bytes : List UInt8) : Except FileFault FileNode := do
  let place ← root.locate path
  match root.find? place with
  | some (.directory _) => throw .isDirectory
  | some (.file _) =>
    if Path.namesDirectory path then throw .notDirectory
    else return root.alter (fun _ => some (.file bytes)) place
  | none =>
    if Path.namesDirectory path then throw .isDirectory
    else return root.alter (fun _ => some (.file bytes)) place

def remove (root : FileNode) (path : String) : Except FileFault FileNode := do
  match ← root.stat path with
  | .directory _ => throw .isDirectory
  | .file _ => return root.alter (fun _ => none) (← root.locate path)

/-- Makes the directories of a path that are missing, and gives the tree as far
as it came. -/
def makeAll (root : FileNode) : List String → List String → FileNode × Except FileFault Unit
  | _, [] => (root, .ok ())
  | done, name :: rest =>
    if name = ".." then makeAll root (done.drop 1) rest
    else
      match checkName name with
      | .error fault => (root, .error fault)
      | .ok () =>
        let place := (name :: done).reverse
        match root.find? place with
        | some (.directory _) => makeAll root (name :: done) rest
        | some (.file _) =>
          (root, .error (if rest.isEmpty then .occupied else .notDirectory))
        | none => makeAll (root.alter (fun _ => some empty) place) (name :: done) rest

def makeDirectories (root : FileNode) (path : String) : FileNode × Except FileFault Unit :=
  if path.toList.contains '\x00' then (root, .error .nulInName)
  else makeAll root [] (Path.components path)

def parentOf (path : String) : String :=
  "/".intercalate (Path.components path).dropLast

mutual

/-- Every directory and file below a node with its size; directories end in a
slash and count as empty. -/
def listing (front : String) : FileNode → List (String × Nat)
  | .file _ => []
  | .directory entries => listingEntries front entries

def listingEntries (front : String) : List (String × FileNode) → List (String × Nat)
  | [] => []
  | (name, .file bytes) :: rest => (front ++ name, bytes.length) :: listingEntries front rest
  | (name, node) :: rest =>
    (front ++ name ++ "/", 0) :: (listing (front ++ name ++ "/") node ++ listingEntries front rest)

end

def sortedListing (root : FileNode) : List (String × Nat) :=
  (root.listing "").mergeSort fun x y => decide (x.1 ≤ y.1)

end FileNode

end NodeLink
