import NodeLink.Settings.Basic
import NodeLink.Toml.Reader
import NodeLink.Toml.Writer
import NodeLink.Text.Numeral
/-!
# Settings files

Settings as a document with one line for each field.  A file may leave fields
out, which then take their defaults, and hold keys of its own.  Variables of
the environment come before the file and the file before the defaults; whether
settings are usable is decided last, and a file that is missing is written with
the defaults alone.
-/

namespace NodeLink.Settings

open NodeLink.Text NodeLink.Toml

inductive Error
  | file (fault : FileFault)
  | unreadable
  | unwritable
  | invalid (flaw : Flaw)
  deriving DecidableEq, Repr

/-! ### Reading -/

def textField (entries : Entries) (name : String) (otherwise : String) : Option String :=
  match Entries.find? entries name with
  | none => some otherwise
  | some (.string text) => some text
  | some _ => none

def countField (entries : Entries) (name : String) (otherwise : Nat) : Option Nat :=
  match Entries.find? entries name with
  | none => some otherwise
  | some (.integer (.ofNat n)) => some n
  | some _ => none

def ofEntries? (defaults : Settings) (entries : Entries) : Option Settings := do
  let dataDir ← textField entries "data_dir" defaults.dataDir
  let connectTimeout ← countField entries "connect_timeout_secs" defaults.connectTimeout
  let requestTimeout ← countField entries "request_timeout_secs" defaults.requestTimeout
  let refresh ← countField entries "bootstrap_refresh_secs" defaults.refresh
  let maxResponse ← countField entries "max_response_bytes" defaults.maxResponse
  let userAgent ← textField entries "user_agent" defaults.userAgent
  return { dataDir, connectTimeout, requestTimeout, refresh, maxResponse, userAgent }

def ofText? (defaults : Settings) (text : List Char) : Option Settings :=
  (readDocument text).bind (ofEntries? defaults)

def load (env : Environment) (tree : FileNode) (path : String) : Except Error Settings :=
  match tree.read path with
  | .error fault => .error (.file fault)
  | .ok bytes =>
    match Utf8.decode bytes with
    | none => .error (.file .notUtf8)
    | some text =>
      match ofText? (default env) text with
      | none => .error .unreadable
      | some settings => .ok settings

/-! ### Writing -/

def greatestCount : Nat := Nat.pow 2 63 - 1

def counts (settings : Settings) : List Nat :=
  [settings.connectTimeout, settings.requestTimeout, settings.refresh, settings.maxResponse]

def isWritable (settings : Settings) : Bool :=
  settings.counts.all (· ≤ greatestCount)

def render (settings : Settings) : List Char :=
  writeLine "data_dir".toList (writeString settings.dataDir.toList) ++
    writeLine "connect_timeout_secs".toList (writeNat settings.connectTimeout) ++
    writeLine "request_timeout_secs".toList (writeNat settings.requestTimeout) ++
    writeLine "bootstrap_refresh_secs".toList (writeNat settings.refresh) ++
    writeLine "max_response_bytes".toList (writeNat settings.maxResponse) ++
    writeLine "user_agent".toList (writeString settings.userAgent.toList)

/-- Writes settings to a file, making the directories it lies in.  They are
made even where the settings then cannot be written. -/
def save (settings : Settings) (tree : FileNode) (path : String) : FileNode × Except Error Unit :=
  match tree.makeDirectories (FileNode.parentOf path) with
  | (tree, .error fault) => (tree, .error (.file fault))
  | (tree, .ok ()) =>
    if !settings.isWritable then (tree, .error .unwritable)
    else
      match tree.write path (Utf8.encode settings.render) with
      | .error fault => (tree, .error (.file fault))
      | .ok tree => (tree, .ok ())

/-! ### Environment -/

def overridden (given : Option String) (otherwise : Nat) : Nat :=
  match given with
  | none => otherwise
  | some text => (Numeral.within? Numeral.maxWord64 text.toList).getD otherwise

def withEnvironment (env : Environment) (settings : Settings) : Settings :=
  { settings with
    dataDir := env.dataDir.getD settings.dataDir
    connectTimeout := overridden env.connectTimeout settings.connectTimeout
    requestTimeout := overridden env.requestTimeout settings.requestTimeout }

def check (settings : Settings) : Except Error Settings :=
  match settings.flaw? with
  | some flaw => .error (.invalid flaw)
  | none => .ok settings

def ofEnvironment (env : Environment) : Except Error Settings :=
  (withEnvironment env (default env)).check

/-- The settings of a file under an environment, the file being written with
the defaults first if there is none. -/
def loadOrWrite (env : Environment) (tree : FileNode) (path : String) :
    FileNode × Except Error Settings :=
  if tree.exists? path then
    (tree, do (withEnvironment env (← load env tree path)).check)
  else
    match (default env).save tree path with
    | (tree, .error error) => (tree, .error error)
    | (tree, .ok ()) => (tree, (withEnvironment env (default env)).check)

end NodeLink.Settings
