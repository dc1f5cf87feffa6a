import NodeLink.Link.Limits
import NodeLink.FileTree
import NodeLink.Text.Blank
/-!
# Settings

What a client can be tuned with: where it keeps its state, how long it waits,
how often it refreshes discovery, and how it names itself.  Settings may be
held without being usable; `Settings.check` says what keeps them from it.
-/

namespace NodeLink

open NodeLink.Text

structure Settings where
  dataDir : String
  connectTimeout : Nat
  requestTimeout : Nat
  refresh : Nat
  maxResponse : Nat
  userAgent : String
  deriving DecidableEq, Repr

/-- The variables of an environment that settings depend on.  Where `home` is
missing or empty, the home of the account stands in for it. -/
structure Environment where
  home : Option String
  accountHome : Option String
  dataDir : Option String
  connectTimeout : Option String
  requestTimeout : Option String
  deriving DecidableEq, Repr

def Environment.homeDir? (env : Environment) : Option String :=
  (env.home.filter (· ≠ "")).or env.accountHome

namespace Settings

def defaultAgent : String := "warpnet-bridge/0.1.0"

def stateDirectory : String := ".warpnet"

def default (env : Environment) : Settings :=
  { dataDir := match env.homeDir? with
      | some home => Path.join home stateDirectory
      | none => stateDirectory
    connectTimeout := 30
    requestTimeout := 30
    refresh := 300
    maxResponse := 4194304
    userAgent := defaultAgent }

inductive Flaw
  | blankDataDir
  | zero (field : String)
  | smallResponse (given : Nat)
  | blankUserAgent
  deriving DecidableEq, Repr

def leastResponse : Nat := 1024

def Flaw.message : Flaw → String
  | .blankDataDir => "invalid configuration: data_dir must not be empty"
  | .zero field => "invalid configuration: " ++ field ++ " must be non-zero"
  | .smallResponse given =>
    "invalid configuration: max_response_bytes must be at least " ++ toString leastResponse ++
      ", got " ++ toString given
  | .blankUserAgent => "invalid configuration: user_agent must not be empty"

def flaw? (settings : Settings) : Option Flaw :=
  if isBlankText settings.dataDir then some .blankDataDir
  else if settings.connectTimeout = 0 then some (.zero "connect_timeout_secs")
  else if settings.requestTimeout = 0 then some (.zero "request_timeout_secs")
  else if settings.refresh = 0 then some (.zero "bootstrap_refresh_secs")
  else if settings.maxResponse < leastResponse then some (.smallResponse settings.maxResponse)
  else if isBlankText settings.userAgent then some .blankUserAgent
  else none

/-- The data directory, with the home directory in the place of a `~` at its
front. -/
def dataPath (env : Environment) (settings : Settings) : String :=
  match settings.dataDir.toList with
  | '~' :: '/' :: rest =>
    match env.homeDir? with
    | some home => Path.join home (String.ofList rest)
    | none => settings.dataDir
  | _ => settings.dataDir

def limits (settings : Settings) : Except Link.Limits.Error Link.Limits :=
  { Link.Limits.standard with
    connectTimeout := .ofSecs settings.connectTimeout
    requestTimeout := .ofSecs settings.requestTimeout
    maxResponse := settings.maxResponse : Link.Limits }.check

end Settings

end NodeLink
