import NodeLink.Session.Board
import NodeLink.Session.Line
import NodeLink.Settings.Basic
/-!
# Sessions

One session to one node over a rehearsed network.  Calls that change it run one
at a time: each of them holds the session or waits in line for it.  A newer
call starts a new generation and thereby overtakes a connect that is under way.
Whenever the session moves to another phase it announces that to its listeners.
-/

namespace NodeLink

namespace Session

structure Options where
  connectTimeout : Duration
  refresh : Duration
  userAgent : String
  deriving DecidableEq, Repr

namespace Options

def standard : Options :=
  { connectTimeout := .ofSecs 30, refresh := .ofSecs 300, userAgent := Settings.defaultAgent }

def ofSettings (settings : Settings) : Options :=
  { connectTimeout := .ofSecs settings.connectTimeout
    refresh := .ofSecs settings.refresh
    userAgent := settings.userAgent }

end Options

end Session

open Session in
structure Session extends Board, Line where
  options : Options
  now : Instant
  holdings : Holdings
  network : Rehearsal.Network
  tasks : List Task

namespace Session

open NodeLink.Rehearsal (LinkId)

def initial (options : Options) : Session :=
  { Board.initial, Line.initial with
    options, now := 0, holdings := .none, network := .initial, tasks := [] }

def ofSettings (settings : Settings) : Except Error Session :=
  match settings.limits with
  | .error error => .error (.setup (.limits error))
  | .ok _ => .ok (initial (.ofSettings settings))

/-! ### Reading -/

def scene (session : Session) : Scene :=
  { holdings := session.holdings
    isLinkUp := session.holdings.link.any session.network.isUp
    openLinks := session.network.openLinks }

def isUp (session : Session) : Bool :=
  session.phase = .connected && session.scene.isLinkUp

def view (session : Session) : View :=
  session.toBoard.view session.scene

/-! ### Phases -/

def moveTo (session : Session) (phase : Phase) : Session :=
  { session with toBoard := session.toBoard.moveTo session.scene phase }

def comeDown (session : Session) : Session :=
  { session with toBoard := session.toBoard.comeDown session.scene }

/-! ### Holdings -/

def setProfile (session : Session) (profile : Option Profile) : Session :=
  { session with holdings := { session.holdings with profile } }

def halted (tasks : List Task) (id? : Option TaskId) : List Task :=
  match id? with
  | none => tasks
  | some id => tasks.modify id fun task => { task with live := false }

def stopRefresh (session : Session) : Session :=
  { session with
    holdings := { session.holdings with task := none }
    tasks := halted session.tasks session.holdings.task }

/-- The task that keeps resolving the entries of a session, which has just
resolved them; without entries or an interval there is nothing to do. -/
def refreshTask? (session : Session) (link : LinkId) (entries : List String) : Option Task :=
  let interval := session.options.refresh.nanos
  if entries.isEmpty || interval == 0 then none
  else some { link, entries, interval, due := session.now + interval, live := true }

def startRefresh (session : Session) (link : LinkId) (entries : List String) : Session :=
  let task? := session.refreshTask? link entries
  { session with
    holdings := { session.holdings with task := task?.map fun _ => session.tasks.length }
    tasks := session.tasks ++ task?.toList }

def dropLink (session : Session) : Session :=
  { session with
    holdings := { session.holdings with link := none, task := none }
    tasks := halted session.tasks session.holdings.task
    network := session.network.release session.holdings.link }

end Session

end NodeLink
