import NodeLink.Rehearsal.Cue
import NodeLink.Session.Schedule
/-!
# Runs

All that may happen to a session, one act after the other and in any order:
calls are issued and go on by a stage, requests are sent, requests under way
report that their link is lost, tasks come round, time passes, the network gets
its cues, and listeners come and go.  A schedule makes one run of a session; a
run in general is any list of acts.
-/

namespace NodeLink.Session

open NodeLink.Rehearsal (Cue LinkId)

inductive Act
  | issue (request : Request)
  | advance (id : CallId)
  | send (service : Service) (payload : List UInt8)
  | report (link : LinkId)
  | refresh (id : TaskId)
  | wait (instant : Instant)
  | cue (cue : Cue)
  | listen (listener : Listener)
  | unlisten (name : String)
  deriving DecidableEq, Repr

def cue (session : Session) (cue : Cue) : Session :=
  { session with network := session.network.cue cue }

def listen (session : Session) (listener : Listener) : Session :=
  { session with roster := session.roster.add listener }

def unlisten (session : Session) (name : String) : Session :=
  { session with roster := (session.roster.remove name).1 }

def act (session : Session) (act : Act) : Session :=
  match act with
  | .issue request => session.issue request
  | .advance id => session.advance id
  | .send service payload => (session.send service payload).1
  | .report link => session.noteLoss link
  | .refresh id => session.runTask id
  | .wait instant => session.wait instant
  | .cue cue => session.cue cue
  | .listen listener => session.listen listener
  | .unlisten name => session.unlisten name

def run (session : Session) (acts : List Act) : Session :=
  acts.foldl act session

end NodeLink.Session
