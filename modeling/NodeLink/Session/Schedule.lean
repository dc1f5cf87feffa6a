import NodeLink.Session.Lifecycle
/-!
# Schedules

When things happen.  At one instant everything that can go on does so, calls
before tasks; then time moves straight to the next timer, and only while
somebody waits for it.
-/

namespace NodeLink.Session

def wait (session : Session) (instant : Instant) : Session :=
  { session with now := max session.now instant }

def isReady (session : Session) (id : CallId) : Bool :=
  match session.calls[id]? with
  | none => false
  | some call =>
    session.holder = some id &&
      match call.stage with
      | .done _ => false
      | .dialing dial =>
        session.isOvertaken call || dial.wake ≤ session.now || dial.deadline ≤ session.now
      | _ => true

def readyCall? (session : Session) : Option CallId :=
  (List.range session.calls.length).find? session.isReady

/-- The number of stages that a call can go through. -/
def stageCount : Nat := 6

/-- Lets calls go on until none can.  A call goes through so many stages at most,
which bounds the number of steps. -/
def settleCalls : Nat → Session → Session
  | 0, session => session
  | steps + 1, session =>
    match session.readyCall? with
    | none => session
    | some id => settleCalls steps (session.advance id)

def runTask (session : Session) (id : TaskId) : Session :=
  match session.tasks[id]? with
  | none => session
  | some task =>
    if task.live && task.due ≤ session.now then
      { session with
        network := session.network.resolveEach task.link task.entries
        tasks := session.tasks.modify id (·.rescheduled session.now) }
    else session

def runTasks (session : Session) : Session :=
  (List.range session.tasks.length).foldl runTask session

def settle (session : Session) : Session :=
  (settleCalls (stageCount * session.calls.length) session).runTasks

def callTimer? (call : Call) : Option Instant :=
  match call.stage with
  | .dialing dial => some (min dial.wake dial.deadline)
  | _ => none

def taskTimer? (task : Task) : Option Instant :=
  if task.live then some task.due else none

def nextTimer? (session : Session) : Option Instant :=
  let timers := session.calls.filterMap callTimer? ++ session.tasks.filterMap taskTimer?
  (timers.filter (session.now < ·)).min?

def result? (session : Session) (id : CallId) : Option (Except Error Unit) :=
  match session.calls[id]? with
  | some { stage := .done result, .. } => some result
  | _ => none

/-- Lets time pass until a call has ended.  Each move of time ends the dial of
some call, which bounds the number of moves. -/
def awaitCall : Nat → Session → CallId → Session
  | 0, session, _ => session
  | moves + 1, session, id =>
    if (session.result? id).isSome then session
    else
      match session.nextTimer? with
      | none => session
      | some instant => awaitCall moves (session.wait instant).settle id

def join (session : Session) (id : CallId) : Session × Option (Except Error Unit) :=
  let session := awaitCall (session.calls.length + 1) session.settle id
  (session, session.result? id)

def perform (session : Session) (request : Request) : Session × Option (Except Error Unit) :=
  (session.issue request).join session.calls.length

def start (session : Session) (request : Request) : Session × CallId :=
  ((session.issue request).settle, session.calls.length)

/-- Lets time pass up to an instant, from timer to timer.  Each move but the
last takes at least a nanosecond. -/
def sleepUntil : Nat → Session → Instant → Session
  | 0, session, instant => (session.wait instant).settle
  | moves + 1, session, instant =>
    match session.nextTimer? with
    | none => (session.wait instant).settle
    | some timer =>
      if timer < instant then sleepUntil moves (session.wait timer).settle instant
      else (session.wait instant).settle

def sleep (session : Session) (duration : Duration) : Session :=
  sleepUntil duration.nanos session.settle (session.now + duration.nanos)

end NodeLink.Session
