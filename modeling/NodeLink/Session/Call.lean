import NodeLink.Rehearsal.Network
import NodeLink.Session.Error
/-!
# Calls and tasks

A call changes the session: it connects, disconnects or shuts it down.  Calls
run one at a time, so a call may have to wait for its turn.  From then on it
goes on in stages, and other calls may be issued between any two of them.  A
connected session keeps a task that resolves its bootstrap entries again and
again.
-/

namespace NodeLink.Session

open NodeLink.Rehearsal (LinkId)

abbrev CallId := Nat

abbrev TaskId := Nat

abbrev Instant := Nat

inductive Request
  | connect (profile : Profile)
  | disconnect
  | shutdown
  deriving DecidableEq, Repr

/-- A dial that is under way: whether it will fail, when it ends, and when the
connect gives up on it. -/
structure Dial where
  link : LinkId
  failure : Option String
  wake : Instant
  deadline : Instant
  deriving DecidableEq, Repr

/-- How far a call has come.  All calls begin in line and clear away the former
session.  A connect then binds a link, dials, signs in and is answered; where it
fails on the way it drops its link. -/
inductive Stage
  | queued
  | cleared
  | bound (link : LinkId) (deadline : Instant)
  | dialing (dial : Dial)
  | answered (link : LinkId) (verdict : Except HandshakeFault Unit)
  | dropped (error : Error)
  | done (result : Except Error Unit)

def Stage.isDone : Stage → Bool
  | .done _ => true
  | _ => false

/-- A call belongs to the generation that it started when it was issued, and
remembers the link that it has bound. -/
structure Call where
  request : Request
  generation : Nat
  link : Option LinkId
  stage : Stage

structure Task where
  link : LinkId
  entries : List String
  interval : Nat
  due : Instant
  live : Bool
  deriving DecidableEq, Repr

/-- A task that has made a round.  It keeps to its beat and skips the rounds that it has missed:
the next one is due at the first instant of the beat that is still ahead. -/
def Task.rescheduled (task : Task) (now : Instant) : Task :=
  { task with due := task.due + ((now - task.due) / task.interval + 1) * task.interval }

/-- What a session rests on: its profile, its link, and the task that refreshes
discovery. -/
structure Holdings where
  profile : Option Profile
  link : Option LinkId
  task : Option TaskId
  deriving DecidableEq, Repr

def Holdings.none : Holdings := ⟨Option.none, Option.none, Option.none⟩

end NodeLink.Session
