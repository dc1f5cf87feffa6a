import NodeLink.Session.Call
import NodeLink.Session.Phase
import NodeLink.Session.Roster
/-!
# Boards

What a session makes known: its phase, the phase that receivers hold, all that
was ever announced, and its listeners with what they took note of.  A board is
shown in a scene, which is the rest of what can be read of the session while it
makes an announcement.
-/

namespace NodeLink.Session

open NodeLink.Rehearsal (LinkId)

/-- What can be read of a session at a moment: its phase, the phase that
receivers hold, and what the session rests on. -/
structure View where
  phase : Phase
  latest : Phase
  isUp : Bool
  link : Option LinkId
  profile : Option Profile
  deriving DecidableEq, Repr

structure Scene where
  holdings : Holdings
  isLinkUp : Bool
  openLinks : List LinkId
  deriving DecidableEq, Repr

/-- What a listener notes: a phase that was announced to it, under its number,
with what it could read then, or whether it removed another listener. -/
inductive Event
  | announced (id : Nat) (listener : String) (phase : Phase) (view : View)
  | removed (listener target : String) (wasThere : Bool)
  deriving DecidableEq, Repr

structure Announcement where
  phase : Phase
  scene : Scene
  deriving DecidableEq, Repr

structure Board where
  phase : Phase
  latest : Phase
  announcements : List Announcement
  roster : Roster
  events : List Event

namespace Board

def initial : Board :=
  { phase := .initial, latest := .initial, announcements := [], roster := .empty, events := [] }

def view (board : Board) (scene : Scene) : View :=
  { phase := board.phase
    latest := board.latest
    isUp := board.phase = .connected && scene.isLinkUp
    link := scene.holdings.link
    profile := scene.holdings.profile }

def announced (board : Board) : List Phase :=
  board.announcements.map (·.phase)

def note (board : Board) (event : Event) : Board :=
  { board with events := board.events ++ [event] }

def react (board : Board) (listener : Listener) : Board :=
  match listener.reaction with
  | .observe => board
  | .add name => { board with roster := board.roster.addUnused name }
  | .remove name =>
    { board with roster := (board.roster.remove name).1 }.note
      (.removed listener.name name (board.roster.remove name).2)

def tell (scene : Scene) (phase : Phase) (entry : Nat × Listener) (board : Board) : Board :=
  (board.note (.announced entry.1 entry.2.name phase (board.view scene))).react entry.2

/-- Hands a phase to whoever receives it, and then to the listeners. -/
def announce (board : Board) (scene : Scene) (phase : Phase) : Board :=
  Registry.notify (·.roster.registry) (tell scene phase)
    { board with latest := phase, announcements := board.announcements ++ [⟨phase, scene⟩] }

def moveTo (board : Board) (scene : Scene) (phase : Phase) : Board :=
  if board.phase = phase then board else { board with phase }.announce scene phase

/-- Leaves a phase that says that a session is there or on its way. -/
def comeDown (board : Board) (scene : Scene) : Board :=
  if board.phase = .connecting ∨ board.phase = .connected then board.moveTo scene .disconnected
  else board

def dismiss (board : Board) : Board :=
  { board with roster := board.roster.clear }

end Board

end NodeLink.Session
