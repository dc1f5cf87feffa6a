import NodeLink.Exchange.Calls
import NodeLink.Session.Run
/-!
# Scenarios

A session driven step by step, and what is seen of it after each step.  Connects
may be started under a name and waited for later; receivers of the phase and
listeners go by names as well.
-/

namespace NodeLink.Session

open NodeLink.Link (Terms)
open NodeLink.Rehearsal (Cue LinkId)
open NodeLink.Exchange (Inquiry)

/-- A session with the names that steps go by: of connects that were started,
and of receivers, with the number of phases each of them has seen. -/
structure Scenario where
  session : Session
  started : List (String × CallId)
  receivers : List (String × Nat)

namespace Scenario

inductive Step
  | cue (cue : Cue)
  | connect (profile : Profile)
  | start (name : String) (profile : Profile)
  | join (name : String)
  | hasEnded (name : String)
  | disconnect
  | shutdown
  | send (service : Service) (payload : List UInt8)
  | ask (inquiry : Inquiry)
  | listen (listener : Listener)
  | unlisten (name : String)
  | watch (name : String)
  | look (name : String)
  | sleep (duration : Duration)
  | profile
  | openLinks
  deriving DecidableEq, Repr

inductive Answer
  | nothing
  | flag (b : Bool)
  | body (bytes : List UInt8)
  | exchanged (answer : Exchange.Answer)
  | phase (phase : Phase)
  | glance (isNew : Bool) (phase : Phase)
  | profile (profile : Option Profile)
  | links (links : List LinkId)
  deriving DecidableEq, Repr

def initial (session : Session) : Scenario := ⟨session, [], []⟩

def lookUp {α : Type} (names : List (String × α)) (name : String) : Option α :=
  (names.find? (·.1 = name)).map (·.2)

def forget {α : Type} (names : List (String × α)) (name : String) : List (String × α) :=
  names.filter (·.1 ≠ name)

def resultOf (result? : Option (Except Error Unit)) : Except Error Answer :=
  match result? with
  | some (.error error) => .error error
  | _ => .ok .nothing

def perform (scenario : Scenario) (request : Request) : Scenario × Except Error Answer :=
  let (session, result?) := scenario.session.perform request
  ({ scenario with session }, resultOf result?)

def join (scenario : Scenario) (name : String) : Scenario × Except Error Answer :=
  match lookUp scenario.started name with
  | none => (scenario, .ok .nothing)
  | some id =>
    let (session, result?) := scenario.session.join id
    ({ scenario with session, started := forget scenario.started name }, resultOf result?)

def look (scenario : Scenario) (name : String) : Scenario × Answer :=
  let announced := scenario.session.announced.length
  let isNew := (lookUp scenario.receivers name).any (· < announced)
  ({ scenario with receivers := (name, announced) :: forget scenario.receivers name },
    .glance isNew scenario.session.latest)

def run (scenario : Scenario) (step : Step) : Scenario × Except Error Answer :=
  let session := scenario.session
  match step with
  | .cue cue =>
    ({ scenario with session := session.cue cue }, .ok .nothing)
  | .connect profile => scenario.perform (.connect profile)
  | .start name profile =>
    let (session, id) := session.start (.connect profile)
    ({ scenario with session, started := (name, id) :: scenario.started }, .ok .nothing)
  | .join name => scenario.join name
  | .hasEnded name =>
    (scenario, .ok (.flag ((lookUp scenario.started name).any fun id => (session.result? id).isSome)))
  | .disconnect => scenario.perform .disconnect
  | .shutdown => scenario.perform .shutdown
  | .send service payload =>
    let (session, reply) := session.send service payload
    ({ scenario with session }, reply.map .body)
  | .ask inquiry =>
    let (session, answer) := Exchange.ask session inquiry
    ({ scenario with session }, answer.map .exchanged)
  | .listen listener =>
    ({ scenario with session := session.listen listener }, .ok .nothing)
  | .unlisten name =>
    ({ scenario with session := session.unlisten name },
      .ok (.flag (session.roster.remove name).2))
  | .watch name =>
    ({ scenario with receivers := (name, session.announced.length) :: scenario.receivers },
      .ok (.phase session.latest))
  | .look name =>
    let (scenario, answer) := scenario.look name
    (scenario, .ok answer)
  | .sleep duration => ({ scenario with session := session.sleep duration }, .ok .nothing)
  | .profile => (scenario, .ok (.profile session.holdings.profile))
  | .openLinks => (scenario, .ok (.links session.network.openLinks))

/-- What is seen after a step: the session as it is, and what happened since. -/
structure Sight where
  view : View
  events : List Event
  binds : List Terms
  calls : List (LinkId × Rehearsal.Call)

def sight (earlier scenario : Scenario) : Sight :=
  { view := scenario.session.view
    events := scenario.session.events.drop earlier.session.events.length
    binds := scenario.session.network.bindsSince earlier.session.network
    calls := scenario.session.network.callsSince earlier.session.network }

end Scenario

end NodeLink.Session
