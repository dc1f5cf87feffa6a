import NodeLink.Rehearsal.Cue
/-!
# Interplay

A rehearsed network that several parties use at once.  Cues and calls come in any order, and
between the start of a dial and its end anything else may happen.  What happened is kept, with
what came of it.
-/

namespace NodeLink.Rehearsal

open NodeLink.Link (Terms)

namespace Interplay

inductive Move
  | cue (given : Cue)
  | bind (terms : Terms)
  | call (link : LinkId) (call : Call)
  | endDial (number : Nat)
  deriving DecidableEq, Repr

inductive Event
  | cued (given : Cue)
  | bound (terms : Terms) (result : Except Link.Error LinkId)
  | called (link : LinkId) (call : Call)
  | resolved (link : LinkId) (entry : String) (result : Except Link.Error (List Address.Socket))
  | dialed (link : LinkId) (result : Except Link.Error Unit)
  | answered (link : LinkId) (protocol : String) (result : Except Link.Error (List UInt8))

/-- A dial under way, and whether it is to fail. -/
structure Dial where
  link : LinkId
  failure : Option String
  deriving DecidableEq, Repr

end Interplay

open Interplay in
structure Interplay where
  network : Network
  dials : List Dial
  past : List Event

namespace Interplay

def initial : Interplay := ⟨.initial, [], []⟩

def note (interplay : Interplay) (events : List Event) (network : Network) : Interplay :=
  { interplay with network, past := interplay.past ++ events }

/-- A call on a link.  All but dials are over as soon as they are made. -/
def make (interplay : Interplay) (id : LinkId) (call : Call) : Interplay :=
  match call with
  | .resolve entry =>
    let (network, result) := interplay.network.resolve id entry
    interplay.note [.called id call, .resolved id entry result] network
  | .dial target =>
    let (network, _, failure) := interplay.network.startDial id target
    { interplay.note [.called id call] network with dials := interplay.dials ++ [⟨id, failure⟩] }
  | .request protocol payload =>
    let (network, result) := interplay.network.request id protocol payload
    interplay.note [.called id call, .answered id protocol result] network
  | .close => interplay.note [.called id call] (interplay.network.close id)

/-- One of the dials under way comes to its end.  Nothing here decides when: a dial that is
delayed ends behind whatever happens meanwhile, and one that nobody waits for any more never. -/
def endDial (interplay : Interplay) (number : Nat) : Interplay :=
  match interplay.dials[number]? with
  | none => interplay
  | some dial =>
    let (network, result) := interplay.network.endDial dial.link dial.failure
    { interplay.note [.dialed dial.link result] network with
      dials := interplay.dials.eraseIdx number }

/-- Nobody can make calls on a link that is not bound. -/
def perform (interplay : Interplay) (move : Move) : Interplay :=
  match move with
  | .cue given => interplay.note [.cued given] (interplay.network.cue given)
  | .bind terms =>
    let (network, result) := interplay.network.bind terms
    interplay.note [.bound terms result] network
  | .call id call =>
    if id < interplay.network.links.length then interplay.make id call else interplay
  | .endDial number => interplay.endDial number

def run (moves : List Move) : Interplay :=
  moves.foldl perform initial

end Interplay

end NodeLink.Rehearsal
