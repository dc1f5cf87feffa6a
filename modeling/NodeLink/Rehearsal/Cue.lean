import NodeLink.Rehearsal.Network
/-!
# Cues

Changes of the script of a rehearsed network.  A cue counts from the moment it
is given, for the links that are bound already as well as for later ones.
-/

namespace NodeLink.Rehearsal

open NodeLink.Link (Terms)

inductive Cue
  | reply (protocol : String) (reply : Reply)
  | failBind (reason : Option String)
  | failDial (reason : Option String)
  | delayDial (delay : Option Duration)
  | unresolvable (entry : String)
  | cut
  deriving DecidableEq, Repr

namespace Script

def cue (script : Script) : Cue → Script
  | .reply protocol reply => script.setReply protocol reply
  | .failBind reason => { script with bindFailure := reason }
  | .failDial reason => { script with dialFailure := reason }
  | .delayDial delay => { script with dialDelay := delay }
  | .unresolvable entry => { script with unresolvable := entry :: script.unresolvable }
  | .cut => script

end Script

namespace Network

def cue (network : Network) (given : Cue) : Network :=
  match given with
  | .cut => network.cut
  | other => { network with script := network.script.cue other }

def callsSince (network earlier : Network) : List (LinkId × Call) :=
  (List.range network.links.length).flatMap fun id =>
    let known := ((earlier.link? id).map (·.calls.length)).getD 0
    (((network.link? id).map (·.calls.drop known)).getD []).map fun call => (id, call)

def bindsSince (network earlier : Network) : List Terms :=
  network.binds.drop earlier.binds.length

end Network

end NodeLink.Rehearsal
