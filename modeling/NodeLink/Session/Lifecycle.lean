import NodeLink.Exchange.Reply
import NodeLink.Service
import NodeLink.Session.Basic
/-!
# The life of a session

How calls move a session from phase to phase.  A call is issued, waits in line
until it holds the session, and then goes on from stage to stage.  Other calls
may be issued between any two stages.  A connect that has been overtaken by a
newer call finds out when it goes on; it gives up and leaves the cleaning to
that call, which is next in line or behind it.
-/

namespace NodeLink.Session

open NodeLink.Rehearsal (Network LinkId Target)
open NodeLink.Json (Value)

/-! ### Signing in -/

def authPayload (token userAgent localName : String) : List UInt8 :=
  Text.Utf8.encode (Value.write (.object
    [ ("sessionToken", .string token), ("userAgent", .string userAgent),
      ("clientId", .string localName) ]))

def acceptance (body : List UInt8) : Except HandshakeFault Unit :=
  match Json.readBytes body with
  | .error fault => .error (.notJson fault)
  | .ok value =>
    match Exchange.signalled? value with
    | some message => .error (.rejected message)
    | none => .ok ()

def verdictOn (reply : Except Link.Error (List UInt8)) : Except HandshakeFault Unit :=
  match reply with
  | .error error => .error (.link error)
  | .ok body => acceptance body

/-! ### Calls -/

def issue (session : Session) (request : Request) : Session :=
  { session with toLine := session.toLine.issue request }

def setStage (session : Session) (id : CallId) (stage : Stage) : Session :=
  { session with toLine := session.toLine.setStage id stage }

def finish (session : Session) (id : CallId) (result : Except Error Unit) : Session :=
  { session with toLine := session.toLine.finish id result }

def giveUp (session : Session) (id : CallId) (error : Error) : Session :=
  session.dropLink.setStage id (.dropped error)

/-! ### Connecting -/

def startOver (session : Session) (profile : Profile) : Session :=
  (((session.setProfile none).comeDown).setProfile (some profile)).moveTo .connecting

/-- Rests the session on a link that was bound for a connect, and resolves the
entries at which discovery starts. -/
def adopt (session : Session) (id : CallId) (profile : Profile) (link : LinkId) : Session :=
  let deadline := session.now + session.options.connectTimeout.nanos
  { session with
    network := session.network.resolveEach link profile.bootstrap
    holdings := { session.holdings with link := some link }
    toLine := session.toLine.setBound id link deadline }

def termsOf (profile : Profile) : Link.Terms :=
  { key := profile.key.map (·.bytes), protocols := Service.protocols }

def setUp (session : Session) (id : CallId) (profile : Profile) : Session :=
  match profile.flaw? with
  | some flaw => session.giveUp id (.invalidProfile flaw)
  | none =>
    match session.network.bind (termsOf profile) with
    | (network, .error error) => { session with network }.giveUp id (.setup (.link error))
    | (network, .ok link) => { session with network }.adopt id profile link

def targetOf (profile : Profile) : Except Error Target :=
  match profile.preferred? with
  | none => .error .noAddress
  | some hint =>
    match Address.read hint.address with
    | .error error => .error (.handshake (.link error))
    | .ok address => .ok { peer := profile.peer, address }

def startDial (session : Session) (id : CallId) (profile : Profile) (link : LinkId)
    (deadline : Instant) : Session :=
  match targetOf profile with
  | .error error => session.giveUp id error
  | .ok target =>
    let script := session.network.script
    { session with network := session.network.record link (.dial target) }.setStage id
      (.dialing
        { link, failure := script.dialFailure, wake := session.now + script.delay.nanos, deadline })

def signIn (session : Session) (id : CallId) (profile : Profile) (link : LinkId) : Session :=
  let payload := authPayload profile.token session.options.userAgent (Network.localName link)
  let answer := session.network.request link Service.auth.protocol payload
  { session with network := answer.1 }.setStage id (.answered link (verdictOn answer.2))

/-- Ends a dial.  If its end and the end of the connect's time have both come,
the dial counts. -/
def endDial (session : Session) (id : CallId) (profile : Profile) (dial : Dial) : Session :=
  if dial.wake ≤ session.now then
    match session.network.endDial dial.link dial.failure with
    | (network, .error error) => { session with network }.giveUp id (.handshake (.link error))
    | (network, .ok ()) => { session with network }.signIn id profile dial.link
  else if dial.deadline ≤ session.now then
    session.giveUp id (.handshake (.timedOut session.options.connectTimeout))
  else session

def conclude (session : Session) (id : CallId) (profile : Profile) (link : LinkId)
    (verdict : Except HandshakeFault Unit) : Session :=
  match verdict with
  | .error fault => session.giveUp id (.handshake fault)
  | .ok () => ((session.startRefresh link profile.bootstrap).moveTo .connected).finish id (.ok ())

/-! ### Stages -/

/-- The first stage of a connect, which does nothing if it comes too late. -/
def beginConnect (session : Session) (id : CallId) (call : Call) : Session :=
  if session.isOvertaken call then session.finish id (.error .superseded)
  else if session.isShutDown then session.finish id (.error (.setup .shutDown))
  else session.dropLink.setStage id .cleared

def advanceConnect (session : Session) (id : CallId) (call : Call) (profile : Profile) : Session :=
  match call.stage with
  | .queued => session.beginConnect id call
  | .cleared =>
    let session := session.startOver profile
    if session.isOvertaken call then session.finish id (.error .superseded)
    else session.setUp id profile
  | .bound link deadline =>
    if session.isOvertaken call then session.finish id (.error .superseded)
    else session.startDial id profile link deadline
  | .dialing dial =>
    if session.isOvertaken call then session.finish id (.error .superseded)
    else session.endDial id profile dial
  | .answered link verdict =>
    if session.isOvertaken call then session.finish id (.error .superseded)
    else session.conclude id profile link verdict
  | .dropped error => (session.moveTo .failed).finish id (.error error)
  | .done _ => session

def endSession (session : Session) (id : CallId) : Session :=
  ((session.setProfile none).moveTo .disconnected).finish id (.ok ())

def advanceDisconnect (session : Session) (id : CallId) (call : Call) : Session :=
  match call.stage with
  | .queued => session.dropLink.setStage id .cleared
  | .cleared => session.endSession id
  | _ => session

def advanceShutdown (session : Session) (id : CallId) (call : Call) : Session :=
  match call.stage with
  | .queued => session.dropLink.setStage id .cleared
  | .cleared =>
    let session := session.endSession id
    { session with toBoard := session.toBoard.dismiss }
  | _ => session

def advance (session : Session) (id : CallId) : Session :=
  match session.calls[id]? with
  | none => session
  | some call =>
    if session.holder = some id then
      match call.request with
      | .connect profile => session.advanceConnect id call profile
      | .disconnect => session.advanceDisconnect id call
      | .shutdown => session.advanceShutdown id call
    else session

/-! ### Requests -/

/-- Takes note of a link that has lost its connection.  That concerns the session
only if it is connected and rests on that link. -/
def noteLoss (session : Session) (link : LinkId) : Session :=
  if session.holdings.link = some link ∧ session.phase = .connected then
    session.stopRefresh.moveTo .failed
  else session

def send (session : Session) (service : Service) (payload : List UInt8) :
    Session × Except Error (List UInt8) :=
  if session.phase ≠ .connected then (session, .error .notConnected)
  else
    match session.holdings.link with
    | none => (session, .error .notConnected)
    | some link =>
      match session.network.request link service.protocol payload with
      | (network, .ok body) => ({ session with network }, .ok body)
      | (network, .error error) =>
        let session := { session with network }
        let session := if error.endsConnection then session.noteLoss link else session
        (session, .error (.dropped error))

end NodeLink.Session
