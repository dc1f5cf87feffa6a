import Mathlib.Logic.Relation
import NodeLink.Proofs.Rehearsal.Network
import NodeLink.Proofs.Session.Line
import NodeLink.Proofs.Session.Roster
import NodeLink.Session.Run
/-!
# Turns and deeds

All that the call which holds a session may do when it goes on is a turn, and
every act comes down to some deeds, a turn being one of them.  Later arguments
about the life of a session go through turns and deeds one by one and do not
look into the stages of calls again.
-/

namespace NodeLink.Session

open NodeLink.Rehearsal (Network LinkId Script Target)

/-- What keeps a connect from getting a link. -/
def obstacle? (script : Script) (profile : Profile) : Option Error :=
  match profile.flaw? with
  | some flaw => some (.invalidProfile flaw)
  | none => (script.bindFault? (termsOf profile)).map fun error => .setup (.link error)

def Stage.link? : Stage → Option LinkId
  | .bound link _ => some link
  | .dialing dial => some dial.link
  | .answered link _ => some link
  | _ => none

inductive Setback (session : Session) (profile : Profile) : Stage → Error → Prop
  | noTarget {link : LinkId} {deadline : Instant} {error : Error}
      (htarget : targetOf profile = .error error) :
      Setback session profile (.bound link deadline) error
  | closed {dial : Dial} (hwake : dial.wake ≤ session.now)
      (hclosed : session.network.isOpen dial.link = false) :
      Setback session profile (.dialing dial) (.handshake (.link .notConnected))
  | dialFailed {dial : Dial} {reason : String} (hwake : dial.wake ≤ session.now)
      (hopen : session.network.isOpen dial.link = true) (hfailure : dial.failure = some reason) :
      Setback session profile (.dialing dial) (.handshake (.link (.dialFailed reason)))
  | timedOut {dial : Dial} (hwake : session.now < dial.wake)
      (hdeadline : dial.deadline ≤ session.now) :
      Setback session profile (.dialing dial)
        (.handshake (.timedOut session.options.connectTimeout))
  | turnedDown {link : LinkId} {fault : HandshakeFault} :
      Setback session profile (.answered link (.error fault)) (.handshake fault)

theorem Setback.exists_link {session : Session} {profile : Profile} {stage : Stage}
    {error : Error} (hsetback : Setback session profile stage error) :
    ∃ link, stage.link? = some link := by
  cases hsetback with
  | noTarget | closed | dialFailed | timedOut | turnedDown => exact ⟨_, rfl⟩

theorem obstacle?_ne_superseded {script : Script} {profile : Profile} {error : Error}
    (hobstacle : obstacle? script profile = some error) : error ≠ .superseded := by
  unfold obstacle? at hobstacle
  cases hflaw : profile.flaw? with
  | some flaw =>
      simp only [hflaw, Option.some.injEq] at hobstacle
      simp [← hobstacle]
  | none =>
      simp only [hflaw, Option.map_eq_some_iff] at hobstacle
      obtain ⟨fault, -, rfl⟩ := hobstacle
      simp

theorem targetOf_ne_superseded {profile : Profile} {error : Error}
    (htarget : targetOf profile = .error error) : error ≠ .superseded := by
  unfold targetOf at htarget
  cases hhint : profile.preferred? with
  | none =>
      simp only [hhint, Except.error.injEq] at htarget
      simp [← htarget]
  | some hint =>
      cases haddress : Address.read hint.address with
      | error fault =>
          simp only [hhint, haddress, Except.error.injEq] at htarget
          simp [← htarget]
      | ok address => simp [hhint, haddress] at htarget

theorem Setback.ne_superseded {session : Session} {profile : Profile} {stage : Stage}
    {error : Error} (hsetback : Setback session profile stage error) : error ≠ .superseded := by
  cases hsetback with
  | noTarget htarget => exact targetOf_ne_superseded htarget
  | closed | dialFailed | timedOut | turnedDown => simp

inductive Turn (session : Session) (id : CallId) (call : Call) : Session → Prop
  /-- An overtaken connect leaves the cleaning to a newer call. -/
  | overtaken {profile : Profile} (hrequest : call.request = .connect profile)
      (hstage : call.stage = .queued ∨ call.stage.link?.isSome = true)
      (hovertaken : session.isOvertaken call = true) :
      Turn session id call (session.finish id (.error .superseded))
  | refused {profile : Profile} (hrequest : call.request = .connect profile)
      (hstage : call.stage = .queued) (hnewest : session.isOvertaken call = false)
      (hshut : session.isShutDown = true) :
      Turn session id call (session.finish id (.error (.setup .shutDown)))
  | cleared (hstage : call.stage = .queued)
      (hgoes : ∀ profile, call.request = .connect profile →
        session.isOvertaken call = false ∧ session.isShutDown = false) :
      Turn session id call (session.dropLink.setStage id .cleared)
  | left {profile : Profile} (hrequest : call.request = .connect profile)
      (hstage : call.stage = .cleared) (hovertaken : session.isOvertaken call = true) :
      Turn session id call ((session.startOver profile).finish id (.error .superseded))
  | hindered {profile : Profile} {error : Error} (hrequest : call.request = .connect profile)
      (hstage : call.stage = .cleared) (hnewest : session.isOvertaken call = false)
      (hobstacle : obstacle? session.network.script profile = some error)
      (binds : List Link.Terms) :
      Turn session id call
        ({ session.startOver profile with network := { session.network with binds } }.giveUp id
          error)
  | bound {profile : Profile} (hrequest : call.request = .connect profile)
      (hstage : call.stage = .cleared) (hnewest : session.isOvertaken call = false)
      (hobstacle : obstacle? session.network.script profile = none)
      (binds : List Link.Terms) :
      Turn session id call
        ({ session.startOver profile with
            network := { session.network with
              binds
              links := session.network.links ++
                [Rehearsal.Link.bound Service.protocols] } }.adopt id profile
          session.network.links.length)
  | failed {profile : Profile} {error : Error} (hrequest : call.request = .connect profile)
      (hnewest : session.isOvertaken call = false)
      (hsetback : Setback session profile call.stage error) :
      Turn session id call (session.giveUp id error)
  | dialed {profile : Profile} {link : LinkId} {deadline : Instant} {target : Target}
      (hrequest : call.request = .connect profile) (hstage : call.stage = .bound link deadline)
      (hnewest : session.isOvertaken call = false) (htarget : targetOf profile = .ok target) :
      Turn session id call
        ({ session with network := session.network.record link (.dial target) }.setStage id
          (.dialing
            { link
              failure := session.network.script.dialFailure
              wake := session.now + session.network.script.delay.nanos
              deadline }))
  | signedIn {profile : Profile} {dial : Dial} (hrequest : call.request = .connect profile)
      (hstage : call.stage = .dialing dial) (hnewest : session.isOvertaken call = false)
      (hwake : dial.wake ≤ session.now) (hfailure : dial.failure = none)
      (hopen : session.network.isOpen dial.link = true) :
      Turn session id call
        ({ session with
            network := session.network.modify dial.link fun link =>
              { link with dialed := true, lost := false } }.signIn id profile dial.link)
  | connected {profile : Profile} {link : LinkId} (hrequest : call.request = .connect profile)
      (hstage : call.stage = .answered link (.ok ()))
      (hnewest : session.isOvertaken call = false) :
      Turn session id call
        (((session.startRefresh link profile.bootstrap).moveTo .connected).finish id (.ok ()))
  | fell {profile : Profile} {error : Error} (hrequest : call.request = .connect profile)
      (hstage : call.stage = .dropped error) :
      Turn session id call ((session.moveTo .failed).finish id (.error error))
  | ended (hrequest : call.request = .disconnect) (hstage : call.stage = .cleared) :
      Turn session id call (session.endSession id)
  | shutDown (hrequest : call.request = .shutdown) (hstage : call.stage = .cleared) :
      Turn session id call
        { session.endSession id with toBoard := (session.endSession id).toBoard.dismiss }

variable {session : Session} {id : Nat} {call : Call} {profile : Profile}

theorem turn_setUp (hrequest : call.request = .connect profile) (hstage : call.stage = .cleared)
    (hnewest : session.isOvertaken call = false) :
    Turn session id call ((session.startOver profile).setUp id profile) := by
  have hscript : (session.startOver profile).network = session.network := rfl
  unfold setUp
  cases hflaw : profile.flaw? with
  | some flaw =>
      have hobstacle : obstacle? session.network.script profile =
          some (.invalidProfile flaw) := by
        simp [obstacle?, hflaw]
      exact .hindered hrequest hstage hnewest hobstacle session.network.binds
  | none =>
      simp only [hscript]
      cases hbind : session.network.bind (termsOf profile) with
      | mk network result =>
          cases result with
          | error error =>
              obtain ⟨hfault, rfl⟩ := Network.bind_eq_error hbind
              have hobstacle : obstacle? session.network.script profile =
                  some (.setup (.link error)) := by
                simp [obstacle?, hflaw, hfault]
              exact .hindered hrequest hstage hnewest hobstacle _
          | ok link =>
              obtain ⟨hfault, rfl, rfl⟩ := Network.bind_eq_ok hbind
              have hobstacle : obstacle? session.network.script profile = none := by
                simp [obstacle?, hflaw, hfault]
              exact .bound hrequest hstage hnewest hobstacle _

theorem turn_startDial {link : LinkId} {deadline : Instant}
    (hrequest : call.request = .connect profile) (hstage : call.stage = .bound link deadline)
    (hnewest : session.isOvertaken call = false) :
    Turn session id call (session.startDial id profile link deadline) := by
  unfold startDial
  cases htarget : targetOf profile with
  | error error =>
      refine .failed hrequest hnewest ?_
      rw [hstage]
      exact .noTarget htarget
  | ok target => exact .dialed hrequest hstage hnewest htarget

/-- A call that can go on: it has not ended and does not wait for a dial. -/
def IsReady (session : Session) (call : Call) : Prop :=
  call.stage.isDone = false ∧
    ∀ dial, call.stage = .dialing dial → session.isOvertaken call = true ∨
      dial.wake ≤ session.now ∨ dial.deadline ≤ session.now

theorem turn_endDial {dial : Dial} (hrequest : call.request = .connect profile)
    (hstage : call.stage = .dialing dial) (hnewest : session.isOvertaken call = false)
    (hready : dial.wake ≤ session.now ∨ dial.deadline ≤ session.now) :
    Turn session id call (session.endDial id profile dial) := by
  unfold endDial
  split
  next hwake =>
    cases hopen : session.network.isOpen dial.link with
    | false =>
        have hdial : session.network.endDial dial.link dial.failure =
            (session.network, .error .notConnected) := by
          simp [Network.endDial, hopen]
        rw [hdial]
        refine .failed hrequest hnewest ?_
        rw [hstage]
        exact .closed hwake hopen
    | true =>
        cases hfailure : dial.failure with
        | some reason =>
            have hdial : session.network.endDial dial.link (some reason) =
                (session.network, .error (.dialFailed reason)) := by
              simp [Network.endDial, hopen]
            rw [hdial]
            refine .failed hrequest hnewest ?_
            rw [hstage]
            exact .dialFailed hwake hopen hfailure
        | none =>
            simp only [Network.endDial, hopen, if_true]
            exact .signedIn hrequest hstage hnewest hwake hfailure hopen
  next hwake =>
    have hdeadline := hready.resolve_left hwake
    rw [if_pos hdeadline]
    refine .failed hrequest hnewest ?_
    rw [hstage]
    exact .timedOut (Nat.lt_of_not_le hwake) hdeadline

theorem turn_advanceConnect (hrequest : call.request = .connect profile)
    (hready : session.IsReady call) :
    Turn session id call (session.advanceConnect id call profile) := by
  have hworks : ∀ link, call.stage.link? = some link → session.isOvertaken call = true →
      Turn session id call (session.finish id (.error .superseded)) := by
    intro link hlink hovertaken
    exact .overtaken hrequest (.inr (Option.isSome_of_eq_some hlink)) hovertaken
  unfold advanceConnect
  cases hstage : call.stage with
  | queued =>
      simp only [beginConnect]
      split
      next hovertaken => exact .overtaken hrequest (.inl hstage) hovertaken
      next hnewest =>
        rw [Bool.not_eq_true] at hnewest
        split
        next hshut => exact .refused hrequest hstage hnewest hshut
        next hshut =>
          exact .cleared hstage fun _ _ => ⟨hnewest, Bool.not_eq_true _ ▸ hshut⟩
  | cleared =>
      have hkept : (session.startOver profile).isOvertaken call =
          session.isOvertaken call := rfl
      simp only [hkept]
      split
      next hovertaken => exact .left hrequest hstage hovertaken
      next hnewest => exact turn_setUp hrequest hstage (Bool.not_eq_true _ ▸ hnewest)
  | bound link deadline =>
      simp only
      split
      next hovertaken => exact hworks link (by rw [hstage]; rfl) hovertaken
      next hnewest => exact turn_startDial hrequest hstage (Bool.not_eq_true _ ▸ hnewest)
  | dialing dial =>
      simp only
      split
      next hovertaken => exact hworks dial.link (by rw [hstage]; rfl) hovertaken
      next hnewest =>
        exact turn_endDial hrequest hstage (Bool.not_eq_true _ ▸ hnewest)
          ((hready.2 dial hstage).resolve_left hnewest)
  | answered link verdict =>
      simp only
      split
      next hovertaken => exact hworks link (by rw [hstage]; rfl) hovertaken
      next hnewest =>
        rw [Bool.not_eq_true] at hnewest
        cases verdict with
        | error fault =>
            refine .failed hrequest hnewest ?_
            rw [hstage]
            exact .turnedDown
        | ok _ => exact .connected hrequest hstage hnewest
  | dropped error => exact .fell hrequest hstage
  | done result =>
      have hdone := hready.1
      simp [hstage, Stage.isDone] at hdone

theorem advanceConnect_of_not_isReady (hready : ¬ session.IsReady call) :
    session.advanceConnect id call profile = session := by
  unfold advanceConnect
  cases hstage : call.stage with
  | dialing dial =>
      have hwaits : ¬ (session.isOvertaken call = true ∨ dial.wake ≤ session.now ∨
          dial.deadline ≤ session.now) := by
        intro hgoes
        refine hready ⟨by rw [hstage]; rfl, ?_⟩
        intro other hother
        obtain rfl : dial = other := Stage.dialing.inj (hstage.symm.trans hother)
        exact hgoes
      simp only [not_or] at hwaits
      simp only [if_neg hwaits.1, endDial, if_neg hwaits.2.1, if_neg hwaits.2.2]
  | done result => rfl
  | queued | cleared | bound | answered | dropped =>
      exact absurd ⟨by rw [hstage]; rfl, by simp [hstage]⟩ hready

theorem turn_of_isReady (hcall : session.calls[id]? = some call)
    (hholder : session.holder = some id) (hrequest : call.request = .connect profile)
    (hready : session.IsReady call) : Turn session id call (session.advance id) := by
  have hadvance : session.advance id = session.advanceConnect id call profile := by
    simp [advance, hcall, hholder, hrequest]
  rw [hadvance]
  exact turn_advanceConnect hrequest hready

/-- A call that goes on either rests or holds the session and takes a turn. -/
theorem advance_eq_self_or_turn (session : Session) (id : Nat) :
    session.advance id = session ∨
      ∃ call, session.calls[id]? = some call ∧ session.holder = some id ∧
        Turn session id call (session.advance id) := by
  unfold advance
  cases hcall : session.calls[id]? with
  | none => exact .inl rfl
  | some call =>
      simp only
      split
      next hholder =>
        cases hrequest : call.request with
        | connect profile =>
            by_cases hready : session.IsReady call
            · exact .inr ⟨call, rfl, hholder, turn_advanceConnect hrequest hready⟩
            · exact .inl (advanceConnect_of_not_isReady hready)
        | disconnect =>
            simp only [advanceDisconnect]
            cases hstage : call.stage with
            | queued => exact .inr ⟨call, rfl, hholder, .cleared hstage (by simp [hrequest])⟩
            | cleared => exact .inr ⟨call, rfl, hholder, .ended hrequest hstage⟩
            | bound | dialing | answered | dropped | done => exact .inl rfl
        | shutdown =>
            simp only [advanceShutdown]
            cases hstage : call.stage with
            | queued => exact .inr ⟨call, rfl, hholder, .cleared hstage (by simp [hrequest])⟩
            | cleared => exact .inr ⟨call, rfl, hholder, .shutDown hrequest hstage⟩
            | bound | dialing | answered | dropped | done => exact .inl rfl
      next => exact .inl rfl

/-- What is left to calls while no connect has begun: a call ends at once, clears away the
session or ends it. -/
inductive PlainTurn (session : Session) (id : CallId) (call : Call) : Session → Prop
  | overtaken {profile : Profile} (hrequest : call.request = .connect profile)
      (hovertaken : session.isOvertaken call = true) :
      PlainTurn session id call (session.finish id (.error .superseded))
  | refused {profile : Profile} (hrequest : call.request = .connect profile)
      (hshut : session.isShutDown = true) :
      PlainTurn session id call (session.finish id (.error (.setup .shutDown)))
  | cleared (hgoes : ∀ profile, call.request = .connect profile →
        session.isOvertaken call = false ∧ session.isShutDown = false) :
      PlainTurn session id call (session.dropLink.setStage id .cleared)
  | ended (hrequest : call.request = .disconnect) (hstage : call.stage = .cleared) :
      PlainTurn session id call (session.endSession id)
  | shutDown (hrequest : call.request = .shutdown) (hstage : call.stage = .cleared) :
      PlainTurn session id call
        { session.endSession id with toBoard := (session.endSession id).toBoard.dismiss }

theorem Turn.plain {later : Session} (hturn : Turn session id call later)
    (hqueued : ∀ profile, call.request = .connect profile → call.stage = .queued) :
    PlainTurn session id call later := by
  cases hturn with
  | overtaken hrequest _ hovertaken => exact .overtaken hrequest hovertaken
  | refused hrequest _ _ hshut => exact .refused hrequest hshut
  | cleared _ hgoes => exact .cleared hgoes
  | ended hrequest hstage => exact .ended hrequest hstage
  | shutDown hrequest hstage => exact .shutDown hrequest hstage
  | left hrequest hstage | hindered hrequest hstage | bound hrequest hstage
  | dialed hrequest hstage | signedIn hrequest hstage | connected hrequest hstage
  | fell hrequest hstage => simp [hqueued _ hrequest] at hstage
  | failed hrequest _ hsetback =>
      obtain ⟨link, hlink⟩ := hsetback.exists_link
      simp [hqueued _ hrequest, Stage.link?] at hlink

theorem Turn.calls_eq {later : Session} (hturn : Turn session id call later) :
    ∃ change : Call → Call, later.calls = session.calls.modify id change ∧
      ∀ call, (change call).request = call.request := by
  cases hturn with
  | overtaken | refused | cleared | left | hindered | failed | dialed | signedIn | connected
  | fell | ended | shutDown => exact ⟨_, rfl, fun _ => rfl⟩
  | bound => exact ⟨_, rfl, fun _ => rfl⟩

theorem Turn.getElem?_of_ne {later : Session} (hturn : Turn session id call later) {other : Nat}
    (hother : other ≠ id) : later.calls[other]? = session.calls[other]? := by
  obtain ⟨change, hcalls, -⟩ := hturn.calls_eq
  rw [hcalls]
  exact List.getElem?_modify_ne _ _ (Ne.symm hother)

theorem Turn.length_eq {later : Session} (hturn : Turn session id call later) :
    later.calls.length = session.calls.length := by
  obtain ⟨change, hcalls, -⟩ := hturn.calls_eq
  rw [hcalls, List.length_modify]

/-- No call is lost by a turn, and none changes what it asks for. -/
theorem Turn.exists_call {later : Session} (hturn : Turn session id call later) {other : Nat}
    {former : Call} (hformer : session.calls[other]? = some former) :
    ∃ next, later.calls[other]? = some next ∧ next.request = former.request := by
  obtain ⟨change, hcalls, hkept⟩ := hturn.calls_eq
  rw [hcalls, List.getElem?_modify, hformer]
  refine ⟨_, rfl, ?_⟩
  split
  next => exact hkept former
  next => rfl

theorem Turn.isShutDown_eq {later : Session} (hturn : Turn session id call later) :
    later.isShutDown = session.isShutDown := by
  cases hturn with
  | overtaken | refused | cleared | left | hindered | bound | failed | dialed | signedIn
  | connected | fell | ended | shutDown => rfl

theorem script_release (network : Network) (id? : Option LinkId) :
    (network.release id?).script = network.script := by
  cases id? with
  | none => rfl
  | some id => exact (network.agreesOff_close id).script

/-- What a turn does to the network: nothing, closing the link that the session holds,
working on the link of the call, or binding a link and resolving entries on it. -/
inductive Touches (session : Session) (call : Call) : Network → Prop
  | nothing : Touches session call session.network
  | released (binds : List Link.Terms) :
      Touches session call ({ session.network with binds }.release session.holdings.link)
  | worked {link : LinkId} {later : Network} (hworks : call.stage.link? = some link)
      (hnewest : session.isOvertaken call = false)
      (hagrees : session.network.AgreesOff link later) : Touches session call later
  | bound (hstage : call.stage = .cleared) (binds : List Link.Terms) (entries : List String) :
      Touches session call
        ({ session.network with
            binds
            links := session.network.links ++
              [Rehearsal.Link.bound Service.protocols] }.resolveEach
          session.network.links.length entries)

theorem Turn.touches {later : Session} (hturn : Turn session id call later) :
    Touches session call later.network := by
  cases hturn with
  | overtaken | refused | left | connected | fell | ended | shutDown => exact .nothing
  | cleared | failed => exact .released session.network.binds
  | hindered _ _ _ _ binds => exact .released binds
  | bound _ hstage _ _ binds => exact .bound hstage binds _
  | dialed hrequest hstage hnewest htarget =>
      rename_i profile link deadline target
      have hworks : call.stage.link? = some link := by rw [hstage]; rfl
      exact .worked hworks hnewest (session.network.agreesOff_record link _)
  | signedIn hrequest hstage hnewest hwake hfailure hopen =>
      rename_i profile dial
      have hworks : call.stage.link? = some dial.link := by rw [hstage]; rfl
      have hdialed := session.network.agreesOff_modify dial.link fun link =>
        { link with dialed := true, lost := false }
      exact .worked hworks hnewest (hdialed.trans (Network.agreesOff_request _ _ _ _))

theorem Touches.script_eq {network : Network} (htouches : Touches session call network) :
    network.script = session.network.script := by
  cases htouches with
  | nothing => rfl
  | released => exact script_release _ _
  | worked _ _ hagrees => exact hagrees.script
  | bound => exact (Network.agreesOff_resolveEach _ _ _).script

theorem length_halted (tasks : List Task) (id? : Option TaskId) :
    (halted tasks id?).length = tasks.length := by
  cases id? with
  | none => rfl
  | some id => simp [halted]

theorem Turn.tasks_le {later : Session} (hturn : Turn session id call later) :
    session.tasks.length ≤ later.tasks.length := by
  cases hturn with
  | overtaken | refused | left | bound | dialed | signedIn | fell | ended | shutDown =>
      exact Nat.le_refl _
  | cleared | hindered | failed => exact Nat.le_of_eq (length_halted _ _).symm
  | connected hrequest hstage hnewest =>
      rename_i profile link
      have hgrown : session.tasks.length ≤
          (session.tasks ++ (session.refreshTask? link profile.bootstrap).toList).length := by
        simp
      exact hgrown

/-! ## Deeds -/

def sent (session : Session) (link : LinkId) (service : Service) (payload : List UInt8) :
    Session :=
  { session with network := (session.network.request link service.protocol payload).1 }

def resolved (session : Session) (id : TaskId) (task : Task) : Session :=
  { session with
    network := session.network.resolveEach task.link task.entries
    tasks := session.tasks.modify id (·.rescheduled session.now) }

/-- What acts do to a session. -/
inductive Deed (session : Session) : Session → Prop
  | issued (request : Request) : Deed session (session.issue request)
  | turned {id : Nat} {call : Call} {later : Session} (hcall : session.calls[id]? = some call)
      (hholder : session.holder = some id) (hturn : Turn session id call later) :
      Deed session later
  | sent {link : LinkId} (hphase : session.phase = .connected)
      (hlink : session.holdings.link = some link) (service : Service) (payload : List UInt8) :
      Deed session (session.sent link service payload)
  | lost {link : LinkId} (hphase : session.phase = .connected)
      (hlink : session.holdings.link = some link) :
      Deed session (session.stopRefresh.moveTo .failed)
  | resolved {id : Nat} {task : Task} (htask : session.tasks[id]? = some task)
      (hlive : task.live = true) (hdue : task.due ≤ session.now) :
      Deed session (session.resolved id task)
  | waited (instant : Instant) : Deed session (session.wait instant)
  | cued (cue : Rehearsal.Cue) : Deed session (session.cue cue)
  | enrolled {roster : Roster} (hextends : session.roster.Extends roster) :
      Deed session { session with roster }

abbrev Deeds : Session → Session → Prop := Relation.ReflTransGen Deed

theorem deeds_advance (session : Session) (id : Nat) : session.Deeds (session.advance id) := by
  rcases session.advance_eq_self_or_turn id with hrest | ⟨call, hcall, hholder, hturn⟩
  · rw [hrest]
  · exact .single (.turned hcall hholder hturn)

theorem deeds_noteLoss (session : Session) (link : LinkId) :
    session.Deeds (session.noteLoss link) := by
  unfold noteLoss
  split
  next hheld => exact .single (.lost hheld.2 hheld.1)
  next => exact .refl

/-- What sending a message may do to a session. -/
inductive Sending (session : Session) (service : Service) (payload : List UInt8) :
    Session → Prop
  | refused : Sending session service payload session
  | asked {link : LinkId} (hphase : session.phase = .connected)
      (hlink : session.holdings.link = some link) :
      Sending session service payload (session.sent link service payload)
  | foundLost {link : LinkId} {error : Link.Error} (hphase : session.phase = .connected)
      (hlink : session.holdings.link = some link)
      (hanswer : (session.network.request link service.protocol payload).2 = .error error)
      (hends : error.endsConnection = true) :
      Sending session service payload ((session.sent link service payload).noteLoss link)

theorem send_of_not_connected (hphase : session.phase ≠ .connected) (service : Service)
    (payload : List UInt8) : session.send service payload = (session, .error .notConnected) :=
  if_pos hphase

theorem send_of_held {link : LinkId} (hphase : session.phase = .connected)
    (hlink : session.holdings.link = some link) (service : Service) (payload : List UInt8) :
    session.send service payload =
      match (session.network.request link service.protocol payload).2 with
      | .ok body => (session.sent link service payload, .ok body)
      | .error error =>
        (if error.endsConnection then (session.sent link service payload).noteLoss link
          else session.sent link service payload, .error (.dropped error)) := by
  simp only [send, hphase, hlink, ne_eq, not_true_eq_false, if_false, Session.sent]
  cases session.network.request link service.protocol payload with
  | mk network result =>
      cases result with
      | ok body => rfl
      | error error => rfl

theorem sending (session : Session) (service : Service) (payload : List UInt8) :
    Sending session service payload (session.send service payload).1 := by
  by_cases hphase : session.phase = .connected
  · cases hlink : session.holdings.link with
    | none =>
        have hrefused : (session.send service payload).1 = session := by
          simp [send, hphase, hlink]
        rw [hrefused]
        exact .refused
    | some link =>
        rw [send_of_held hphase hlink]
        cases hanswer : (session.network.request link service.protocol payload).2 with
        | ok body => exact .asked hphase hlink
        | error error =>
            simp only
            split
            next hends => exact .foundLost hphase hlink hanswer hends
            next => exact .asked hphase hlink
  · rw [send_of_not_connected hphase]
    exact .refused

theorem Sending.deeds {session later : Session} {service : Service} {payload : List UInt8}
    (hsending : Sending session service payload later) : session.Deeds later := by
  cases hsending with
  | refused => exact .refl
  | asked hphase hlink => exact .single (.sent hphase hlink service payload)
  | foundLost hphase hlink =>
      exact .head (.sent hphase hlink service payload) (deeds_noteLoss _ _)

/-- A refresh either rests or is that of a live task which is due. -/
theorem runTask_eq_self_or_resolved (session : Session) (id : Nat) :
    session.runTask id = session ∨
      ∃ task, session.tasks[id]? = some task ∧ task.live = true ∧ task.due ≤ session.now ∧
        session.runTask id = session.resolved id task := by
  unfold runTask
  cases htask : session.tasks[id]? with
  | none => exact .inl rfl
  | some task =>
      simp only
      split
      next hdue =>
        simp only [Bool.and_eq_true, decide_eq_true_eq] at hdue
        exact .inr ⟨task, rfl, hdue.1, hdue.2, rfl⟩
      next => exact .inl rfl

theorem deeds_runTask (session : Session) (id : Nat) : session.Deeds (session.runTask id) := by
  rcases session.runTask_eq_self_or_resolved id with hrest | ⟨task, htask, hlive, hdue, hlater⟩
  · rw [hrest]
  · rw [hlater]
    exact .single (.resolved htask hlive hdue)

theorem deeds_act (session : Session) (given : Act) : session.Deeds (session.act given) := by
  cases given with
  | issue request => exact .single (.issued request)
  | advance id => exact session.deeds_advance id
  | send service payload => exact (session.sending service payload).deeds
  | report link => exact session.deeds_noteLoss link
  | refresh id => exact session.deeds_runTask id
  | wait instant => exact .single (.waited instant)
  | cue cue => exact .single (.cued cue)
  | listen listener => exact .single (.enrolled (session.roster.extends_add listener))
  | unlisten name => exact .single (.enrolled (session.roster.extends_remove name))

theorem deeds_run (session : Session) (acts : List Act) : session.Deeds (session.run acts) := by
  induction acts generalizing session with
  | nil => exact .refl
  | cons given acts ih => exact (session.deeds_act given).trans (ih _)

theorem run_append (session : Session) (former latter : List Act) :
    session.run (former ++ latter) = (session.run former).run latter :=
  List.foldl_append

end NodeLink.Session
