import NodeLink.Proofs.Rehearsal.Veil
import NodeLink.Session.Run
/-!
# Sessions behind the veil

What the operations of a session do does not depend on the secrets of the
profiles it has been given: a veil may be laid over the session before an
operation as well as after it.  The one exception is signing in, which sends the
token; there the veil has to be laid twice.
-/

namespace NodeLink.Session

open NodeLink.Rehearsal (Network LinkId veiledPayload)

/-! ## Veils -/

def Request.veiled : Request → Request
  | .connect profile => .connect profile.veiled
  | request => request

def Call.veiled (call : Call) : Call := { call with request := call.request.veiled }

def Line.veiled (line : Line) : Line := { line with calls := line.calls.map Call.veiled }

def Holdings.veiled (holdings : Holdings) : Holdings :=
  { holdings with profile := holdings.profile.map Profile.veiled }

def Scene.veiled (scene : Scene) : Scene := { scene with holdings := scene.holdings.veiled }

def View.veiled (view : View) : View := { view with profile := view.profile.map Profile.veiled }

def Event.veiled : Event → Event
  | .announced id listener phase view => .announced id listener phase view.veiled
  | event => event

def Announcement.veiled (announcement : Announcement) : Announcement :=
  { announcement with scene := announcement.scene.veiled }

def Board.veiled (board : Board) : Board :=
  { board with
    announcements := board.announcements.map Announcement.veiled
    events := board.events.map Event.veiled }

def veiled (session : Session) : Session :=
  { session with
    toBoard := session.toBoard.veiled
    toLine := session.toLine.veiled
    holdings := session.holdings.veiled
    network := session.network.veiled }

/-! ## Boards -/

namespace Board

variable (board : Board) (scene : Scene) (phase : Phase)

theorem note_veiled (event : Event) :
    (board.note event).veiled = board.veiled.note event.veiled := by
  simp [note, veiled]

theorem react_veiled (listener : Listener) :
    (board.react listener).veiled = board.veiled.react listener := by
  unfold react
  cases listener.reaction with
  | observe => rfl
  | add name => rfl
  | remove name => exact note_veiled _ _

theorem tell_veiled (entry : Nat × Listener) :
    (tell scene phase entry board).veiled = tell scene.veiled phase entry board.veiled := by
  rw [tell, react_veiled, note_veiled]
  rfl

theorem announce_veiled :
    (board.announce scene phase).veiled = board.veiled.announce scene.veiled phase := by
  have htold (entries : List (Nat × Listener)) (board : Board) :
      (entries.foldl (fun board entry => tell scene phase entry board) board).veiled =
        entries.foldl (fun board entry => tell scene.veiled phase entry board) board.veiled := by
    induction entries generalizing board with
    | nil => rfl
    | cons entry entries ih => rw [List.foldl_cons, ih, tell_veiled, List.foldl_cons]
  unfold announce Registry.notify
  rw [htold]
  simp [veiled, Announcement.veiled]

theorem moveTo_veiled :
    (board.moveTo scene phase).veiled = board.veiled.moveTo scene.veiled phase := by
  rw [moveTo, apply_ite veiled, announce_veiled]
  rfl

theorem comeDown_veiled : (board.comeDown scene).veiled = board.veiled.comeDown scene.veiled := by
  rw [comeDown, apply_ite veiled, moveTo_veiled]
  rfl

end Board

/-! ## Lines -/

namespace Line

variable (line : Line) (id : CallId)

theorem issue_veiled (request : Request) :
    (line.issue request).veiled = line.veiled.issue request.veiled := by
  have hshutdown : (request.veiled == Request.shutdown) = (request == Request.shutdown) := by
    cases request <;> rfl
  simp [issue, veiled, issued, Call.veiled, hshutdown]

theorem setStage_veiled (stage : Stage) :
    (line.setStage id stage).veiled = line.veiled.setStage id stage := by
  simp only [setStage, veiled]
  rw [map_modify]
  exact fun _ => rfl

theorem setBound_veiled (link : LinkId) (deadline : Instant) :
    (line.setBound id link deadline).veiled = line.veiled.setBound id link deadline := by
  simp only [setBound, veiled]
  rw [map_modify]
  exact fun _ => rfl

theorem finish_veiled (result : Except Error Unit) :
    (line.finish id result).veiled = line.veiled.finish id result := by
  simp only [finish, veiled, setStage]
  rw [map_modify]
  exact fun _ => rfl

end Line

/-! ## What a session shows -/

section

variable (session : Session) (id : CallId)

theorem scene_veiled : session.veiled.scene = session.scene.veiled := by
  have hup : session.network.veiled.isUp = session.network.isUp :=
    funext session.network.isUp_veiled
  simp only [scene, veiled, Scene.veiled, Holdings.veiled, hup, Network.openLinks_veiled]

theorem isUp_veiled : session.veiled.isUp = session.isUp := by
  rw [isUp, scene_veiled]
  rfl

theorem announced_veiled : session.veiled.announced = session.announced := by
  show (session.announcements.map Announcement.veiled).map _ = _
  rw [List.map_map]
  rfl

theorem result?_veiled : session.veiled.result? id = session.result? id := by
  simp only [result?, veiled, Line.veiled, List.getElem?_map]
  cases session.calls[id]? with
  | none => rfl
  | some call =>
      obtain ⟨request, generation, link, stage⟩ := call
      cases stage <;> rfl

theorem isReady_veiled : session.veiled.isReady id = session.isReady id := by
  simp only [isReady, veiled, Line.veiled, List.getElem?_map]
  cases session.calls[id]? with
  | none => rfl
  | some call =>
      obtain ⟨request, generation, link, stage⟩ := call
      cases stage <;> rfl

theorem readyCall?_veiled : session.veiled.readyCall? = session.readyCall? := by
  have hready : session.veiled.isReady = session.isReady := funext session.isReady_veiled
  rw [readyCall?, hready, readyCall?]
  simp [veiled, Line.veiled]

theorem nextTimer?_veiled : session.veiled.nextTimer? = session.nextTimer? := by
  have htimers : (session.calls.map Call.veiled).filterMap callTimer? =
      session.calls.filterMap callTimer? := List.filterMap_map
  rw [nextTimer?, nextTimer?, ← htimers]
  rfl

/-! ## Small steps -/

theorem issue_veiled (request : Request) :
    (session.issue request).veiled = session.veiled.issue request.veiled := by
  simp only [issue, veiled, Line.issue_veiled]

theorem setStage_veiled (stage : Stage) :
    (session.setStage id stage).veiled = session.veiled.setStage id stage := by
  simp only [setStage, veiled, Line.setStage_veiled]

theorem finish_veiled (result : Except Error Unit) :
    (session.finish id result).veiled = session.veiled.finish id result := by
  simp only [finish, veiled, Line.finish_veiled]

theorem moveTo_veiled (phase : Phase) :
    (session.moveTo phase).veiled = session.veiled.moveTo phase := by
  rw [moveTo, moveTo, scene_veiled]
  simp only [veiled, Board.moveTo_veiled]

theorem comeDown_veiled : session.comeDown.veiled = session.veiled.comeDown := by
  rw [comeDown, comeDown, scene_veiled]
  simp only [veiled, Board.comeDown_veiled]

theorem setProfile_veiled (profile : Option Profile) :
    (session.setProfile profile).veiled =
      session.veiled.setProfile (profile.map Profile.veiled) := rfl

theorem dropLink_veiled : session.dropLink.veiled = session.veiled.dropLink := by
  simp only [dropLink, veiled, Network.release_veiled, Holdings.veiled]

theorem stopRefresh_veiled : session.stopRefresh.veiled = session.veiled.stopRefresh := rfl

theorem startRefresh_veiled (link : LinkId) (entries : List String) :
    (session.startRefresh link entries).veiled = session.veiled.startRefresh link entries := rfl

theorem giveUp_veiled (error : Error) :
    (session.giveUp id error).veiled = session.veiled.giveUp id error := by
  rw [giveUp, setStage_veiled, dropLink_veiled]
  rfl

theorem startOver_veiled (profile : Profile) :
    (session.startOver profile).veiled = session.veiled.startOver profile.veiled := by
  rw [startOver, moveTo_veiled, setProfile_veiled, comeDown_veiled, setProfile_veiled]
  rfl

theorem adopt_veiled (profile : Profile) (link : LinkId) :
    (session.adopt id profile link).veiled = session.veiled.adopt id profile.veiled link := by
  simp only [adopt, veiled, Network.resolveEach_veiled, Line.setBound_veiled, Holdings.veiled]
  rfl

theorem endSession_veiled : (session.endSession id).veiled = session.veiled.endSession id := by
  rw [endSession, finish_veiled, moveTo_veiled, setProfile_veiled]
  rfl

theorem noteLoss_veiled (link : LinkId) :
    (session.noteLoss link).veiled = session.veiled.noteLoss link := by
  rw [noteLoss, apply_ite veiled, moveTo_veiled, stopRefresh_veiled]
  rfl

/-! ## Connecting -/

theorem targetOf_veiled (profile : Profile) : targetOf profile.veiled = targetOf profile := rfl

theorem termsOf_veiled (profile : Profile) : termsOf profile.veiled = (termsOf profile).veiled := by
  simp only [termsOf, Profile.veiled, Link.Terms.veiled, Option.map_map]
  rfl

theorem setUp_veiled (profile : Profile) :
    (session.setUp id profile).veiled = session.veiled.setUp id profile.veiled := by
  unfold setUp
  rw [Profile.flaw?_veiled, termsOf_veiled]
  cases profile.flaw? with
  | some flaw => exact giveUp_veiled session id _
  | none =>
      have hbind := session.network.bind_veiled (termsOf profile)
      have hnetwork : session.veiled.network = session.network.veiled := rfl
      rw [hnetwork, hbind]
      cases session.network.bind (termsOf profile) with
      | mk network result =>
          cases result with
          | error error => exact giveUp_veiled { session with network } id _
          | ok link => exact adopt_veiled { session with network } id profile link

theorem startDial_veiled (profile : Profile) (link : LinkId) (deadline : Instant) :
    (session.startDial id profile link deadline).veiled =
      session.veiled.startDial id profile.veiled link deadline := by
  unfold startDial
  rw [targetOf_veiled]
  cases targetOf profile with
  | error error => exact giveUp_veiled session id error
  | ok target =>
      dsimp only
      rw [setStage_veiled]
      simp only [veiled, Network.record_veiled]
      rfl

theorem conclude_veiled (profile : Profile) (link : LinkId)
    (verdict : Except HandshakeFault Unit) :
    (session.conclude id profile link verdict).veiled =
      session.veiled.conclude id profile.veiled link verdict := by
  cases verdict with
  | error fault => exact giveUp_veiled session id _
  | ok _ =>
      unfold conclude
      dsimp only
      rw [finish_veiled, moveTo_veiled, startRefresh_veiled]
      rfl

theorem beginConnect_veiled (call : Call) :
    (session.beginConnect id call).veiled = session.veiled.beginConnect id call.veiled := by
  rw [beginConnect, apply_ite veiled, apply_ite veiled, finish_veiled, finish_veiled,
    setStage_veiled, dropLink_veiled]
  rfl

theorem advanceDisconnect_veiled (call : Call) :
    (session.advanceDisconnect id call).veiled =
      session.veiled.advanceDisconnect id call.veiled := by
  obtain ⟨request, generation, link, stage⟩ := call
  cases stage with
  | queued =>
      show (session.dropLink.setStage id .cleared).veiled = _
      rw [setStage_veiled, dropLink_veiled]
      rfl
  | cleared => exact endSession_veiled session id
  | bound | dialing | answered | dropped | done => rfl

theorem advanceShutdown_veiled (call : Call) :
    (session.advanceShutdown id call).veiled = session.veiled.advanceShutdown id call.veiled := by
  obtain ⟨request, generation, link, stage⟩ := call
  cases stage with
  | queued =>
      show (session.dropLink.setStage id .cleared).veiled = _
      rw [setStage_veiled, dropLink_veiled]
      rfl
  | cleared =>
      have hended := endSession_veiled session id
      show _ = { session.veiled.endSession id with
        toBoard := (session.veiled.endSession id).toBoard.dismiss }
      rw [← hended]
      rfl
  | bound | dialing | answered | dropped | done => rfl

/-! ## Requests and tasks -/

theorem send_veiled (service : Service) (payload : List UInt8) :
    session.veiled.send service (veiledPayload service.protocol payload) =
      ((session.send service payload).1.veiled, (session.send service payload).2) := by
  unfold send
  by_cases hup : session.phase ≠ .connected
  · rw [if_pos hup]
    exact if_pos hup
  · rw [if_neg hup]
    refine (if_neg hup).trans ?_
    have hlink : session.veiled.holdings.link = session.holdings.link := rfl
    have hnetwork : session.veiled.network = session.network.veiled := rfl
    rw [hlink, hnetwork]
    cases session.holdings.link with
    | none => rfl
    | some link =>
        dsimp only
        rw [Network.request_veiled]
        cases session.network.request link service.protocol payload with
        | mk network result =>
            cases result with
            | ok body => rfl
            | error error =>
                dsimp only
                split_ifs
                · rw [noteLoss_veiled]
                  rfl
                · rfl

theorem runTask_veiled (task : TaskId) :
    (session.runTask task).veiled = session.veiled.runTask task := by
  unfold runTask
  have htasks : session.veiled.tasks = session.tasks := rfl
  rw [htasks]
  cases session.tasks[task]? with
  | none => rfl
  | some task =>
      dsimp only
      have hnow : session.veiled.now = session.now := rfl
      rw [hnow]
      split_ifs
      · simp only [veiled, Network.resolveEach_veiled]
      · rfl

theorem cue_veiled (cue : Rehearsal.Cue) : (session.cue cue).veiled = session.veiled.cue cue := by
  simp only [Session.cue, veiled, Network.cue_veiled]

end

end NodeLink.Session
