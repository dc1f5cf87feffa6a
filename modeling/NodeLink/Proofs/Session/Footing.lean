import NodeLink.Proofs.Session.Board
import NodeLink.Proofs.Session.Holdings
import NodeLink.Session.Run
/-!
# What a session rests on

The links that are open are the one that the session holds, the tasks that go on
are the one that it holds, and what it holds goes with its phase and with the
stage of the call that changes it.  All of this is the case at the beginning and
survives every act, so it is the case whenever anything can happen.
-/

namespace NodeLink.Session

open NodeLink.Rehearsal (Network LinkId)

/-! ## Phases -/

@[simp] theorem phase_moveTo (session : Session) (phase : Phase) :
    (session.moveTo phase).phase = phase :=
  session.toBoard.phase_moveTo session.scene phase

@[simp] theorem phase_startOver (session : Session) (profile : Profile) :
    (session.startOver profile).phase = .connecting :=
  phase_moveTo _ .connecting

@[simp] theorem phase_endSession (session : Session) (id : Nat) :
    (session.endSession id).phase = .disconnected :=
  phase_moveTo _ .disconnected

/-! ## The footing -/

/-- A session stands on its holdings. -/
structure Sound (session : Session) : Prop where
  orderly : session.toLine.Orderly
  holdsOpen : HoldsOpen session.network session.holdings
  tends : Tends session.tasks session.holdings session.phase
  owned : Owned session.calls session.holdings session.network.links.length
  fits : Fits session.phase session.holdings session.stage

theorem initial_sound (options : Options) : (initial options).Sound where
  orderly := Line.initial_orderly
  holdsOpen := by
    intro link
    simp [initial, Network.initial, Network.isOpen, Network.link?, Holdings.none]
  tends := ⟨by simp [initial], by simp [initial, Holdings.none]⟩
  owned := ⟨by simp [initial, Line.initial], by simp [initial, Line.initial],
    by simp [initial, Line.initial], by simp [initial, Line.initial]⟩
  fits := rfl

/-! ## Turns keep the footing -/

namespace Sound

variable {session : Session} {id : Nat} {call : Call}

theorem fits_call (hsound : session.Sound) (hcall : session.calls[id]? = some call)
    (hholder : session.holder = some id) :
    Fits session.phase session.holdings call.stage := by
  have hstage : session.stage = call.stage := Line.stage_eq hholder hcall
  rw [← hstage]
  exact hsound.fits

theorem profile_of_works {profile : Profile} {link : LinkId} (hsound : session.Sound)
    (hcall : session.calls[id]? = some call) (hholder : session.holder = some id)
    (hrequest : call.request = .connect profile) (hworks : call.stage.link? = some link) :
    session.holdings.profile = some profile := by
  have hbuilds := (hsound.fits_call hcall hholder).builds hworks
  have hown := hsound.owned.working id call link hcall hworks
  obtain ⟨held, hheld, hprofile⟩ :=
    hsound.owned.profile id call link hcall hown hbuilds.link_eq
  obtain rfl : held = profile := by
    rw [hrequest] at hheld
    exact (Request.connect.inj hheld).symm
  exact hprofile

theorem afterGiveUp (hsound : session.Sound) (hcall : session.calls[id]? = some call)
    (hholder : session.holder = some id) (hphase : session.phase = .connecting)
    (hprofile : session.holdings.profile.isSome = true) (error : Error) :
    (session.giveUp id error).Sound where
  orderly := hsound.orderly.afterSetStage hholder rfl
  holdsOpen := hsound.holdsOpen.release rfl
  tends := hsound.tends.halt rfl _
  owned := by
    have hsize := size_release session.network session.holdings.link
    have howned : Owned session.calls session.holdings
        (session.network.release session.holdings.link).links.length := by
      rw [hsize]
      exact hsound.owned
    exact howned.afterSetStage hcall (fun _ hlink => by simp [Stage.link?] at hlink)
      (fun hfresh => by simp [Stage.precedesLink] at hfresh) (.inl rfl)
  fits := by
    have hstage : (session.giveUp id error).stage = .dropped error :=
      Line.stage_setStage hholder hcall _
    rw [hstage]
    exact ⟨hphase, hprofile, rfl, rfl⟩

theorem afterFinish (session : Session) (horderly : session.toLine.Orderly)
    (hopen : HoldsOpen session.network session.holdings)
    (htends : Tends session.tasks session.holdings session.phase)
    (howned : Owned session.calls session.holdings session.network.links.length)
    (hcall : session.calls[id]? = some call) (hholder : session.holder = some id)
    (hrests : Rests session.phase session.holdings) (result : Except Error Unit) :
    (session.finish id result).Sound where
  orderly := horderly.afterFinish hholder result
  holdsOpen := hopen
  tends := htends
  owned := howned.afterFinish hcall result (.inr ⟨rfl, rfl⟩)
  fits := by
    have hnext : (session.finish id result).stage = .queued :=
      Line.stage_finish horderly hholder result
    rw [hnext]
    exact hrests

theorem afterStartOver (hsound : session.Sound) (hcall : session.calls[id]? = some call)
    (hholder : session.holder = some id) (hstage : call.stage = .cleared)
    (profile : Profile) : (session.startOver profile).Sound := by
  have hfits := hsound.fits_call hcall hholder
  rw [hstage] at hfits
  obtain ⟨hlink, htask, -⟩ := hfits
  have hlink' : (session.startOver profile).holdings.link = none := hlink
  have htask' : (session.startOver profile).holdings.task = none := htask
  refine ⟨hsound.orderly, hsound.holdsOpen, hsound.tends.rest htask htask' _, ?_, ?_⟩
  · exact hsound.owned.rest hlink'
  · have hheld : (session.startOver profile).stage = .cleared :=
      hstage ▸ Line.stage_eq hholder hcall
    rw [hheld, phase_startOver]
    exact ⟨hlink', htask', by simp [startOver, moveTo, setProfile]⟩

theorem afterWork {link : LinkId} {network : Network} {stage : Stage}
    (hsound : session.Sound) (hcall : session.calls[id]? = some call)
    (hholder : session.holder = some id) (hworks : call.stage.link? = some link)
    (hsize : network.links.length = session.network.links.length)
    (hopen : ∀ other : Nat, network.isOpen other = session.network.isOpen other)
    (hstage : stage.link? = some link) :
    ({ session with network }.setStage id stage).Sound where
  orderly := by
    apply hsound.orderly.afterSetStage hholder
    cases stage with
    | done => simp [Stage.link?] at hstage
    | queued | cleared | bound | dialing | answered | dropped => rfl
  holdsOpen := hsound.holdsOpen.of_isOpen_eq hopen
  tends := hsound.tends
  owned := by
    have howned : Owned session.calls session.holdings network.links.length := by
      rw [hsize]
      exact hsound.owned
    refine howned.afterSetStage hcall ?_ ?_ (.inr ⟨rfl, rfl⟩)
    · intro worked hworked
      apply hsound.owned.working id call worked hcall
      rw [hworks, ← hstage, hworked]
    · intro hfresh
      cases stage with
      | queued | cleared => simp [Stage.link?] at hstage
      | bound | dialing | answered | dropped | done => simp [Stage.precedesLink] at hfresh
  fits := by
    have hnext : ({ session with network }.setStage id stage).stage = stage :=
      Line.stage_setStage hholder hcall stage
    rw [hnext]
    exact ((hsound.fits_call hcall hholder).builds hworks).fits hstage

theorem afterBind {profile : Profile} (hsound : session.Sound)
    (hcall : session.calls[id]? = some call) (hholder : session.holder = some id)
    (hrequest : call.request = .connect profile) (hlink : session.holdings.link = none)
    (htask : session.holdings.task = none) (binds : List Link.Terms) :
    ({ session.startOver profile with
        network := { session.network with
          binds
          links := session.network.links ++ [Rehearsal.Link.bound Service.protocols] } }.adopt id
      profile session.network.links.length).Sound := by
  let grown : Network := { session.network with
    binds
    links := session.network.links ++ [Rehearsal.Link.bound Service.protocols] }
  let link := session.network.links.length
  let deadline := session.now + session.options.connectTimeout.nanos
  let built := { session.startOver profile with network := grown }.adopt id profile link
  have hagrees := grown.agreesOff_resolveEach link profile.bootstrap
  have hphase : built.phase = .connecting := phase_startOver session profile
  have htask' : built.holdings.task = none := htask
  refine ⟨hsound.orderly.afterSetBound hholder link deadline, ?_,
    hsound.tends.rest htask htask' _, ?_, ?_⟩
  · have hopen : HoldsOpen grown built.holdings :=
      hsound.holdsOpen.bind hlink rfl binds Service.protocols
    exact hopen.of_isOpen_eq fun other =>
      grown.isOpen_resolveEach link other profile.bootstrap
  · have hsize : built.network.links.length = link + 1 := by
      rw [show built.network = grown.resolveEach link profile.bootstrap from rfl, hagrees.size]
      simp [grown, link]
    show Owned built.calls built.holdings built.network.links.length
    rw [hsize]
    exact hsound.owned.afterSetBound hcall hrequest rfl rfl deadline
  · have hnext : built.stage = .bound link deadline :=
      Line.stage_setBound hholder hcall link deadline
    show Fits built.phase built.holdings built.stage
    rw [hnext, hphase]
    exact ⟨rfl, rfl, rfl, htask⟩

theorem afterEndSession (hsound : session.Sound) (hcall : session.calls[id]? = some call)
    (hholder : session.holder = some id) (hstage : call.stage = .cleared) :
    (session.endSession id).Sound := by
  have hfits := hsound.fits_call hcall hholder
  rw [hstage] at hfits
  obtain ⟨hlink, htask, -⟩ := hfits
  let forgotten := (session.setProfile none).moveTo .disconnected
  have hlink' : forgotten.holdings.link = none := hlink
  have htask' : forgotten.holdings.task = none := htask
  have howned : Owned forgotten.calls forgotten.holdings forgotten.network.links.length :=
    hsound.owned.rest hlink'
  have hrests : Rests forgotten.phase forgotten.holdings := by
    rw [show forgotten.phase = .disconnected from phase_moveTo _ _]
    simp [Rests, forgotten, moveTo, setProfile, hlink, htask, Holdings.none]
  exact afterFinish forgotten hsound.orderly hsound.holdsOpen (hsound.tends.rest htask htask' _)
    howned hcall hholder hrests _

theorem afterTurn {later : Session} (hsound : session.Sound)
    (hcall : session.calls[id]? = some call) (hholder : session.holder = some id)
    (hturn : Turn session id call later) : later.Sound := by
  have hfits := hsound.fits_call hcall hholder
  cases hturn with
  | overtaken hrequest hstage hovertaken =>
      exact afterFinish session hsound.orderly hsound.holdsOpen hsound.tends hsound.owned hcall
        hholder (hfits.rests hstage) _
  | refused hrequest hstage hnewest hshut =>
      exact afterFinish session hsound.orderly hsound.holdsOpen hsound.tends hsound.owned hcall
        hholder (hfits.rests (.inl hstage)) _
  | cleared hstage hgoes =>
      refine ⟨hsound.orderly.afterSetStage hholder rfl, hsound.holdsOpen.release rfl,
        hsound.tends.halt rfl _, ?_, ?_⟩
      · have howned : Owned session.calls session.holdings
            (session.network.release session.holdings.link).links.length := by
          rw [size_release]
          exact hsound.owned
        refine howned.afterSetStage hcall (fun _ hlink => by simp [Stage.link?] at hlink) ?_
          (.inl rfl)
        intro _
        exact hsound.owned.unbound id call hcall (by rw [hstage]; rfl)
      · have hnext : (session.dropLink.setStage id .cleared).stage = .cleared :=
          Line.stage_setStage hholder hcall _
        rw [hnext]
        rw [hstage] at hfits
        exact ⟨rfl, rfl, hfits.cleared⟩
  | left hrequest hstage hovertaken =>
      rename_i profile
      have hstarted := hsound.afterStartOver hcall hholder hstage profile
      apply afterFinish _ hstarted.orderly hstarted.holdsOpen hstarted.tends hstarted.owned
        hcall hholder
      rw [hstage] at hfits
      rw [phase_startOver]
      exact ⟨rfl, hfits.2.1⟩
  | hindered hrequest hstage hnewest hobstacle binds =>
      rename_i profile error
      have hstarted := hsound.afterStartOver hcall hholder hstage profile
      have hattempted :
          { session.startOver profile with
            network := { session.network with binds } }.Sound :=
        ⟨hstarted.orderly, hstarted.holdsOpen, hstarted.tends, hstarted.owned, hstarted.fits⟩
      exact hattempted.afterGiveUp hcall hholder (phase_startOver session profile) rfl error
  | bound hrequest hstage hnewest hobstacle binds =>
      rename_i profile
      rw [hstage] at hfits
      obtain ⟨hlink, htask, -⟩ := hfits
      exact hsound.afterBind hcall hholder hrequest hlink htask binds
  | failed hrequest hnewest hsetback =>
      obtain ⟨link, hlink⟩ := hsetback.exists_link
      have hbuilds := hfits.builds hlink
      exact hsound.afterGiveUp hcall hholder hbuilds.phase_eq hbuilds.profile _
  | dialed hrequest hstage hnewest htarget =>
      rename_i profile link deadline target
      have hworks : call.stage.link? = some link := by rw [hstage]; rfl
      exact hsound.afterWork hcall hholder hworks
        (session.network.agreesOff_record link (.dial target)).size
        (fun other => session.network.isOpen_record link other _) rfl
  | signedIn hrequest hstage hnewest hwake hfailure hopen =>
      rename_i profile dial
      have hworks : call.stage.link? = some dial.link := by rw [hstage]; rfl
      let dialed := session.network.modify dial.link fun link =>
        { link with dialed := true, lost := false }
      apply hsound.afterWork hcall hholder hworks
      · exact ((session.network.agreesOff_modify dial.link _).trans
          (dialed.agreesOff_request dial.link _ _)).size
      · intro other
        rw [dialed.isOpen_request]
        exact session.network.isOpen_modify dial.link other fun _ => rfl
      · rfl
  | connected hrequest hstage hnewest =>
      rename_i profile link
      have hworks : call.stage.link? = some link := by rw [hstage]; rfl
      have hbuilds := hfits.builds hworks
      have hprofile := hsound.profile_of_works hcall hholder hrequest hworks
      let arrived := (session.startRefresh link profile.bootstrap).moveTo .connected
      have hphase : arrived.phase = .connected := phase_moveTo _ _
      have htends : Tends arrived.tasks arrived.holdings arrived.phase := by
        rw [hphase]
        exact hsound.tends.startRefresh hbuilds.task_eq hbuilds.link_eq hprofile
      have howned : Owned arrived.calls arrived.holdings arrived.network.links.length :=
        ⟨hsound.owned.lt_size, hsound.owned.profile, hsound.owned.working, hsound.owned.unbound⟩
      apply afterFinish arrived hsound.orderly hsound.holdsOpen htends howned hcall hholder
      rw [hphase]
      exact ⟨hbuilds.profile, Option.isSome_of_eq_some hbuilds.link_eq⟩
  | fell hrequest hstage =>
      rename_i profile error
      rw [hstage] at hfits
      obtain ⟨-, hprofile, hlink, htask⟩ := hfits
      have htask' : (session.moveTo .failed).holdings.task = none := htask
      apply afterFinish (session.moveTo .failed) hsound.orderly hsound.holdsOpen
        (hsound.tends.rest htask htask' _) hsound.owned hcall hholder
      rw [phase_moveTo]
      exact ⟨hprofile, htask⟩
  | ended hrequest hstage => exact hsound.afterEndSession hcall hholder hstage
  | shutDown hrequest hstage =>
      have hended := hsound.afterEndSession hcall hholder hstage
      exact ⟨hended.orderly, hended.holdsOpen, hended.tends, hended.owned, hended.fits⟩

/-! ## All deeds keep the footing -/

theorem afterTraffic {network : Network} (hsound : session.Sound)
    (hsize : network.links.length = session.network.links.length)
    (hopen : ∀ other : Nat, network.isOpen other = session.network.isOpen other) :
    { session with network }.Sound where
  orderly := hsound.orderly
  holdsOpen := hsound.holdsOpen.of_isOpen_eq hopen
  tends := hsound.tends
  owned := by
    show Owned session.calls session.holdings network.links.length
    rw [hsize]
    exact hsound.owned
  fits := hsound.fits

/-- A connected session with a link is between two calls. -/
theorem stage_of_connected (hsound : session.Sound) (hphase : session.phase = .connected)
    {link : LinkId} (hlink : session.holdings.link = some link) :
    session.stage = .queued := by
  have hfits := hsound.fits
  cases hstage : session.stage with
  | queued => rfl
  | cleared =>
      rw [hstage] at hfits
      simp [hfits.1] at hlink
  | bound | dialing | answered =>
      rw [hstage] at hfits
      simp [hfits.phase_eq] at hphase
  | dropped error =>
      rw [hstage] at hfits
      simp [hfits.1] at hphase
  | done result =>
      have hdone := hsound.orderly.not_isDone_stage
      simp [hstage, Stage.isDone] at hdone

theorem rests_of_connected (hsound : session.Sound) (hphase : session.phase = .connected)
    {link : LinkId} (hlink : session.holdings.link = some link) :
    session.holdings.profile.isSome = true := by
  have hfits := hsound.fits
  rw [hsound.stage_of_connected hphase hlink, hphase] at hfits
  exact hfits.1

theorem afterDeed {later : Session} (hsound : session.Sound) (hdeed : session.Deed later) :
    later.Sound := by
  cases hdeed with
  | issued request =>
      refine ⟨hsound.orderly.afterIssue request, hsound.holdsOpen, hsound.tends,
        hsound.owned.afterIssue request, ?_⟩
      have hstage : (session.issue request).stage = session.stage :=
        Line.stage_issue hsound.orderly request
      show Fits session.phase session.holdings (session.issue request).stage
      rw [hstage]
      exact hsound.fits
  | turned hcall hholder hturn => exact hsound.afterTurn hcall hholder hturn
  | sent hphase hlink service payload =>
      rename_i link
      exact hsound.afterTraffic (session.network.agreesOff_request link _ _).size
        fun other => session.network.isOpen_request link other _ _
  | lost hphase hlink =>
      have hprofile := hsound.rests_of_connected hphase hlink
      have hstage := hsound.stage_of_connected hphase hlink
      have howned := hsound.owned
      refine ⟨hsound.orderly, hsound.holdsOpen, hsound.tends.halt rfl _,
        ⟨howned.lt_size, howned.profile, howned.working, howned.unbound⟩, ?_⟩
      rw [phase_moveTo]
      show Fits .failed (session.stopRefresh.moveTo .failed).holdings session.stage
      rw [hstage]
      exact ⟨hprofile, rfl⟩
  | resolved htask hlive hdue =>
      rename_i id task
      have hkept := hsound.afterTraffic
        (session.network.agreesOff_resolveEach task.link task.entries).size
        fun other => session.network.isOpen_resolveEach task.link other task.entries
      exact ⟨hkept.orderly, hkept.holdsOpen, hkept.tends.reschedule id _, hkept.owned, hkept.fits⟩
  | waited instant =>
      exact ⟨hsound.orderly, hsound.holdsOpen, hsound.tends, hsound.owned, hsound.fits⟩
  | cued cue =>
      exact hsound.afterTraffic (session.network.size_cue cue)
        fun other => session.network.isOpen_cue other cue
  | enrolled hextends =>
      exact ⟨hsound.orderly, hsound.holdsOpen, hsound.tends, hsound.owned, hsound.fits⟩

theorem afterDeeds {later : Session} (hsound : session.Sound) (hdeeds : session.Deeds later) :
    later.Sound := by
  induction hdeeds with
  | refl => exact hsound
  | tail _ hdeed ih => exact ih.afterDeed hdeed

theorem afterAct (hsound : session.Sound) (given : Act) : (session.act given).Sound :=
  hsound.afterDeeds (session.deeds_act given)

end Sound

theorem sound_run (options : Options) (acts : List Act) :
    ((initial options).run acts).Sound :=
  (initial_sound options).afterDeeds (deeds_run _ acts)

/-- What a deed on a footing preserves is preserved by all that follow. -/
theorem deeds_induction {motive : Session → Prop}
    (hdeed : ∀ session later : Session, session.Sound → session.Deed later → motive session →
      motive later)
    {session later : Session} (hsound : session.Sound) (hdeeds : session.Deeds later)
    (hbase : motive session) : motive later := by
  induction hdeeds with
  | refl => exact hbase
  | tail hformer hstep ih => exact hdeed _ _ (hsound.afterDeeds hformer) hstep ih

theorem run_induction {motive : Session → Prop}
    (hdeed : ∀ session later : Session, session.Sound → session.Deed later → motive session →
      motive later)
    (options : Options) (hinitial : motive (initial options)) (acts : List Act) :
    motive ((initial options).run acts) :=
  deeds_induction hdeed (initial_sound options) (deeds_run _ acts) hinitial

end NodeLink.Session
