import NodeLink.Proofs.Session.LiveLink
import NodeLink.Proofs.Session.Log
/-!
# What announcements rest on

Every phase that an act announces has its grounds in the session at that moment:
a call that holds the session and has come so far, or a link whose loss the act
reports.  The grounds also tell what the session holds while it announces the
phase, down to whose profile and whose link that is.
-/

namespace NodeLink.Session

open NodeLink.Rehearsal (Network LinkId)

/-! ## Whose link and whose profile -/

/-- The link of a connected session belongs to a connect that has ended well, and a
connect that has dropped its link leaves its profile and an error of its own. -/
structure Attributed (session : Session) : Prop where
  earned : ∀ link : LinkId, session.phase = .connected → session.holdings.link = some link →
    ∃ (id : Nat) (call : Call), session.calls[id]? = some call ∧ call.link = some link ∧
      call.stage = .done (.ok ())
  dropped : ∀ error, session.stage = .dropped error → error ≠ .superseded ∧
    ∃ (id : Nat) (call : Call) (profile : Profile), session.holder = some id ∧
      session.calls[id]? = some call ∧ call.request = .connect profile ∧
      session.holdings.profile = some profile

theorem initial_attributed (options : Options) : (initial options).Attributed where
  earned := by
    intro link hphase
    cases hphase
  dropped := by
    intro error hstage
    cases hstage

namespace Attributed

variable {session later : Session} {id : Nat} {call : Call}

/-- A call that ends does not take the link of a connected session from its owner. -/
theorem afterFinish (hattributed : session.Attributed) (horderly : session.toLine.Orderly)
    (hholder : session.holder = some id) (result : Except Error Unit) :
    (session.finish id result).Attributed where
  earned := by
    intro link hphase hlink
    obtain ⟨owner, owning, howning, howns, hended⟩ := hattributed.earned link hphase hlink
    have hother : id ≠ owner := by
      intro hsame
      subst hsame
      have hdone := horderly.isDone_of_held hholder howning
      simp [hended, Stage.isDone] at hdone
    refine ⟨owner, owning, ?_, howns, hended⟩
    exact (List.getElem?_modify_ne _ _ hother).trans howning
  dropped := by
    intro error hstage
    have hqueued : (session.finish id result).stage = .queued :=
      Line.stage_finish horderly hholder result
    rw [hqueued] at hstage
    cases hstage

/-- Where a session is not connected, only a dropped link is to be accounted for. -/
theorem of_phase_ne (hphase : later.phase ≠ .connected)
    (hdropped : ∀ error, later.stage = .dropped error → error ≠ .superseded ∧
      ∃ (id : Nat) (call : Call) (profile : Profile), later.holder = some id ∧
        later.calls[id]? = some call ∧ call.request = .connect profile ∧
        later.holdings.profile = some profile) : later.Attributed where
  earned := fun _ hconnected => absurd hconnected hphase
  dropped := hdropped

theorem afterGiveUp {profile : Profile} (hcall : session.calls[id]? = some call)
    (hholder : session.holder = some id) (hrequest : call.request = .connect profile)
    (hphase : session.phase = .connecting) (hprofile : session.holdings.profile = some profile)
    {error : Error} (herror : error ≠ .superseded) : (session.giveUp id error).Attributed := by
  have hstage : (session.giveUp id error).stage = .dropped error :=
    Line.stage_setStage hholder hcall _
  apply of_phase_ne
  · show session.phase ≠ .connected
    simp [hphase]
  · intro found hfound
    obtain rfl : error = found := Stage.dropped.inj (hstage.symm.trans hfound)
    refine ⟨herror, id, { call with stage := .dropped error }, profile, hholder, ?_, hrequest,
      hprofile⟩
    show (session.calls.modify id _)[id]? = _
    simp [hcall]

theorem of_stage {stage : Stage} (hphase : later.phase ≠ .connected) (hstage : later.stage = stage)
    (hother : ∀ error, stage ≠ .dropped error) : later.Attributed :=
  of_phase_ne hphase fun error hdropped => absurd (hstage.symm.trans hdropped) (hother error)

theorem afterTurn (hattributed : session.Attributed) (hsound : session.Sound)
    (hcall : session.calls[id]? = some call) (hholder : session.holder = some id)
    (hturn : Turn session id call later) : later.Attributed := by
  have hfits := hsound.fits_call hcall hholder
  have horderly := hsound.orderly
  cases hturn with
  | overtaken | refused => exact hattributed.afterFinish horderly hholder _
  | cleared hstage hgoes =>
      constructor
      · intro link _ hlink
        cases hlink
      · intro error hdropped
        have hnext : (session.dropLink.setStage id .cleared).stage = .cleared :=
          Line.stage_setStage hholder hcall _
        rw [hnext] at hdropped
        cases hdropped
  | left hrequest hstage hovertaken =>
      rename_i profile
      have hphase : (session.startOver profile).phase ≠ .connected := by simp
      exact of_stage hphase (Line.stage_finish horderly hholder _) (by simp)
  | hindered hrequest hstage hnewest hobstacle binds =>
      rename_i profile error
      refine afterGiveUp ?_ ?_ hrequest ?_ ?_ (obstacle?_ne_superseded hobstacle)
      · exact hcall
      · exact hholder
      · exact phase_startOver session profile
      · rfl
  | bound hrequest hstage hnewest hobstacle binds =>
      rename_i profile
      have hphase : (session.startOver profile).phase ≠ .connected := by simp
      exact of_stage hphase (Line.stage_setBound hholder hcall _ _) (by simp)
  | failed hrequest hnewest hsetback =>
      obtain ⟨link, hlink⟩ := hsetback.exists_link
      exact afterGiveUp hcall hholder hrequest (hfits.builds hlink).phase_eq
        (hsound.profile_of_works hcall hholder hrequest hlink) hsetback.ne_superseded
  | dialed hrequest hstage hnewest htarget =>
      rw [hstage] at hfits
      have hphase : session.phase ≠ .connected := by simp [hfits.phase_eq]
      exact of_stage hphase (Line.stage_setStage hholder hcall _) (by simp)
  | signedIn hrequest hstage hnewest hwake hfailure hopen =>
      rw [hstage] at hfits
      have hphase : session.phase ≠ .connected := by simp [hfits.phase_eq]
      exact of_stage hphase (Line.stage_setStage hholder hcall _) (by simp)
  | connected hrequest hstage hnewest =>
      rename_i profile link
      have hworks : call.stage.link? = some link := by rw [hstage]; rfl
      constructor
      · intro other _ hother
        have hheld : session.holdings.link = some other := hother
        obtain rfl : link = other :=
          Option.some.inj ((hfits.builds hworks).link_eq.symm.trans hheld)
        refine ⟨id, { call with stage := .done (.ok ()) }, ?_,
          hsound.owned.working id call link hcall hworks, rfl⟩
        show (session.calls.modify id _)[id]? = _
        simp [hcall]
      · intro error hdropped
        have hnext := Line.stage_finish horderly hholder (.ok ())
        exact absurd (hnext.symm.trans hdropped) (by simp)
  | fell hrequest hstage =>
      have hphase : (session.moveTo .failed).phase ≠ .connected := by simp
      exact of_stage hphase (Line.stage_finish horderly hholder _) (by simp)
  | ended hrequest hstage | shutDown hrequest hstage =>
      have hphase : (session.endSession id).phase ≠ .connected := by simp
      exact of_stage hphase (Line.stage_finish horderly hholder _) (by simp)

theorem afterDeed (hattributed : session.Attributed) (hsound : session.Sound)
    (hdeed : session.Deed later) : later.Attributed := by
  cases hdeed with
  | issued request =>
      constructor
      · intro link hphase hlink
        obtain ⟨id, call, hcall, howns, hended⟩ := hattributed.earned link hphase hlink
        exact ⟨id, call, Line.getElem?_issue_of_some request hcall, howns, hended⟩
      · intro error hstage
        have hsame : (session.issue request).stage = session.stage :=
          Line.stage_issue hsound.orderly request
        obtain ⟨herror, id, call, profile, hholder, hcall, hrequest, hprofile⟩ :=
          hattributed.dropped error (hsame ▸ hstage)
        refine ⟨herror, id, call, profile, ?_, Line.getElem?_issue_of_some request hcall,
          hrequest, hprofile⟩
        simp [issue, Line.issue, hholder]
  | turned hcall hholder hturn => exact hattributed.afterTurn hsound hcall hholder hturn
  | lost hphase hlink =>
      have hfailed : (session.stopRefresh.moveTo .failed).phase ≠ .connected := by simp
      exact of_stage hfailed (hsound.stage_of_connected hphase hlink) (by simp)
  | sent | resolved | waited | cued | enrolled =>
      exact ⟨hattributed.earned, hattributed.dropped⟩

end Attributed

theorem attributed_run (options : Options) (acts : List Act) :
    ((initial options).run acts).Attributed := by
  apply run_induction
  · intro session later hsound hdeed hattributed
    exact hattributed.afterDeed hsound hdeed
  · exact initial_attributed options

/-! ## Grounds -/

/-- Acts that tell a session of the loss of a link: a request under way reports it, or
a request that is sent now finds it out. -/
inductive ReportsLoss (session : Session) (link : LinkId) : Act → Prop
  | reported : ReportsLoss session link (.report link)
  | answered {service : Service} {payload : List UInt8} {error : Link.Error}
      (hanswer : (session.network.request link service.protocol payload).2 = .error error)
      (hends : error.endsConnection = true) : ReportsLoss session link (.send service payload)

/-- The link of a connect is open, and it was dialed and accepted for its profile. -/
structure Carries (session : Session) (call : Call) (profile : Profile) (link : LinkId) :
    Prop where
  request_eq : call.request = .connect profile
  link_eq : call.link = some link
  serves : ∃ record, session.network.link? link = some record ∧ record.closed = false ∧
    Serves session.options.userAgent profile link record

/-- What brings an act to announce a phase, and what the session holds meanwhile. -/
inductive Grounds (session : Session) : Act → Phase → Holdings → Prop
  | down {id : Nat} : Grounds session (.advance id) .disconnected .none
  | setsOut {id : Nat} {call : Call} {profile : Profile} (hcall : session.calls[id]? = some call)
      (hholder : session.holder = some id) (hrequest : call.request = .connect profile) :
      Grounds session (.advance id) .connecting ⟨some profile, none, none⟩
  | arrives {id : Nat} {call : Call} {profile : Profile} {link : LinkId} {task : Option TaskId}
      (hcall : session.calls[id]? = some call) (hholder : session.holder = some id)
      (hnewest : session.isOvertaken call = false) (hcarries : session.Carries call profile link) :
      Grounds session (.advance id) .connected ⟨some profile, some link, task⟩
  | fails {id : Nat} {call : Call} {profile : Profile} {error : Error}
      (hcall : session.calls[id]? = some call) (hholder : session.holder = some id)
      (hrequest : call.request = .connect profile) (hstage : call.stage = .dropped error) :
      Grounds session (.advance id) .failed ⟨some profile, none, none⟩
  | loses {given : Act} {id : Nat} {call : Call} {profile : Profile} {link : LinkId}
      (hloss : session.ReportsLoss link given) (hphase : session.phase = .connected)
      (hcall : session.calls[id]? = some call) (hended : call.stage = .done (.ok ()))
      (hcarries : session.Carries call profile link) :
      Grounds session given .failed ⟨some profile, some link, none⟩

/-- An announcement that an act makes with grounds. -/
def IsGrounded (session : Session) (given : Act) (announcement : Announcement) : Prop :=
  session.Grounds given announcement.phase announcement.scene.holdings

section

variable {session later : Session} {id : Nat} {call : Call} {profile : Profile}

theorem holdings_eq {holdings : Holdings} {profile : Option Profile} {link : Option LinkId}
    {task : Option TaskId} (hprofile : holdings.profile = profile) (hlink : holdings.link = link)
    (htask : holdings.task = task) : holdings = ⟨profile, link, task⟩ := by
  rw [← hprofile, ← hlink, ← htask]

theorem adds_startOver (hcall : session.calls[id]? = some call)
    (hholder : session.holder = some id) (hrequest : call.request = .connect profile)
    (hlink : session.holdings.link = none) (htask : session.holdings.task = none) :
    session.toBoard.Adds (session.startOver profile).toBoard
      (session.IsGrounded (.advance id)) := by
  have hnone : (session.setProfile none).holdings = .none := holdings_eq rfl hlink htask
  have hdown : session.toBoard.Adds (session.setProfile none).comeDown.toBoard
      (session.IsGrounded (.advance id)) := by
    unfold comeDown Board.comeDown
    simp only
    split
    next =>
      apply (session.setProfile none).toBoard.adds_moveTo
      show session.Grounds (.advance id) .disconnected (session.setProfile none).holdings
      rw [hnone]
      exact .down
    next => exact Board.adds_of_eq rfl _
  have hheld : ((session.setProfile none).comeDown.setProfile (some profile)).holdings =
      ⟨some profile, none, none⟩ := holdings_eq rfl hlink htask
  refine hdown.trans ?_
  apply Board.adds_moveTo
  show session.Grounds (.advance id) .connecting
    ((session.setProfile none).comeDown.setProfile (some profile)).holdings
  rw [hheld]
  exact .setsOut hcall hholder hrequest

theorem adds_endSession (hlink : session.holdings.link = none)
    (htask : session.holdings.task = none) :
    session.toBoard.Adds (session.endSession id).toBoard (session.IsGrounded (.advance id)) := by
  have hnone : (session.setProfile none).holdings = .none := holdings_eq rfl hlink htask
  apply (session.setProfile none).toBoard.adds_moveTo
  show session.Grounds (.advance id) .disconnected (session.setProfile none).holdings
  rw [hnone]
  exact .down

theorem carries_of_answered {link : LinkId} (hsound : session.Sound) (hlogged : session.Logged)
    (hcall : session.calls[id]? = some call) (hholder : session.holder = some id)
    (hrequest : call.request = .connect profile) (hstage : call.stage = .answered link (.ok ())) :
    session.Carries call profile link := by
  have hworks : call.stage.link? = some link := by rw [hstage]; rfl
  obtain ⟨record, hrecord, hopen, hstands⟩ :=
    hlogged.record_of_works hsound hcall hholder hrequest hworks
  rw [hstage] at hstands
  exact ⟨hrequest, hsound.owned.working id call link hcall hworks,
    record, hrecord, hopen, hstands.serves⟩

/-- The link of a connected session is carried by the connect that it belongs to. -/
theorem exists_carries {link : LinkId} (hsound : session.Sound) (hlogged : session.Logged)
    (hattributed : session.Attributed) (hphase : session.phase = .connected)
    (hlink : session.holdings.link = some link) :
    ∃ (id : Nat) (call : Call) (profile : Profile), session.calls[id]? = some call ∧
      call.stage = .done (.ok ()) ∧ session.holdings.profile = some profile ∧
      session.Carries call profile link := by
  obtain ⟨id, call, hcall, howns, hended⟩ := hattributed.earned link hphase hlink
  obtain ⟨profile, hrequest, hprofile⟩ := hsound.owned.profile id call link hcall howns hlink
  obtain ⟨record, hrecord, hopen⟩ :=
    Network.isOpen_eq_true_iff.mp (hsound.holdsOpen.isOpen hlink)
  have hserves := hlogged.serves link profile record hphase hlink hprofile hrecord
  exact ⟨id, call, profile, hcall, hended, hprofile, hrequest, howns, record, hrecord, hopen,
    hserves⟩

theorem adds_turn (hsound : session.Sound) (hlogged : session.Logged)
    (hattributed : session.Attributed) (hcall : session.calls[id]? = some call)
    (hholder : session.holder = some id) (hturn : Turn session id call later) :
    session.toBoard.Adds later.toBoard (session.IsGrounded (.advance id)) := by
  have hfits := hsound.fits_call hcall hholder
  cases hturn with
  | overtaken | refused | cleared | failed | dialed | signedIn => exact Board.adds_of_eq rfl _
  | left hrequest hstage hovertaken =>
      rw [hstage] at hfits
      exact adds_startOver hcall hholder hrequest hfits.1 hfits.2.1
  | hindered hrequest hstage hnewest hobstacle binds =>
      rw [hstage] at hfits
      exact adds_startOver hcall hholder hrequest hfits.1 hfits.2.1
  | bound hrequest hstage hnewest hobstacle binds =>
      rw [hstage] at hfits
      exact adds_startOver hcall hholder hrequest hfits.1 hfits.2.1
  | connected hrequest hstage hnewest =>
      rename_i profile link
      have hworks : call.stage.link? = some link := by rw [hstage]; rfl
      have hprofile := hsound.profile_of_works hcall hholder hrequest hworks
      have hheld : (session.startRefresh link profile.bootstrap).holdings =
          ⟨some profile, some link,
            (session.startRefresh link profile.bootstrap).holdings.task⟩ :=
        holdings_eq hprofile (hfits.builds hworks).link_eq rfl
      apply Board.adds_moveTo
      show session.Grounds (.advance id) .connected
        (session.startRefresh link profile.bootstrap).holdings
      rw [hheld]
      exact .arrives hcall hholder hnewest
        (carries_of_answered hsound hlogged hcall hholder hrequest hstage)
  | fell hrequest hstage =>
      rename_i profile error
      rw [hstage] at hfits
      obtain ⟨-, -, hlink, htask⟩ := hfits
      have hdropped : session.stage = .dropped error := hstage ▸ Line.stage_eq hholder hcall
      obtain ⟨-, owner, owning, found, howner, howning, hfound, hprofile⟩ :=
        hattributed.dropped error hdropped
      obtain rfl : id = owner := Option.some.inj (hholder.symm.trans howner)
      obtain rfl : call = owning := Option.some.inj (hcall.symm.trans howning)
      obtain rfl : profile = found := Request.connect.inj (hrequest.symm.trans hfound)
      have hheld : session.holdings = ⟨some profile, none, none⟩ :=
        holdings_eq hprofile hlink htask
      apply Board.adds_moveTo
      show session.Grounds (.advance id) .failed session.holdings
      rw [hheld]
      exact .fails hcall hholder hrequest hstage
  | ended hrequest hstage | shutDown hrequest hstage =>
      rw [hstage] at hfits
      exact adds_endSession hfits.1 hfits.2.1

theorem adds_noteLoss {link : LinkId} {given : Act} (hsound : session.Sound)
    (hlogged : session.Logged) (hattributed : session.Attributed)
    (hloss : session.ReportsLoss link given) (network : Network) :
    session.toBoard.Adds ({ session with network }.noteLoss link).toBoard
      (session.IsGrounded given) := by
  unfold noteLoss
  split
  next hheld =>
    obtain ⟨hlink, hphase⟩ := hheld
    obtain ⟨id, call, profile, hcall, hended, hprofile, hcarries⟩ :=
      exists_carries hsound hlogged hattributed hphase hlink
    have hleft : { session.holdings with task := none } = ⟨some profile, some link, none⟩ :=
      holdings_eq hprofile hlink rfl
    apply session.toBoard.adds_moveTo
    show session.Grounds given .failed { session.holdings with task := none }
    rw [hleft]
    exact .loses hloss hphase hcall hended hcarries
  next => exact Board.adds_of_eq rfl _

theorem adds_sending {service : Service} {payload : List UInt8} (hsound : session.Sound)
    (hlogged : session.Logged) (hattributed : session.Attributed)
    (hsending : Sending session service payload later) :
    session.toBoard.Adds later.toBoard (session.IsGrounded (.send service payload)) := by
  cases hsending with
  | refused | asked => exact Board.adds_of_eq rfl _
  | foundLost _ _ hanswer hends =>
      exact adds_noteLoss hsound hlogged hattributed (.answered hanswer hends) _

/-- Whatever an act announces has its grounds. -/
theorem adds_act (hsound : session.Sound) (hlogged : session.Logged)
    (hattributed : session.Attributed) (given : Act) :
    session.toBoard.Adds (session.act given).toBoard (session.IsGrounded given) := by
  cases given with
  | advance id =>
      rcases session.advance_eq_self_or_turn id with hrest | ⟨call, hcall, hholder, hturn⟩
      · exact Board.adds_of_eq (congrArg (·.announcements) hrest) _
      · exact adds_turn hsound hlogged hattributed hcall hholder hturn
  | send service payload =>
      exact adds_sending hsound hlogged hattributed (session.sending service payload)
  | report link =>
      exact adds_noteLoss hsound hlogged hattributed .reported session.network
  | refresh id =>
      apply Board.adds_of_eq
      rcases session.runTask_eq_self_or_resolved id with hrest | ⟨task, -, -, -, hlater⟩
      · rw [act, hrest]
      · rw [act, hlater, resolved]
  | issue | wait | cue | listen | unlisten => exact Board.adds_of_eq rfl _

end

end NodeLink.Session
