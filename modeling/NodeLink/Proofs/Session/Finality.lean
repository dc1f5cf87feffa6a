import NodeLink.Profile.Samples
import NodeLink.Proofs.Session.Agreement
import NodeLink.Proofs.Session.Path
/-!
# A shutdown is final

Once a shutdown was issued nothing is bound any more, and the session never comes up.
Connects that were issued before find themselves overtaken wherever they go on, and those
behind it are turned away.  Once the shutdown has ended, the session is over: it is down,
holds no link, refuses all requests and has nothing left to announce.
-/

namespace NodeLink.Session

open NodeLink.Rehearsal (Network LinkId)

/-! ## Behind a shutdown -/

/-- The stages of a connect that was issued after a shutdown, by its number and the number
of calls: it waits, was turned away or was overtaken. -/
inductive Barred (count id : Nat) : Stage → Prop
  | waits : Barred count id .queued
  | refused : Barred count id (.done (.error (.setup .shutDown)))
  | overtaken (hnewer : id + 1 < count) : Barred count id (.done (.error .superseded))

theorem Barred.mono {count more id : Nat} {stage : Stage} (hbarred : Barred count id stage)
    (hle : count ≤ more) : Barred more id stage := by
  cases hbarred with
  | waits => exact .waits
  | refused => exact .refused
  | overtaken hnewer => exact .overtaken (Nat.lt_of_lt_of_le hnewer hle)

theorem Barred.eq_queued {count id : Nat} {stage : Stage} (hbarred : Barred count id stage)
    (hopen : stage.isDone = false) : stage = .queued := by
  cases hbarred with
  | waits => rfl
  | refused | overtaken => simp [Stage.isDone] at hopen

/-- A shutdown was issued under a number.  Connects behind it are turned away, and once it
has ended the session stays down. -/
structure IsShutBy (session : Session) (id : Nat) : Prop where
  isShutDown : session.isShutDown = true
  shutdown : ∃ call, session.calls[id]? = some call ∧ call.request = .shutdown
  bars : ∀ (other : Nat) call profile, id < other → session.calls[other]? = some call →
    call.request = .connect profile → Barred session.calls.length other call.stage
  down : ∀ call, session.calls[id]? = some call → call.stage.isDone = true →
    session.StaysDown

section

variable {session later : Session} {id turning : Nat} {call : Call}

theorem isShutBy_issue (session : Session) :
    (session.issue .shutdown).IsShutBy session.calls.length where
  isShutDown := by simp [issue, Line.issue]
  shutdown := ⟨_, Line.getElem?_issue_self session.toLine .shutdown, rfl⟩
  bars := by
    intro other call profile hbehind hcall
    have hlt := (List.getElem?_eq_some_iff.mp hcall).1
    have hlength := Line.length_issue session.toLine .shutdown
    have hlt' : other < (session.toLine.issue .shutdown).calls.length := hlt
    omega
  down := by
    intro call hcall hdone
    obtain rfl := Option.some.inj
      ((Line.getElem?_issue_self session.toLine .shutdown).symm.trans hcall)
    simp [Line.issued, Stage.isDone] at hdone

/-- A connect that holds a session which was shut down is overtaken or has not begun. -/
theorem IsShutBy.overtaken_or_queued {profile : Profile} (hshut : session.IsShutBy id)
    (hsound : session.Sound) (hcall : session.calls[turning]? = some call)
    (hholder : session.holder = some turning) (hrequest : call.request = .connect profile) :
    session.isOvertaken call = true ∨ call.stage = .queued := by
  obtain ⟨shutdown, hshutdown, hshuts⟩ := hshut.shutdown
  have hopen := hsound.orderly.isDone_of_held hholder hcall
  rcases Nat.lt_trichotomy turning id with hbefore | rfl | hbehind
  · left
    have hlt := (List.getElem?_eq_some_iff.mp hshutdown).1
    exact (hsound.orderly.isOvertaken_iff_newer hcall).mpr (Nat.lt_of_le_of_lt hbefore hlt)
  · obtain rfl : call = shutdown := Option.some.inj (hcall.symm.trans hshutdown)
    simp [hrequest] at hshuts
  · exact .inr ((hshut.bars turning call profile hbehind hcall hrequest).eq_queued hopen)

theorem IsShutBy.barred_turn {profile : Profile} {next : Call} (hshut : session.IsShutBy id)
    (hsound : session.Sound) (hcall : session.calls[turning]? = some call)
    (hholder : session.holder = some turning) (hturn : Turn session turning call later)
    (hbehind : id < turning) (hrequest : call.request = .connect profile)
    (hnext : later.calls[turning]? = some next) :
    Barred session.calls.length turning next.stage := by
  have hopen := hsound.orderly.isDone_of_held hholder hcall
  have hqueued := (hshut.bars turning call profile hbehind hcall hrequest).eq_queued hopen
  rcases turned_away hcall hrequest hqueued hshut.isShutDown hturn hnext with
    hrefused | ⟨hovertaken, hsuperseded⟩
  · rw [hrefused]
    exact .refused
  · rw [hsuperseded]
    exact .overtaken ((hsound.orderly.isOvertaken_iff_newer hcall).mp hovertaken)

theorem IsShutBy.afterTurn (hshut : session.IsShutBy id) (hsound : session.Sound)
    (hcall : session.calls[turning]? = some call) (hholder : session.holder = some turning)
    (hturn : Turn session turning call later) : later.IsShutBy id := by
  obtain ⟨shutdown, hshutdown, hshuts⟩ := hshut.shutdown
  have hkept := hturn.exists_call hshutdown
  rw [hshuts] at hkept
  refine ⟨hturn.isShutDown_eq.trans hshut.isShutDown, hkept, ?_, ?_⟩
  · intro other next profile hbehind hnext hrequest
    rw [hturn.length_eq]
    by_cases hself : other = turning
    · subst hself
      obtain ⟨found, hfound, hsame⟩ := hturn.exists_call hcall
      obtain rfl : next = found := Option.some.inj (hnext.symm.trans hfound)
      exact hshut.barred_turn hsound hcall hholder hturn hbehind (hsame.symm.trans hrequest) hnext
    · rw [hturn.getElem?_of_ne hself] at hnext
      exact hshut.bars other next profile hbehind hnext hrequest
  · intro next hnext hdone
    by_cases hself : id = turning
    · subst hself
      obtain rfl : call = shutdown := Option.some.inj (hcall.symm.trans hshutdown)
      rcases cleared_or_staysDown hsound hholder hshuts hturn with rfl | hdown
      · obtain rfl := Line.eq_of_modify_self hcall hnext
        simp [Stage.isDone] at hdone
      · exact hdown
    · rw [hturn.getElem?_of_ne hself] at hnext
      exact staysDown_turn hsound hcall hholder hshut.isShutDown (hshut.down next hnext hdone)
        hturn

theorem IsShutBy.afterIssue (hshut : session.IsShutBy id) (request : Request) :
    (session.issue request).IsShutBy id := by
  obtain ⟨shutdown, hshutdown, hshuts⟩ := hshut.shutdown
  refine ⟨by simp [issue, Line.issue, hshut.isShutDown], ?_, ?_, ?_⟩
  · exact ⟨shutdown, Line.getElem?_issue_of_some request hshutdown, hshuts⟩
  · intro other call profile hbehind hcall hrequest
    rcases Line.getElem?_issue hcall with hold | ⟨-, rfl⟩
    · apply (hshut.bars other call profile hbehind hold hrequest).mono
      exact Nat.le_of_lt (Nat.lt_of_lt_of_eq (Nat.lt_succ_self _)
        (Line.length_issue session.toLine request).symm)
    · exact .waits
  · intro call hcall hdone
    have hold := Line.getElem?_issue_of_some request hshutdown
    obtain rfl : call = shutdown := Option.some.inj (hcall.symm.trans hold)
    exact staysDown_issue (hshut.down call hshutdown hdone) request

theorem IsShutBy.afterDeed (hshut : session.IsShutBy id) (hsound : session.Sound)
    (hdeed : session.Deed later) : later.IsShutBy id := by
  cases hdeed with
  | issued request => exact hshut.afterIssue request
  | turned hcall hholder hturn => exact hshut.afterTurn hsound hcall hholder hturn
  | lost hphase hlink =>
      refine ⟨hshut.isShutDown, hshut.shutdown, hshut.bars, ?_⟩
      intro call hcall hdone
      have hdown := (hshut.down call hcall hdone).1
      simp [hphase] at hdown
  | sent | resolved | waited | cued | enrolled =>
      exact ⟨hshut.isShutDown, hshut.shutdown, hshut.bars, hshut.down⟩

theorem IsShutBy.afterDeeds (hshut : session.IsShutBy id) (hsound : session.Sound)
    (hdeeds : session.Deeds later) : later.IsShutBy id := by
  apply deeds_induction (motive := (IsShutBy · id)) ?_ hsound hdeeds hshut
  intro former later hformer hdeed hshut
  exact hshut.afterDeed hformer hdeed

/-! ## Nothing comes up -/

/-- Nothing is bound on the way from one session to another, and the session does not come
up. -/
structure Subsides (session later : Session) : Prop where
  binds : later.network.binds = session.network.binds
  size : later.network.links.length = session.network.links.length
  phase : later.phase = .connected → session.phase = .connected
  adds : session.toBoard.Adds later.toBoard (·.phase ≠ .connected)

namespace Subsides

theorem of_board (hbinds : later.network.binds = session.network.binds)
    (hsize : later.network.links.length = session.network.links.length)
    (hphase : later.phase = session.phase)
    (hsame : later.announcements = session.announcements) : session.Subsides later :=
  ⟨hbinds, hsize, fun hup => hphase ▸ hup, Board.adds_of_eq hsame _⟩

theorem of_phase_ne (hnetwork : later.network = session.network)
    (hphase : later.phase ≠ .connected)
    (hadds : session.toBoard.Adds later.toBoard (·.phase ≠ .connected)) :
    session.Subsides later :=
  ⟨hnetwork ▸ rfl, hnetwork ▸ rfl, fun hup => absurd hup hphase, hadds⟩

theorem refl (session : Session) : session.Subsides session :=
  .of_board rfl rfl rfl rfl

theorem trans {last : Session} (hfirst : session.Subsides later) (hsecond : later.Subsides last) :
    session.Subsides last where
  binds := hsecond.binds.trans hfirst.binds
  size := hsecond.size.trans hfirst.size
  phase := hfirst.phase ∘ hsecond.phase
  adds := hfirst.adds.trans hsecond.adds

end Subsides

theorem adds_unconnected (session : Session) {phase : Phase} (hphase : phase ≠ .connected) :
    session.toBoard.Adds (session.moveTo phase).toBoard (·.phase ≠ .connected) :=
  session.toBoard.adds_moveTo hphase

theorem adds_unconnected_startOver (session : Session) (profile : Profile) :
    session.toBoard.Adds (session.startOver profile).toBoard (·.phase ≠ .connected) := by
  have hdown : session.toBoard.Adds (session.setProfile none).comeDown.toBoard
      (·.phase ≠ .connected) := by
    unfold comeDown Board.comeDown
    split
    next => exact (session.setProfile none).adds_unconnected (by simp)
    next => exact Board.adds_of_eq rfl _
  exact hdown.trans (adds_unconnected _ (by simp))

theorem IsShutBy.subsides_turn (hshut : session.IsShutBy id) (hsound : session.Sound)
    (hcall : session.calls[turning]? = some call) (hholder : session.holder = some turning)
    (hturn : Turn session turning call later) : session.Subsides later := by
  have hlate {profile : Profile} (hrequest : call.request = .connect profile)
      (hnewest : session.isOvertaken call = false) : call.stage = .queued := by
    rcases hshut.overtaken_or_queued hsound hcall hholder hrequest with hovertaken | hqueued
    · simp [hnewest] at hovertaken
    · exact hqueued
  cases hturn with
  | overtaken | refused => exact .of_board rfl rfl rfl rfl
  | cleared =>
      exact .of_board (Network.binds_release _ _) (size_release _ _) rfl rfl
  | left hrequest hstage hovertaken =>
      rename_i profile
      have hphase : (session.startOver profile).phase ≠ .connected := by simp
      exact .of_phase_ne rfl hphase (session.adds_unconnected_startOver profile)
  | fell =>
      have hphase : (session.moveTo .failed).phase ≠ .connected := by simp
      exact .of_phase_ne rfl hphase (session.adds_unconnected (by simp))
  | ended | shutDown =>
      have hphase : (session.endSession turning).phase ≠ .connected := by simp
      exact .of_phase_ne rfl hphase ((session.setProfile none).adds_unconnected (by simp))
  -- a connect that goes on from here is not overtaken, so it would not have begun
  | hindered hrequest hstage hnewest | bound hrequest hstage hnewest
  | dialed hrequest hstage hnewest | signedIn hrequest hstage hnewest
  | connected hrequest hstage hnewest =>
      simp [hlate hrequest hnewest] at hstage
  | failed hrequest hnewest hsetback =>
      obtain ⟨link, hlink⟩ := hsetback.exists_link
      simp [hlate hrequest hnewest, Stage.link?] at hlink

theorem IsShutBy.subsides_deed (hshut : session.IsShutBy id) (hsound : session.Sound)
    (hdeed : session.Deed later) : session.Subsides later := by
  cases hdeed with
  | turned hcall hholder hturn => exact hshut.subsides_turn hsound hcall hholder hturn
  | sent hphase hlink service payload =>
      rename_i link
      have hagrees := session.network.agreesOff_request link service.protocol payload
      exact .of_board hagrees.binds hagrees.size rfl rfl
  | lost =>
      have hphase : (session.stopRefresh.moveTo .failed).phase ≠ .connected := by simp
      exact .of_phase_ne rfl hphase (session.stopRefresh.adds_unconnected (by simp))
  | resolved htask hlive hdue =>
      rename_i task
      have hagrees := session.network.agreesOff_resolveEach task.link task.entries
      exact .of_board hagrees.binds hagrees.size rfl rfl
  | cued cue =>
      exact .of_board (session.network.binds_cue cue) (session.network.size_cue cue) rfl rfl
  | issued | waited | enrolled => exact .of_board rfl rfl rfl rfl

theorem IsShutBy.subsides (hshut : session.IsShutBy id) (hsound : session.Sound)
    (hdeeds : session.Deeds later) : session.Subsides later := by
  have hboth : later.IsShutBy id ∧ session.Subsides later := by
    apply deeds_induction (motive := fun later => later.IsShutBy id ∧ session.Subsides later) ?_
      hsound hdeeds ⟨hshut, .refl session⟩
    rintro former later hformer hdeed ⟨hstill, hsubsides⟩
    exact ⟨hstill.afterDeed hformer hdeed,
      hsubsides.trans (hstill.subsides_deed hformer hdeed)⟩
  exact hboth.2

/-! ## Nothing is said any more -/

/-- One board says what another says: no phase was announced, and no listener called. -/
structure Board.IsMute (board later : Board) : Prop where
  phase : later.phase = board.phase
  latest : later.latest = board.latest
  announcements : later.announcements = board.announcements
  events : later.events = board.events

theorem Board.IsMute.refl (board : Board) : board.IsMute board := ⟨rfl, rfl, rfl, rfl⟩

theorem Board.IsMute.trans {board later last : Board} (hfirst : board.IsMute later)
    (hsecond : later.IsMute last) : board.IsMute last where
  phase := hsecond.phase.trans hfirst.phase
  latest := hsecond.latest.trans hfirst.latest
  announcements := hsecond.announcements.trans hfirst.announcements
  events := hsecond.events.trans hfirst.events

theorem StaysDown.isMute_endSession (hdown : session.StaysDown) (id : Nat) :
    session.toBoard.IsMute (session.endSession id).toBoard := by
  have hsame : (session.endSession id).toBoard = session.toBoard := if_pos hdown.1
  rw [hsame]
  exact .refl session.toBoard

theorem StaysDown.isMute_turn (hdown : session.StaysDown)
    (hcall : session.calls[id]? = some call) (hholder : session.holder = some id)
    (hturn : Turn session id call later) : session.toBoard.IsMute later.toBoard := by
  cases hturn.plain fun profile => hdown.2 id call profile hholder hcall with
  | overtaken | refused | cleared => exact .refl session.toBoard
  | ended => exact hdown.isMute_endSession id
  | shutDown =>
      obtain ⟨hphase, hlatest, hannouncements, hevents⟩ := hdown.isMute_endSession id
      exact ⟨hphase, hlatest, hannouncements, hevents⟩

theorem StaysDown.isMute_deed (hdown : session.StaysDown) (hdeed : session.Deed later) :
    session.toBoard.IsMute later.toBoard := by
  cases hdeed with
  | turned hcall hholder hturn => exact hdown.isMute_turn hcall hholder hturn
  | lost hphase => simp [hdown.1] at hphase
  | issued | sent | resolved | waited | cued | enrolled => exact ⟨rfl, rfl, rfl, rfl⟩

/-- The shutdown that was issued under a number has ended. -/
def HasEnded (session : Session) (id : Nat) : Prop :=
  ∃ call, session.calls[id]? = some call ∧ call.stage.isDone = true

theorem HasEnded.afterDeed (hended : session.HasEnded id) (hsound : session.Sound)
    (hdeed : session.Deed later) : later.HasEnded id := by
  obtain ⟨call, hcall, hdone⟩ := hended
  cases hdeed with
  | issued request => exact ⟨call, Line.getElem?_issue_of_some request hcall, hdone⟩
  | turned hother hholder hturn =>
      rename_i turning other
      have hself : id ≠ turning := by
        rintro rfl
        simp [hsound.orderly.isDone_of_held hholder hcall] at hdone
      exact ⟨call, (hturn.getElem?_of_ne hself).trans hcall, hdone⟩
  | sent | lost | resolved | waited | cued | enrolled => exact ⟨call, hcall, hdone⟩

/-- After the end of a shutdown nothing is said for the rest of a run. -/
theorem IsShutBy.isMute (hshut : session.IsShutBy id) (hsound : session.Sound)
    (hended : session.HasEnded id) (hdeeds : session.Deeds later) :
    session.toBoard.IsMute later.toBoard := by
  have hall : later.IsShutBy id ∧ later.HasEnded id ∧
      session.toBoard.IsMute later.toBoard := by
    apply deeds_induction (motive := fun later => later.IsShutBy id ∧ later.HasEnded id ∧
      session.toBoard.IsMute later.toBoard) ?_ hsound hdeeds ⟨hshut, hended, .refl _⟩
    rintro former later hformer hdeed ⟨hstill, hend, hmute⟩
    obtain ⟨call, hcall, hdone⟩ := hend
    have hdown := hstill.down call hcall hdone
    exact ⟨hstill.afterDeed hformer hdeed, HasEnded.afterDeed ⟨call, hcall, hdone⟩ hformer hdeed,
      hmute.trans (hdown.isMute_deed hdeed)⟩
  exact hall.2.2

/-! ## The session is over -/

/-- A session that is down holds no link. -/
theorem Sound.link_eq_none (hsound : session.Sound) (hphase : session.phase = .disconnected) :
    session.holdings.link = none := by
  have hfits := hsound.fits
  cases hstage : session.stage with
  | queued =>
      rw [hstage, hphase] at hfits
      have hnone : session.holdings = .none := hfits
      rw [hnone]
      rfl
  | cleared =>
      rw [hstage] at hfits
      exact hfits.1
  | bound | dialing | answered =>
      rw [hstage] at hfits
      simp [hfits.phase_eq] at hphase
  | dropped error =>
      rw [hstage] at hfits
      simp [hfits.1] at hphase
  | done result =>
      have hdone := hsound.orderly.not_isDone_stage
      simp [hstage, Stage.isDone] at hdone

/-- A session that is down, has no open link and refuses all requests without a look at the
network. -/
structure IsOver (session : Session) : Prop where
  phase : session.phase = .disconnected
  openLinks : session.network.openLinks = []
  refuses : ∀ service payload, session.send service payload = (session, .error .notConnected)

theorem Sound.isOver (hsound : session.Sound) (hphase : session.phase = .disconnected) :
    session.IsOver where
  phase := hphase
  openLinks := by
    rw [openLinks_eq_toList hsound.holdsOpen, hsound.link_eq_none hphase]
    rfl
  refuses := send_of_not_connected (by simp [hphase])

/-! ## All calls come to their end -/

/-- Nobody has to wait for a dial after a shutdown: once no call can go on, all have
ended. -/
theorem IsShutBy.all_done (hshut : session.IsShutBy id) (hsound : session.Sound)
    (hplain : session.AllPlain) (hidle : session.IsIdle) :
    ∀ call ∈ session.calls, call.stage.isDone = true := by
  have hfree : session.holder = none := by
    cases hholder : session.holder with
    | none => rfl
    | some turning =>
        exfalso
        obtain ⟨call, hcall, hopen⟩ := hsound.orderly.held hholder
        obtain ⟨hnewest, profile, dial, hrequest, hstage⟩ :=
          hidle.dialing hplain hcall hholder hopen
        rcases hshut.overtaken_or_queued hsound hcall hholder hrequest with hovertaken | hqueued
        · simp [hnewest] at hovertaken
        · simp [hstage] at hqueued
  intro call hmem
  obtain ⟨other, hother⟩ := List.mem_iff_getElem?.mp hmem
  exact hsound.orderly.isDone_of_free hfree hother

theorem Barred.result_eq {count : Nat} {result : Except Error Unit}
    (hbarred : Barred count id (.done result)) :
    result = .error (.setup .shutDown) ∨ result = .error .superseded ∧ id + 1 < count := by
  cases hbarred with
  | refused => exact .inl rfl
  | overtaken hnewer => exact .inr ⟨rfl, hnewer⟩

end

/-- From the moment at which a shutdown is issued, whatever else is under way or comes
later, nothing is bound and the session does not come up.  Connects that are issued behind
the shutdown end with the news that the session is shut down, or were overtaken by a newer
call; and once no call can go on, all have ended.  Once the shutdown has ended, the session
is over for the rest of the run: no phase is announced and no listener is called. -/
theorem shutdown_is_final (options : Options) (before between : List Act) :
    let session := (initial options).run before
    let later := (session.issue .shutdown).run between
    session.Subsides later ∧
      (∀ after, later.Subsides (later.run after)) ∧
      (∀ (other : Nat) call profile result, session.calls.length < other →
        later.calls[other]? = some call → call.request = .connect profile →
        later.result? other = some result →
        result = .error (.setup .shutDown) ∨
          result = .error .superseded ∧ other + 1 < later.calls.length) ∧
      (∀ call ∈ later.settle.calls, call.stage.isDone = true) ∧
      ∀ result, later.result? session.calls.length = some result →
        ∀ after, (later.run after).IsOver ∧ later.toBoard.IsMute (later.run after).toBoard := by
  intro session later
  have hsession : session.Sound := sound_run options before
  have hissued : session.Deed (session.issue .shutdown) := .issued .shutdown
  have hdeeds : (session.issue .shutdown).Deeds later := deeds_run _ between
  have hfirst := hsession.afterDeed hissued
  have hsound : later.Sound := hfirst.afterDeeds hdeeds
  have hshut : later.IsShutBy session.calls.length :=
    session.isShutBy_issue.afterDeeds hfirst hdeeds
  refine ⟨?_, fun after => hshut.subsides hsound (later.deeds_run after), ?_, ?_, ?_⟩
  · have hissue : session.Subsides (session.issue .shutdown) := .of_board rfl rfl rfl rfl
    exact hissue.trans (session.isShutBy_issue.subsides hfirst hdeeds)
  · intro other call profile result hbehind hcall hrequest hresult
    have hbarred := hshut.bars other call profile hbehind hcall hrequest
    obtain ⟨found, hfound, hstage⟩ := result?_eq_some hresult
    obtain rfl : call = found := Option.some.inj (hcall.symm.trans hfound)
    rw [hstage] at hbarred
    exact hbarred.result_eq
  · have hplain : later.AllPlain :=
      allPlain_deeds (allPlain_deeds (allPlain_run options before) (.single hissued)) hdeeds
    obtain ⟨acts, hacts, -⟩ := later.leads_settle
    have hsettled : later.Deeds later.settle := hacts ▸ later.deeds_run acts
    exact (hshut.afterDeeds hsound hsettled).all_done (hsound.afterDeeds hsettled)
      (allPlain_deeds hplain hsettled) (isIdle_settle hplain)
  · intro result hresult after
    obtain ⟨call, hcall, hstage⟩ := result?_eq_some hresult
    have hended : later.HasEnded session.calls.length := ⟨call, hcall, by rw [hstage]; rfl⟩
    have hrest := later.deeds_run after
    have hmute := hshut.isMute hsound hended hrest
    have hdown := (hshut.down call hcall (by rw [hstage]; rfl)).1
    exact ⟨(hsound.afterDeeds hrest).isOver (hmute.phase.trans hdown), hmute⟩

/-- A shutdown that meets a connect in the middle of its dial, with another connect behind
it: the first is overtaken, the second refused, and a listener that is added then hears
nothing. -/
theorem shutdown_between_connects :
    let connect : Act := .issue (.connect Profile.Sample.direct)
    let before : List Act := [connect, .advance 0, .advance 0, .advance 0]
    let between : List Act := [.advance 0, .advance 1, connect, .advance 1, .advance 2]
    let listen : Act := .listen ⟨"late", .observe⟩
    let later := (((initial .standard).run before).issue .shutdown).run between
    later.result? 0 = some (.error .superseded) ∧ later.result? 1 = some (.ok ()) ∧
      later.result? 2 = some (.error (.setup .shutDown)) ∧ later.network.binds.length = 1 ∧
      ∀ after, (later.run (listen :: after)).IsOver ∧
        later.toBoard.IsMute (later.run (listen :: after)).toBoard := by
  intro connect before between listen later
  have hended : later.result? ((initial .standard).run before).calls.length = some (.ok ()) := by
    decide +kernel
  obtain ⟨-, -, -, -, hover⟩ := shutdown_is_final .standard before between
  exact ⟨by decide +kernel, by decide +kernel, by decide +kernel, by decide +kernel,
    fun after => hover (.ok ()) hended (listen :: after)⟩

end NodeLink.Session
