import NodeLink.Profile.Samples
import NodeLink.Proofs.Session.Grounds
import NodeLink.Proofs.Session.Path
import NodeLink.Proofs.Session.Schedule
/-!
# Phase and holdings agree

While a phase is announced, and whenever no call is under way, the phase of a
session tells what the session holds.  In between the two may part: an overtaken
connect leaves a session that is connecting and holds its link.  But then a newer
call stands in line, and it brings them together again.
-/

namespace NodeLink.Session

open NodeLink.Rehearsal (LinkId)

/-! ## The last announcement -/

/-- Before a call begins, a session that is up or has failed is as it was when it
announced that. -/
def StandsAsTold (session : Session) : Prop :=
  session.stage = .queued → session.phase = .connected ∨ session.phase = .failed →
    ∃ scene, session.announcements.getLast? = some ⟨session.phase, scene⟩ ∧
      scene.holdings = session.holdings

section

variable {session later : Session} {id : Nat} {call : Call}

theorem standsAsTold_of_stage {stage : Stage} (hstage : later.stage = stage)
    (hbegun : stage ≠ .queued) : later.StandsAsTold :=
  fun hqueued => absurd (hstage.symm.trans hqueued) hbegun

theorem standsAsTold_of_phase {phase : Phase} (hphase : later.phase = phase)
    (hother : phase = .connecting ∨ phase = .disconnected) : later.StandsAsTold := by
  intro _ htold
  rw [hphase] at htold
  rcases hother with rfl | rfl
  · simp at htold
  · simp at htold

/-- What a session announces is what it stands as. -/
theorem standsAsTold_of_moveTo {moved : Session} {phase : Phase} (hother : moved.phase ≠ phase)
    (hboard : later.toBoard = (moved.moveTo phase).toBoard)
    (hholdings : later.holdings = moved.holdings) : later.StandsAsTold := by
  have hphase : later.phase = phase := by
    rw [hboard]
    exact moved.phase_moveTo phase
  have hgrown : later.announcements = moved.announcements ++ [⟨phase, moved.scene⟩] := by
    rw [hboard]
    exact Board.announcements_moveTo_of_ne moved.scene hother
  intro _ _
  refine ⟨moved.scene, ?_, hholdings.symm⟩
  rw [hgrown, hphase, List.getLast?_concat]

theorem standsAsTold_turn (hsound : session.Sound) (hstands : session.StandsAsTold)
    (hcall : session.calls[id]? = some call) (hholder : session.holder = some id)
    (hturn : Turn session id call later) : later.StandsAsTold := by
  have hfits := hsound.fits_call hcall hholder
  have hheld : session.stage = call.stage := Line.stage_eq hholder hcall
  cases hturn with
  | overtaken hrequest hstage hovertaken =>
      intro _ htold
      rcases hstage with hqueued | hworks
      · exact hstands (hheld.trans hqueued) htold
      · obtain ⟨link, hlink⟩ := Option.isSome_iff_exists.mp hworks
        have hup : session.phase = .connected ∨ session.phase = .failed := htold
        simp [(hfits.builds hlink).phase_eq] at hup
  | refused hrequest hstage hnewest hshut => exact fun _ => hstands (hheld.trans hstage)
  | cleared | hindered | failed | dialed | signedIn =>
      exact standsAsTold_of_stage (Line.stage_setStage hholder hcall _) (by simp)
  | bound => exact standsAsTold_of_stage (Line.stage_setBound hholder hcall _ _) (by simp)
  | left hrequest hstage hovertaken =>
      rename_i profile
      exact standsAsTold_of_phase (session.phase_startOver profile) (.inl rfl)
  | connected hrequest hstage hnewest =>
      rename_i profile link
      rw [hstage] at hfits
      have hother : (session.startRefresh link profile.bootstrap).phase ≠ .connected := by
        show session.phase ≠ .connected
        simp [hfits.phase_eq]
      exact standsAsTold_of_moveTo hother rfl rfl
  | fell hrequest hstage =>
      rw [hstage] at hfits
      have hother : session.phase ≠ .failed := by simp [hfits.1]
      exact standsAsTold_of_moveTo hother rfl rfl
  | ended | shutDown => exact standsAsTold_of_phase (session.phase_endSession id) (.inr rfl)

theorem standsAsTold_deed (hsound : session.Sound) (hstands : session.StandsAsTold)
    (hdeed : session.Deed later) : later.StandsAsTold := by
  cases hdeed with
  | issued request =>
      have hsame : (session.issue request).stage = session.stage :=
        Line.stage_issue hsound.orderly request
      intro hqueued htold
      exact hstands (hsame.symm.trans hqueued) htold
  | turned hcall hholder hturn => exact standsAsTold_turn hsound hstands hcall hholder hturn
  | lost hphase hlink =>
      have hother : session.stopRefresh.phase ≠ .failed := by
        show session.phase ≠ .failed
        simp [hphase]
      exact standsAsTold_of_moveTo hother rfl rfl
  | sent | resolved | waited | cued | enrolled => exact hstands

theorem standsAsTold_run (options : Options) (acts : List Act) :
    ((initial options).run acts).StandsAsTold := by
  apply run_induction
  · intro session later hsound hdeed hstands
    exact standsAsTold_deed hsound hstands hdeed
  · intro _ htold
    simp [initial, Board.initial, Phase.initial] at htold

/-! ## Nobody is left connecting -/

/-- Before a call begins, a session that is connecting has a call that will. -/
def HasHeir (session : Session) : Prop :=
  session.phase = .connecting → session.stage = .queued → session.holder.isSome = true

theorem hasHeir_of_stage {stage : Stage} (hstage : later.stage = stage)
    (hbegun : stage ≠ .queued) : later.HasHeir :=
  fun _ hqueued => absurd (hstage.symm.trans hqueued) hbegun

theorem hasHeir_of_phase (hphase : later.phase ≠ .connecting) : later.HasHeir :=
  fun hconnecting => absurd hconnecting hphase

theorem Line.isSome_holder_finish {line : Line} (horderly : line.Orderly)
    (hcall : line.calls[id]? = some call) (hholder : line.holder = some id)
    (hovertaken : line.isOvertaken call = true) (result : Except Error Unit) :
    (line.finish id result).holder.isSome = true := by
  have hserved := horderly.served_finish hholder result
  have hlast := horderly.isOvertaken_eq_false_iff hcall
  rw [hovertaken] at hlast
  cases hnext : (line.finish id result).holder with
  | some next => rfl
  | none =>
      have hlength : (line.finish id result).calls.length = line.calls.length := by
        simp [finish, setStage]
      simp only [served, hnext, Option.getD_none, hlength] at hserved
      simp [hserved] at hlast

/-- Only a session that is down refuses a connect. -/
theorem phase_of_refused {profile : Profile} (hsound : session.Sound)
    (hheeds : session.HeedsShutdown) (hcall : session.calls[id]? = some call)
    (hholder : session.holder = some id) (hrequest : call.request = .connect profile)
    (hnewest : session.isOvertaken call = false) (hshut : session.isShutDown = true) :
    session.phase = .disconnected := by
  rcases hheeds hshut with ⟨other, shutdown, hother, hshutdown, hdone⟩ | hdown
  · exfalso
    have hlast := (hsound.orderly.isOvertaken_eq_false_iff hcall).mp hnewest
    have hlt := (List.getElem?_eq_some_iff.mp hother).1
    have hended := hsound.orderly.isDone_iff other shutdown hother
    simp only [hdone, Line.served, hholder, Option.getD_some, Bool.false_eq_true, false_iff]
      at hended
    obtain rfl : other = id := by omega
    obtain rfl : call = shutdown := Option.some.inj (hcall.symm.trans hother)
    simp [hrequest] at hshutdown
  · exact hdown.1

theorem hasHeir_turn (hsound : session.Sound) (hheeds : session.HeedsShutdown)
    (hcall : session.calls[id]? = some call) (hholder : session.holder = some id)
    (hturn : Turn session id call later) : later.HasHeir := by
  cases hturn with
  | overtaken hrequest hstage hovertaken | left hrequest hstage hovertaken =>
      intro _ _
      exact Line.isSome_holder_finish hsound.orderly hcall hholder hovertaken _
  | refused hrequest hstage hnewest hshut =>
      have hdown := phase_of_refused hsound hheeds hcall hholder hrequest hnewest hshut
      apply hasHeir_of_phase
      show session.phase ≠ .connecting
      simp [hdown]
  | cleared | hindered | failed | dialed | signedIn =>
      exact hasHeir_of_stage (Line.stage_setStage hholder hcall _) (by simp)
  | bound => exact hasHeir_of_stage (Line.stage_setBound hholder hcall _ _) (by simp)
  | connected hrequest hstage hnewest =>
      rename_i profile link
      apply hasHeir_of_phase
      show ((session.startRefresh link profile.bootstrap).moveTo .connected).phase ≠ .connecting
      simp
  | fell hrequest hstage =>
      apply hasHeir_of_phase
      show (session.moveTo .failed).phase ≠ .connecting
      simp
  | ended | shutDown =>
      apply hasHeir_of_phase
      show (session.endSession id).phase ≠ .connecting
      simp

theorem hasHeir_deed (hsound : session.Sound) (hheeds : session.HeedsShutdown)
    (hheir : session.HasHeir) (hdeed : session.Deed later) : later.HasHeir := by
  cases hdeed with
  | issued request =>
      intro _ _
      show (session.holder.or (some session.calls.length)).isSome = true
      simp
  | turned hcall hholder hturn => exact hasHeir_turn hsound hheeds hcall hholder hturn
  | lost hphase hlink => exact hasHeir_of_phase (by simp)
  | sent | resolved | waited | cued | enrolled => exact hheir

end

theorem hasHeir_run (options : Options) (acts : List Act) :
    ((initial options).run acts).HasHeir := by
  have hboth : ((initial options).run acts).HeedsShutdown ∧
      ((initial options).run acts).HasHeir := by
    apply run_induction (motive := fun session => session.HeedsShutdown ∧ session.HasHeir)
    · rintro session later hsound hdeed ⟨hheeds, hheir⟩
      exact ⟨heedsShutdown_deed hsound hheeds hdeed, hasHeir_deed hsound hheeds hheir hdeed⟩
    · refine ⟨?_, hasHeir_of_phase (by simp [initial, Board.initial, Phase.initial])⟩
      intro hshut
      simp [initial, Line.initial] at hshut
  exact hboth.2

/-- A connect that has begun and not ended, and thus holds the session. -/
def IsConnecting (session : Session) : Prop :=
  ∃ (id : Nat) (call : Call) (profile : Profile), session.holder = some id ∧
    session.calls[id]? = some call ∧ call.request = .connect profile ∧ call.stage ≠ .queued

/-- A call that is newer than all that have ended and is the next to go on: it stands in
line, or it has just closed the link of the former session and ends that now. -/
def HasSuccessor (session : Session) : Prop :=
  ∃ (id : Nat) (call : Call), session.holder = some id ∧ session.calls[id]? = some call ∧
    (∀ (other : Nat) ended, session.calls[other]? = some ended → ended.stage.isDone = true →
      ended.generation < call.generation) ∧
    (call.stage = .queued ∨
      call.stage = .cleared ∧ (session.advance id).phase = .disconnected)

section

variable {session : Session} {id : Nat} {call : Call}

theorem generation_lt_of_done (horderly : session.toLine.Orderly)
    (hcall : session.calls[id]? = some call) (hholder : session.holder = some id) :
    ∀ (other : Nat) ended, session.calls[other]? = some ended → ended.stage.isDone = true →
      ended.generation < call.generation := by
  intro other ended hother hdone
  have hserved := (horderly.isDone_iff other ended hother).mp hdone
  rw [Line.served, hholder, Option.getD_some] at hserved
  rw [horderly.own other ended hother, horderly.own id call hcall]
  omega

theorem exists_holder (hsound : session.Sound) (hheir : session.HasHeir)
    (hphase : session.phase = .connecting) :
    ∃ (id : Nat) (call : Call), session.holder = some id ∧ session.calls[id]? = some call ∧
      call.stage.isDone = false := by
  cases hholder : session.holder with
  | none =>
      have hstage : session.stage = .queued := by simp [Line.stage, Line.held?, hholder]
      have hheld := hheir hphase hstage
      simp [hholder] at hheld
  | some id =>
      obtain ⟨call, hcall, hdone⟩ := hsound.orderly.held hholder
      exact ⟨id, call, rfl, hcall, hdone⟩

theorem phase_advance_of_cleared (hholder : session.holder = some id)
    (hcall : session.calls[id]? = some call) (hstage : call.stage = .cleared)
    (hends : ∀ profile, call.request ≠ .connect profile) :
    (session.advance id).phase = .disconnected := by
  unfold advance
  simp only [hcall, if_pos hholder]
  cases hrequest : call.request with
  | connect profile => exact absurd hrequest (hends profile)
  | disconnect =>
      simp only [advanceDisconnect, hstage]
      exact session.phase_endSession id
  | shutdown =>
      simp only [advanceShutdown, hstage]
      exact session.phase_endSession id

theorem connecting_or_successor (hsound : session.Sound) (hplain : session.AllPlain)
    (hheir : session.HasHeir) (hphase : session.phase = .connecting) :
    session.IsConnecting ∨ session.HasSuccessor := by
  obtain ⟨id, call, hholder, hcall, hdone⟩ := exists_holder hsound hheir hphase
  have hnewer := generation_lt_of_done hsound.orderly hcall hholder
  by_cases hqueued : call.stage = .queued
  · exact .inr ⟨id, call, hholder, hcall, hnewer, .inl hqueued⟩
  · by_cases hconnects : ∃ profile, call.request = .connect profile
    · obtain ⟨profile, hrequest⟩ := hconnects
      exact .inl ⟨id, call, profile, hholder, hcall, hrequest, hqueued⟩
    · rcases hplain id call hcall with hconnect | hbegins | hcleared | hended
      · exact absurd hconnect hconnects
      · exact absurd hbegins hqueued
      · have hends := phase_advance_of_cleared hholder hcall hcleared (not_exists.mp hconnects)
        exact .inr ⟨id, call, hholder, hcall, hnewer, .inr ⟨hcleared, hends⟩⟩
      · simp [hdone] at hended

/-- A disconnect or a shutdown has closed the link of the former session, and has still to end
that session.  Nobody waits in between, so only here does this count as two steps. -/
def IsEnding (session : Session) : Prop :=
  ∃ (id : Nat) (call : Call), session.holder = some id ∧ session.calls[id]? = some call ∧
    call.stage = .cleared ∧ ∀ profile, call.request ≠ .connect profile

theorem HasSuccessor.connecting_or_queued (hsuccessor : session.HasSuccessor)
    (hnotEnding : ¬ session.IsEnding) :
    session.IsConnecting ∨
      ∃ (id : Nat) (call : Call), session.holder = some id ∧ session.calls[id]? = some call ∧
        call.stage = .queued ∧
        ∀ (other : Nat) ended, session.calls[other]? = some ended → ended.stage.isDone = true →
          ended.generation < call.generation := by
  obtain ⟨id, call, hholder, hcall, hnewer, hqueued | ⟨hcleared, -⟩⟩ := hsuccessor
  · exact .inr ⟨id, call, hholder, hcall, hqueued, hnewer⟩
  · by_cases hconnects : ∃ profile, call.request = .connect profile
    · obtain ⟨profile, hrequest⟩ := hconnects
      exact .inl ⟨id, call, profile, hholder, hcall, hrequest, by simp [hcleared]⟩
    · exact absurd ⟨id, call, hholder, hcall, hcleared, not_exists.mp hconnects⟩ hnotEnding

theorem exists_dial_of_idle (hsound : session.Sound) (hplain : session.AllPlain)
    (hheir : session.HasHeir) (hidle : session.IsIdle) (hphase : session.phase = .connecting) :
    ∃ (id : Nat) (call : Call) (profile : Profile) (dial : Dial), session.holder = some id ∧
      session.calls[id]? = some call ∧ call.request = .connect profile ∧
      call.stage = .dialing dial := by
  obtain ⟨id, call, hholder, hcall, hdone⟩ := exists_holder hsound hheir hphase
  obtain ⟨-, profile, dial, hrequest, hstage⟩ := hidle.dialing hplain hcall hholder hdone
  exact ⟨id, call, profile, dial, hholder, hcall, hrequest, hstage⟩

theorem holder_eq_none_of_all_done (hsound : session.Sound)
    (hdone : ∀ call ∈ session.calls, call.stage.isDone = true) : session.holder = none := by
  cases hholder : session.holder with
  | none => rfl
  | some id =>
      obtain ⟨call, hcall, hopen⟩ := hsound.orderly.held hholder
      have hended := hdone call (List.mem_of_getElem? hcall)
      simp [hopen] at hended

end

/-! ## Agreement -/

/-- The last announcement of a run was made by one of its acts, with grounds. -/
theorem exists_grounds (options : Options) (acts : List Act) {announcement : Announcement}
    (hlast : ((initial options).run acts).announcements.getLast? = some announcement) :
    ∃ former given latter, acts = former ++ given :: latter ∧
      ((initial options).run former).IsGrounded given announcement ∧
      (((initial options).run former).act given).announcements =
        ((initial options).run acts).announcements := by
  induction acts using List.reverseRecOn with
  | nil => simp [run, initial, Board.initial] at hlast
  | append_singleton acts given ih =>
      have hrun : (initial options).run (acts ++ [given]) =
          ((initial options).run acts).act given := run_append (initial options) acts [given]
      obtain ⟨news, hnews, hgrounded⟩ := adds_act (sound_run options acts)
        (logged_run options acts) (attributed_run options acts) given
      rw [hrun] at hlast ⊢
      cases hempty : news.getLast? with
      | none =>
          rw [List.getLast?_eq_none_iff] at hempty
          rw [hempty, List.append_nil] at hnews
          rw [hnews] at hlast
          obtain ⟨former, earlier, latter, rfl, hgrounds, hsame⟩ := ih hlast
          refine ⟨former, earlier, latter ++ [given], by simp, hgrounds, ?_⟩
          exact hsame.trans hnews.symm
      | some last =>
          have hsame : last = announcement := by
            rw [hnews, List.getLast?_append, hempty] at hlast
            simpa using hlast
          subst hsame
          exact ⟨acts, given, [], rfl, hgrounded last (List.mem_of_getLast? hempty), rfl⟩

theorem allPlain_run (options : Options) (acts : List Act) :
    ((initial options).run acts).AllPlain :=
  allPlain_deeds (initial_allPlain options) (deeds_run _ acts)

/-- Whenever a phase is announced, it has its grounds in what the session holds, the
links that are open are the one among that, and listeners are shown nothing else.
Once all calls have ended, the session is not connecting; it is as it was at its last
announcement, the open links are again the one that it holds, and the link of a
connected session was bound, dialed and accepted for the profile that it holds.  As
long as it is connecting, a connect is under way or a newer call is about to go on;
and once no call can go on, the session waits for a dial. -/
theorem phase_and_holdings_agree (options : Options) (acts : List Act) :
    let session := (initial options).run acts
    (∀ given, session.toBoard.Adds (session.act given).toBoard fun announcement =>
        session.IsGrounded given announcement ∧
          announcement.scene.openLinks = announcement.scene.holdings.link.toList) ∧
      (∀ event ∈ session.events, event.IsFounded session.announcements) ∧
      ((∀ call ∈ session.calls, call.stage.isDone = true) →
        session.phase ≠ .connecting ∧
          session.network.openLinks = session.holdings.link.toList ∧
          (session.phase = .disconnected → session.holdings = .none) ∧
          (session.phase = .connected ∨ session.phase = .failed →
            ∃ former given latter, acts = former ++ given :: latter ∧
              ((initial options).run former).Grounds given session.phase session.holdings ∧
              (((initial options).run former).act given).announcements =
                session.announcements) ∧
          (session.phase = .connected →
            ∃ (id : Nat) (call : Call) (profile : Profile) (link : LinkId),
              session.calls[id]? = some call ∧ call.stage = .done (.ok ()) ∧
                session.holdings.profile = some profile ∧ session.holdings.link = some link ∧
                session.Carries call profile link)) ∧
      (session.phase = .connecting → session.IsConnecting ∨ session.HasSuccessor) ∧
      (session.phase = .connecting → session.IsIdle →
        ∃ (id : Nat) (call : Call) (profile : Profile) (dial : Dial),
          session.holder = some id ∧ session.calls[id]? = some call ∧
            call.request = .connect profile ∧ call.stage = .dialing dial) := by
  intro session
  have hsound : session.Sound := sound_run options acts
  have hlogged : session.Logged := logged_run options acts
  have hattributed : session.Attributed := attributed_run options acts
  have hplain : session.AllPlain := allPlain_run options acts
  have hheir : session.HasHeir := hasHeir_run options acts
  refine ⟨?_, ?_, ?_, connecting_or_successor hsound hplain hheir,
    fun hphase hidle => exists_dial_of_idle hsound hplain hheir hidle hphase⟩
  · intro given
    obtain ⟨news, hnews, hgrounded⟩ := adds_act hsound hlogged hattributed given
    refine ⟨news, hnews, ?_⟩
    intro announcement hmem
    have hrun : (initial options).run (acts ++ [given]) = session.act given :=
      run_append (initial options) acts [given]
    have htruthful : (session.act given).Truthful := hrun ▸ truthful_run options _
    have hlater : announcement ∈ (session.act given).announcements :=
      hnews ▸ List.mem_append_right _ hmem
    exact ⟨hgrounded announcement hmem, (htruthful announcement hlater).openLinks_eq⟩
  · have hconsistent : session.Consistent :=
      Board.initial_consistent.afterSteps (steps_run (initial_sound options) acts)
    exact hconsistent.founded
  · intro hdone
    have hholder := holder_eq_none_of_all_done hsound hdone
    have hstage : session.stage = .queued := by simp [Line.stage, Line.held?, hholder]
    have hrests : Rests session.phase session.holdings := by
      have hfits := hsound.fits
      rwa [hstage] at hfits
    refine ⟨?_, openLinks_eq_toList hsound.holdsOpen, ?_, ?_, ?_⟩
    · intro hphase
      have hheld := hheir hphase hstage
      simp [hholder] at hheld
    · intro hphase
      rwa [hphase] at hrests
    · intro htold
      obtain ⟨scene, hlast, hholdings⟩ := standsAsTold_run options acts hstage htold
      obtain ⟨former, given, latter, hacts, hgrounds, hsame⟩ :=
        exists_grounds options acts hlast
      unfold IsGrounded at hgrounds
      rw [hholdings] at hgrounds
      exact ⟨former, given, latter, hacts, hgrounds, hsame⟩
    · intro hphase
      rw [hphase] at hrests
      obtain ⟨link, hlink⟩ := Option.isSome_iff_exists.mp hrests.2
      obtain ⟨id, call, profile, hcall, hended, hprofile, hcarries⟩ :=
        exists_carries hsound hlogged hattributed hphase hlink
      exact ⟨id, call, profile, link, hcall, hended, hprofile, hlink, hcarries⟩

/-- A session that a connect has brought up. -/
theorem direct_connect_agrees :
    let acts : List Act :=
      [.issue (.connect Profile.Sample.direct), .advance 0, .advance 0, .advance 0, .advance 0,
        .advance 0]
    let session := (initial .standard).run acts
    (∀ call ∈ session.calls, call.stage.isDone = true) ∧ session.phase = .connected ∧
      ∃ (call : Call) (link : LinkId), session.holdings.link = some link ∧
        session.Carries call Profile.Sample.direct link := by
  intro acts session
  have hdone : ∀ call ∈ session.calls, call.stage.isDone = true := by decide +kernel
  have hphase : session.phase = .connected := by decide +kernel
  have hheld : session.holdings.profile = some Profile.Sample.direct := by decide +kernel
  obtain ⟨-, -, hrests, -⟩ := phase_and_holdings_agree .standard acts
  obtain ⟨-, -, -, -, hup⟩ := hrests hdone
  obtain ⟨id, call, profile, link, -, -, hprofile, hlink, hcarries⟩ := hup hphase
  obtain rfl : profile = Profile.Sample.direct := Option.some.inj (hprofile.symm.trans hheld)
  exact ⟨hdone, hphase, call, link, hlink, hcarries⟩

/-- As long as a session is connecting and no disconnect or shutdown is between its two steps,
a connect is under way, or a call that is newer than all that have ended stands in line. -/
theorem connecting_waits_for_a_queued_call (options : Options) (acts : List Act) :
    let session := (initial options).run acts
    session.phase = .connecting → ¬ session.IsEnding →
      session.IsConnecting ∨
        ∃ (id : Nat) (call : Call), session.holder = some id ∧ session.calls[id]? = some call ∧
          call.stage = .queued ∧
          ∀ (other : Nat) ended, session.calls[other]? = some ended →
            ended.stage.isDone = true → ended.generation < call.generation := by
  intro session hphase hnotEnding
  rcases connecting_or_successor (sound_run options acts) (allPlain_run options acts)
    (hasHeir_run options acts) hphase with hconnecting | hsuccessor
  · exact .inl hconnecting
  · exact hsuccessor.connecting_or_queued hnotEnding

end NodeLink.Session
