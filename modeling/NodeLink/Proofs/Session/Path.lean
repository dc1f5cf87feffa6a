import NodeLink.Proofs.Session.Footing
/-!
# The path of phases

The phase of a session is written in four places: a connect begins, comes up or
fails, a call ends the session, and a request finds the connection lost.  What
the session holds at these places tells which phase each of them meets, so the
phases that are announced never leave the edges between phases.
-/

namespace NodeLink.Session

open NodeLink.Rehearsal (LinkId)

theorem Phase.edge_disconnected {phase : Phase} (hother : phase ≠ .disconnected) :
    phase.Edge .disconnected := by
  cases phase with
  | disconnected => exact absurd rfl hother
  | connecting => exact .abandon
  | connected => exact .leave
  | failed => exact .forget

section

variable {session : Session}

theorem steps_moveTo {phase : Phase}
    (hedge : session.phase ≠ phase → session.phase.Edge phase) :
    session.toBoard.Steps (session.moveTo phase).toBoard :=
  session.toBoard.steps_moveTo session.scene hedge

theorem steps_startOver (profile : Profile) :
    session.toBoard.Steps (session.startOver profile).toBoard := by
  let forgotten := session.setProfile none
  have hdown : session.toBoard.Steps forgotten.comeDown.toBoard ∧
      (forgotten.comeDown.phase = .disconnected ∨ forgotten.comeDown.phase = .failed) := by
    unfold comeDown Board.comeDown
    simp only
    split
    next hup =>
      refine ⟨?_, .inl (phase_moveTo forgotten .disconnected)⟩
      exact forgotten.toBoard.steps_moveTo forgotten.scene Phase.edge_disconnected
    next hdown =>
      refine ⟨.refl, ?_⟩
      cases hphase : forgotten.phase with
      | disconnected => exact .inl rfl
      | failed => exact .inr rfl
      | connecting | connected => simp [hphase] at hdown
  refine hdown.1.trans ?_
  apply Board.steps_moveTo
  intro _
  show forgotten.comeDown.phase.Edge .connecting
  rcases hdown.2 with hphase | hphase
  · rw [hphase]
    exact .begin
  · rw [hphase]
    exact .retry

theorem steps_endSession (id : Nat) :
    session.toBoard.Steps (session.endSession id).toBoard :=
  (session.setProfile none).toBoard.steps_moveTo _ Phase.edge_disconnected

theorem steps_turn {later : Session} {id : Nat} {call : Call} (hsound : session.Sound)
    (hcall : session.calls[id]? = some call) (hholder : session.holder = some id)
    (hturn : Turn session id call later) : session.toBoard.Steps later.toBoard := by
  have hfits := hsound.fits_call hcall hholder
  cases hturn with
  | overtaken | refused | cleared | failed | dialed | signedIn => exact .refl
  | left hrequest hstage hovertaken => exact steps_startOver _
  | hindered hrequest hstage hnewest hobstacle binds => exact steps_startOver _
  | bound hrequest hstage hnewest hobstacle binds => exact steps_startOver _
  | connected hrequest hstage hnewest =>
      rename_i profile link
      rw [hstage] at hfits
      apply Board.steps_moveTo
      intro _
      show session.phase.Edge .connected
      rw [hfits.phase_eq]
      exact .arrive
  | fell hrequest hstage =>
      rw [hstage] at hfits
      apply steps_moveTo
      intro _
      rw [hfits.1]
      exact .fail
  | ended hrequest hstage => exact steps_endSession id
  | shutDown hrequest hstage =>
      exact (steps_endSession id).trans
        (Board.steps_enrol _ (session.endSession id).roster.extends_clear)

theorem steps_deed {later : Session} (hsound : session.Sound) (hdeed : session.Deed later) :
    session.toBoard.Steps later.toBoard := by
  cases hdeed with
  | turned hcall hholder hturn => exact steps_turn hsound hcall hholder hturn
  | lost hphase hlink =>
      apply Board.steps_moveTo
      intro _
      show session.phase.Edge .failed
      rw [hphase]
      exact .lose
  | enrolled hextends => exact Board.steps_enrol _ hextends
  | issued | sent | resolved | waited | cued => exact .refl

theorem steps_run (hsound : session.Sound) (acts : List Act) :
    session.toBoard.Steps (session.run acts).toBoard := by
  apply deeds_induction (motive := fun later => session.toBoard.Steps later.toBoard) ?_ hsound
    (session.deeds_run acts) .refl
  intro former later hformer hdeed hsteps
  exact hsteps.trans (steps_deed hformer hdeed)

end

/-- The phases that are announced in a run never repeat and follow the edges.  At
any time the session and its receivers are at the phase that was announced last,
and so they are whenever a listener is called; and a listener that is on the
roster before and after some acts has heard all that was announced meanwhile. -/
theorem announced_path (options : Options) (before after : List Act) :
    let session := (initial options).run before
    let later := session.run after
    (Phase.initial :: session.announced).IsChain Phase.Edge ∧
      (Phase.initial :: session.announced).IsChain (· ≠ ·) ∧
      session.phase = session.published ∧
      session.latest = session.published ∧
      (∀ event ∈ session.events, event.IsCurrent) ∧
      ∀ id ∈ session.roster.ids, id ∈ later.roster.ids →
        ∃ phases, later.announced = session.announced ++ phases ∧
          later.heard id = session.heard id ++ phases := by
  intro session later
  have hsound : session.Sound := sound_run options before
  have hconsistent : session.Consistent :=
    Board.initial_consistent.afterSteps (steps_run (initial_sound options) before)
  refine ⟨hconsistent.path, ?_, hconsistent.phase_eq, hconsistent.latest_eq,
    hconsistent.current, ?_⟩
  · exact hconsistent.path.imp fun _ _ hedge => hedge.ne
  · intro id hbefore hafter
    exact Board.heard_of_steps (steps_run hsound after) hconsistent hbefore hafter

end NodeLink.Session
