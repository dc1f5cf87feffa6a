import NodeLink.Proofs.Session.Footing
/-!
# After a shutdown

Once a shutdown was issued, it has not ended or the session is down and stays so.
Connects that were issued before it are overtaken, and those that come later are
refused before they do anything.
-/

namespace NodeLink.Session

/-- The session is down, and no connect that holds it has begun. -/
def StaysDown (session : Session) : Prop :=
  session.phase = .disconnected ∧
    ∀ (id : Nat) call profile, session.holder = some id → session.calls[id]? = some call →
      call.request = .connect profile → call.stage = .queued

def AwaitsShutdown (calls : List Call) : Prop :=
  ∃ (id : Nat) (call : Call), calls[id]? = some call ∧ call.request = .shutdown ∧
    call.stage.isDone = false

def HeedsShutdown (session : Session) : Prop :=
  session.isShutDown = true → AwaitsShutdown session.calls ∨ session.StaysDown

theorem staysDown_finish {id : Nat} (session : Session) (horderly : session.toLine.Orderly)
    (hholder : session.holder = some id) (hphase : session.phase = .disconnected)
    (result : Except Error Unit) : (session.finish id result).StaysDown := by
  refine ⟨hphase, ?_⟩
  intro next later profile hnext hlater _
  have hqueued : (session.finish id result).stage = .queued :=
    Line.stage_finish horderly hholder result
  rw [← hqueued]
  exact (Line.stage_eq hnext hlater).symm

section

variable {session later : Session} {id : Nat} {call : Call}

theorem staysDown_endSession (hsound : session.Sound) (hholder : session.holder = some id) :
    (session.endSession id).StaysDown :=
  staysDown_finish ((session.setProfile none).moveTo .disconnected) hsound.orderly hholder
    (phase_moveTo _ _) _

/-- A shutdown that goes on clears away the session or has brought it down. -/
theorem cleared_or_staysDown (hsound : session.Sound) (hholder : session.holder = some id)
    (hrequest : call.request = .shutdown) (hturn : Turn session id call later) :
    later = session.dropLink.setStage id .cleared ∨ later.StaysDown := by
  cases hturn.plain (by simp [hrequest]) with
  | cleared => exact .inl rfl
  | shutDown =>
      have hdown := staysDown_endSession hsound hholder
      exact .inr ⟨hdown.1, hdown.2⟩
  | overtaken hother | refused hother | ended hother => simp [hrequest] at hother

theorem heeds_shutdown_turn (hsound : session.Sound) (hcall : session.calls[id]? = some call)
    (hholder : session.holder = some id) (hrequest : call.request = .shutdown)
    (hturn : Turn session id call later) :
    AwaitsShutdown later.calls ∨ later.StaysDown := by
  rcases cleared_or_staysDown hsound hholder hrequest hturn with rfl | hdown
  · refine .inl ⟨id, { call with stage := .cleared }, ?_, hrequest, rfl⟩
    show (session.calls.modify id fun call => { call with stage := .cleared })[id]? = _
    simp [hcall]
  · exact .inr hdown

theorem staysDown_turn (hsound : session.Sound) (hcall : session.calls[id]? = some call)
    (hholder : session.holder = some id) (hshut : session.isShutDown = true)
    (hdown : session.StaysDown) (hturn : Turn session id call later) : later.StaysDown := by
  cases hturn.plain fun profile => hdown.2 id call profile hholder hcall with
  | overtaken | refused => exact staysDown_finish session hsound.orderly hholder hdown.1 _
  | cleared hgoes =>
      refine ⟨hdown.1, ?_⟩
      intro next later profile hnext hlater hrequest
      obtain rfl : id = next := Option.some.inj (hholder.symm.trans hnext)
      obtain ⟨former, hformer, rfl⟩ := exists_of_getElem?_modify hlater
      rw [if_pos rfl] at hrequest
      obtain rfl : call = former := Option.some.inj (hcall.symm.trans hformer)
      have hopen := (hgoes profile hrequest).2
      simp [hshut] at hopen
  | ended => exact staysDown_endSession hsound hholder
  | shutDown =>
      have hended := staysDown_endSession hsound hholder
      exact ⟨hended.1, hended.2⟩

/-- After a shutdown a connect is refused as soon as it goes on, unless it is overtaken. -/
theorem turned_away {profile : Profile} {next : Call} (hcall : session.calls[id]? = some call)
    (hrequest : call.request = .connect profile) (hstage : call.stage = .queued)
    (hshut : session.isShutDown = true) (hturn : Turn session id call later)
    (hnext : later.calls[id]? = some next) :
    next.stage = .done (.error (.setup .shutDown)) ∨
      session.isOvertaken call = true ∧ next.stage = .done (.error .superseded) := by
  cases hturn.plain fun _ _ => hstage with
  | refused =>
      obtain rfl := Line.eq_of_modify_self hcall hnext
      exact .inl rfl
  | overtaken _ hovertaken =>
      obtain rfl := Line.eq_of_modify_self hcall hnext
      exact .inr ⟨hovertaken, rfl⟩
  | cleared hgoes => simp [(hgoes profile hrequest).2] at hshut
  | ended hother | shutDown hother => simp [hrequest] at hother

theorem staysDown_issue (hdown : session.StaysDown)
    (request : Request) : (session.issue request).StaysDown := by
  refine ⟨hdown.1, ?_⟩
  intro id call profile hholder hcall hrequest
  rcases Line.getElem?_issue hcall with hold | ⟨rfl, rfl⟩
  · cases hformer : session.holder with
    | none =>
        have hnext : (session.issue request).holder = some session.calls.length := by
          simp [issue, Line.issue, hformer]
        obtain rfl : session.calls.length = id := Option.some.inj (hnext.symm.trans hholder)
        simp at hold
    | some former =>
        have hnext : (session.issue request).holder = some former := by
          simp [issue, Line.issue, hformer]
        obtain rfl : former = id := Option.some.inj (hnext.symm.trans hholder)
        exact hdown.2 former call profile hformer hold hrequest
  · rfl

theorem heedsShutdown_deed (hsound : session.Sound) (hheeds : session.HeedsShutdown)
    (hdeed : session.Deed later) : later.HeedsShutdown := by
  intro hshut
  cases hdeed with
  | issued request =>
      have heither : session.isShutDown = true ∨ request = .shutdown := by
        simpa [issue, Line.issue] using hshut
      rcases heither with hformer | rfl
      · rcases hheeds hformer with ⟨id, call, hcall, hrequest, hdone⟩ | hdown
        · exact .inl ⟨id, call, Line.getElem?_issue_of_some request hcall, hrequest, hdone⟩
        · exact .inr (staysDown_issue hdown request)
      · exact .inl ⟨_, _, Line.getElem?_issue_self session.toLine .shutdown, rfl, rfl⟩
  | turned hcall hholder hturn =>
      rename_i id call
      rw [hturn.isShutDown_eq] at hshut
      rcases hheeds hshut with ⟨shut, shutdown, hfound, hrequest, hdone⟩ | hdown
      · by_cases hself : shut = id
        · subst hself
          obtain rfl : call = shutdown := Option.some.inj (hcall.symm.trans hfound)
          exact heeds_shutdown_turn hsound hcall hholder hrequest hturn
        · exact .inl ⟨shut, shutdown, (hturn.getElem?_of_ne hself).trans hfound, hrequest, hdone⟩
      · exact .inr (staysDown_turn hsound hcall hholder hshut hdown hturn)
  | lost hphase hlink =>
      rcases hheeds hshut with hawaits | hdown
      · exact .inl hawaits
      -- a session that is down has no connection to lose
      · simp [hdown.1] at hphase
  | sent | resolved | waited | cued | enrolled => exact hheeds hshut

/-! ## Whether a shutdown was issued -/

theorem toLine_noteLoss (session : Session) (link : Rehearsal.LinkId) :
    (session.noteLoss link).toLine = session.toLine := by
  unfold noteLoss
  split
  next => rfl
  next => rfl

theorem Sending.toLine_eq {session later : Session} {service : Service} {payload : List UInt8}
    (hsending : Sending session service payload later) : later.toLine = session.toLine := by
  cases hsending with
  | refused | asked => rfl
  | foundLost => exact toLine_noteLoss _ _

theorem toLine_runTask (session : Session) (id : Nat) :
    (session.runTask id).toLine = session.toLine ∧ (session.runTask id).now = session.now := by
  rcases session.runTask_eq_self_or_resolved id with hrest | ⟨task, -, -, -, hlater⟩
  · simp only [hrest, and_self]
  · rw [hlater]
    exact ⟨rfl, rfl⟩

theorem isShutDown_act (session : Session) (given : Act) :
    (session.act given).isShutDown =
      (session.isShutDown || decide (given = .issue .shutdown)) := by
  cases given with
  | issue request => simp [act, issue, Line.issue, Bool.beq_eq_decide_eq]
  | advance id =>
      have hkept : (session.advance id).isShutDown = session.isShutDown := by
        rcases session.advance_eq_self_or_turn id with hrest | ⟨call, -, -, hturn⟩
        · rw [hrest]
        · exact hturn.isShutDown_eq
      simp [act, hkept]
  | send service payload => simp [act, (session.sending service payload).toLine_eq]
  | report link => simp [act, toLine_noteLoss]
  | refresh id =>
      simp [act, (session.toLine_runTask id).1]
  | wait | cue | listen | unlisten => simp [act, wait, cue, listen, unlisten]

theorem isShutDown_run (session : Session) (acts : List Act) :
    (session.run acts).isShutDown = true ↔
      session.isShutDown = true ∨ Act.issue .shutdown ∈ acts := by
  induction acts generalizing session with
  | nil => simp [run]
  | cons given acts ih =>
      show ((session.act given).run acts).isShutDown = true ↔ _
      rw [ih, isShutDown_act, Bool.or_eq_true, decide_eq_true_eq, List.mem_cons, or_assoc,
        @eq_comm _ given]

/-- A session that was never asked to shut down is open. -/
theorem isShutDown_eq_false_of_run {options : Options} {acts : List Act}
    (hopen : Act.issue .shutdown ∉ acts) : ((initial options).run acts).isShutDown = false := by
  rw [← Bool.not_eq_true, isShutDown_run]
  simp [initial, Line.initial, hopen]

theorem heedsShutdown_run (options : Options) (acts : List Act) :
    ((initial options).run acts).HeedsShutdown := by
  apply run_induction
  · intro session later hsound hdeed hheeds
    exact heedsShutdown_deed hsound hheeds hdeed
  · intro hshut
    simp [initial, Line.initial] at hshut

end

end NodeLink.Session
