import NodeLink.Proofs.Session.Alone
import NodeLink.Session.Scenario
/-!
# Schedules are punctual

A schedule lets all calls go on that can before it lets time pass, and then time
passes to the next timer at most.  It bounds the number of its steps, but every
turn brings a call nearer to its end, so the bound is never what stops it.  Thus
every scenario is a run under a punctual clock, and what was shown of runs holds
of it.
-/

namespace NodeLink.Session

open NodeLink.Rehearsal (Network)

/-! ## Calls that do not connect -/

/-- A call that does not connect has no stages but these. -/
def IsPlain (call : Call) : Prop :=
  (∃ profile, call.request = .connect profile) ∨ call.stage = .queued ∨ call.stage = .cleared ∨
    call.stage.isDone = true

def AllPlain (session : Session) : Prop :=
  ∀ (id : Nat) call, session.calls[id]? = some call → IsPlain call

theorem initial_allPlain (options : Options) : (initial options).AllPlain := by
  intro id call hcall
  simp [initial, Line.initial] at hcall

section

variable {session later : Session} {id : Nat} {call next : Call}

theorem isPlain_turn (hcall : session.calls[id]? = some call) (hturn : Turn session id call later)
    (hnext : later.calls[id]? = some next) : IsPlain next := by
  cases hturn with
  | overtaken hrequest | refused hrequest | left hrequest | hindered hrequest | bound hrequest
  | failed hrequest | dialed hrequest | signedIn hrequest | connected hrequest | fell hrequest =>
      obtain rfl := Line.eq_of_modify_self hcall hnext
      exact .inl ⟨_, hrequest⟩
  | cleared =>
      obtain rfl := Line.eq_of_modify_self hcall hnext
      exact .inr (.inr (.inl rfl))
  | ended | shutDown =>
      obtain rfl := Line.eq_of_modify_self hcall hnext
      exact .inr (.inr (.inr rfl))

theorem allPlain_deed (hplain : session.AllPlain) (hdeed : session.Deed later) :
    later.AllPlain := by
  intro other found hfound
  cases hdeed with
  | issued request =>
      rcases Line.getElem?_issue hfound with hold | ⟨-, rfl⟩
      · exact hplain other found hold
      · exact .inr (.inl rfl)
  | turned hcall hholder hturn =>
      rename_i id call
      by_cases hself : other = id
      · subst hself
        exact isPlain_turn hcall hturn hfound
      · rw [hturn.getElem?_of_ne hself] at hfound
        exact hplain other found hfound
  | sent | lost | resolved | waited | cued | enrolled => exact hplain other found hfound

theorem allPlain_deeds (hplain : session.AllPlain) (hdeeds : session.Deeds later) :
    later.AllPlain := by
  induction hdeeds with
  | refl => exact hplain
  | tail _ hdeed ih => exact allPlain_deed ih hdeed

/-! ## Settling -/

theorem exists_turn_of_isReady (hplain : session.AllPlain) (hready : session.isReady id = true) :
    ∃ call, session.calls[id]? = some call ∧ Turn session id call (session.advance id) := by
  unfold isReady at hready
  cases hcall : session.calls[id]? with
  | none => simp [hcall] at hready
  | some call =>
      refine ⟨call, rfl, ?_⟩
      simp only [hcall, Bool.and_eq_true, decide_eq_true_eq] at hready
      obtain ⟨hholder, hstage⟩ := hready
      have hgoes : session.IsReady call := by
        constructor
        · cases hdone : call.stage with
          | done result => simp [hdone] at hstage
          | queued | cleared | bound | dialing | answered | dropped => rfl
        · intro dial hdialing
          simpa [hdialing, or_assoc] using hstage
      cases hrequest : call.request with
      | connect profile => exact turn_of_isReady hcall hholder hrequest hgoes
      | disconnect =>
          rcases hplain id call hcall with ⟨profile, hother⟩ | hqueued | hcleared | hdone
          · simp [hrequest] at hother
          · have hadvance : session.advance id = session.dropLink.setStage id .cleared := by
              simp [advance, hcall, hholder, hrequest, advanceDisconnect, hqueued]
            rw [hadvance]
            exact .cleared hqueued (by simp [hrequest])
          · have hadvance : session.advance id = session.endSession id := by
              simp [advance, hcall, hholder, hrequest, advanceDisconnect, hcleared]
            rw [hadvance]
            exact .ended hrequest hcleared
          · simp [hgoes.1] at hdone
      | shutdown =>
          rcases hplain id call hcall with ⟨profile, hother⟩ | hqueued | hcleared | hdone
          · simp [hrequest] at hother
          · have hadvance : session.advance id = session.dropLink.setStage id .cleared := by
              simp [advance, hcall, hholder, hrequest, advanceShutdown, hqueued]
            rw [hadvance]
            exact .cleared hqueued (by simp [hrequest])
          · have hadvance : session.advance id = { session.endSession id with
                toBoard := (session.endSession id).toBoard.dismiss } := by
              simp [advance, hcall, hholder, hrequest, advanceShutdown, hcleared]
            rw [hadvance]
            exact .shutDown hrequest hcleared
          · simp [hgoes.1] at hdone

def remainingTurns : List Call → Nat
  | [] => 0
  | call :: calls => call.stage.rank + remainingTurns calls

theorem remainingTurns_modify {calls : List Call} (change : Call → Call)
    (hcall : calls[id]? = some call) :
    remainingTurns (calls.modify id change) + call.stage.rank =
      remainingTurns calls + (change call).stage.rank := by
  induction calls generalizing id with
  | nil => simp at hcall
  | cons first calls ih =>
      cases id with
      | zero =>
          obtain rfl : first = call := Option.some.inj hcall
          simp only [List.modify_zero_cons, remainingTurns]
          omega
      | succ id =>
          have hrest := ih hcall
          simp only [List.modify_succ_cons, remainingTurns]
          omega

theorem remainingTurns_le (calls : List Call) :
    remainingTurns calls ≤ stageCount * calls.length := by
  induction calls with
  | nil => exact Nat.le_refl _
  | cons call calls ih =>
      have hrank : call.stage.rank ≤ stageCount := call.stage.rank_le
      simp only [remainingTurns, List.length_cons, Nat.mul_succ]
      omega

theorem isDone_of_remainingTurns_eq_zero {calls : List Call} (hzero : remainingTurns calls = 0)
    (hcall : calls[id]? = some call) : call.stage.isDone = true := by
  induction calls generalizing id with
  | nil => simp at hcall
  | cons first calls ih =>
      simp only [remainingTurns, Nat.add_eq_zero_iff] at hzero
      cases id with
      | zero =>
          obtain rfl : first = call := Option.some.inj hcall
          cases hstage : first.stage with
          | done result => rfl
          | queued | cleared | bound | dialing | answered | dropped =>
              simp [hstage, Stage.rank] at hzero
      | succ id => exact ih hzero.2 hcall

theorem Turn.remainingTurns_lt (hturn : Turn session id call later)
    (hcall : session.calls[id]? = some call) :
    remainingTurns later.calls < remainingTurns session.calls := by
  obtain ⟨change, hcalls, -⟩ := hturn.calls_eq
  have hnext : later.calls[id]? = some (change call) := by simp [hcalls, hcall]
  have hrank := hturn.rank_lt hcall hnext
  have hsum := remainingTurns_modify change hcall
  rw [hcalls]
  omega

def IsIdle (session : Session) : Prop :=
  ∀ id : Nat, session.isReady id = false

theorem isIdle_of_readyCall?_eq_none (hnone : session.readyCall? = none) : session.IsIdle := by
  intro id
  by_cases hlt : id < session.calls.length
  · have hready := List.find?_eq_none.mp hnone id (List.mem_range.mpr hlt)
    simpa using hready
  · simp [isReady, List.getElem?_eq_none (Nat.not_lt.mp hlt)]

/-- A call that holds an idle session waits for its dial. -/
theorem IsIdle.dialing (hidle : session.IsIdle) (hplain : session.AllPlain)
    (hcall : session.calls[id]? = some call) (hholder : session.holder = some id)
    (hopen : call.stage.isDone = false) :
    session.isOvertaken call = false ∧
      ∃ profile dial, call.request = .connect profile ∧ call.stage = .dialing dial := by
  have hrests := hidle id
  simp only [isReady, hcall, hholder, decide_true, Bool.true_and] at hrests
  cases hstage : call.stage with
  | dialing dial =>
      simp only [hstage, Bool.or_eq_false_iff] at hrests
      refine ⟨hrests.1.1, ?_⟩
      rcases hplain id call hcall with ⟨profile, hrequest⟩ | hother | hother | hother
      · exact ⟨profile, dial, hrequest, rfl⟩
      · simp [hstage] at hother
      · simp [hstage] at hother
      · simp [hstage, Stage.isDone] at hother
  | done result => simp [hstage, Stage.isDone] at hopen
  | queued | cleared | bound | answered | dropped => simp [hstage] at hrests

/-- The bound on the number of steps is not what stops the calls. -/
theorem isIdle_settleCalls (hplain : session.AllPlain) {steps : Nat}
    (hsteps : remainingTurns session.calls ≤ steps) : (settleCalls steps session).IsIdle := by
  induction steps generalizing session with
  | zero =>
      intro id
      have hzero : remainingTurns session.calls = 0 := Nat.le_zero.mp hsteps
      cases hcall : session.calls[id]? with
      | none => simp [settleCalls, isReady, hcall]
      | some call =>
          have hdone := isDone_of_remainingTurns_eq_zero hzero hcall
          cases hstage : call.stage with
          | done result => simp [settleCalls, isReady, hcall, hstage]
          | queued | cleared | bound | dialing | answered | dropped =>
              simp [hstage, Stage.isDone] at hdone
  | succ steps ih =>
      simp only [settleCalls]
      cases hready : session.readyCall? with
      | none => exact isIdle_of_readyCall?_eq_none hready
      | some id =>
          obtain ⟨call, hcall, hturn⟩ :=
            exists_turn_of_isReady hplain (List.find?_some hready)
          have hlt := hturn.remainingTurns_lt hcall
          exact ih (allPlain_deeds hplain (session.deeds_advance id)) (by omega)

theorem isReady_congr (hline : later.toLine = session.toLine) (hnow : later.now = session.now)
    (id : Nat) : later.isReady id = session.isReady id := by
  simp only [isReady, hline, hnow]

theorem isIdle_runTask (hidle : session.IsIdle) (id : Nat) : (session.runTask id).IsIdle := by
  intro other
  obtain ⟨hline, hnow⟩ := session.toLine_runTask id
  rw [isReady_congr hline hnow]
  exact hidle other

theorem isIdle_runTasks (hidle : session.IsIdle) : session.runTasks.IsIdle := by
  unfold runTasks
  induction List.range session.tasks.length generalizing session with
  | nil => exact hidle
  | cons id ids ih => exact ih (isIdle_runTask hidle id)

theorem isIdle_settle (hplain : session.AllPlain) : session.settle.IsIdle :=
  isIdle_runTasks (isIdle_settleCalls hplain (remainingTurns_le session.calls))

/-! ## Punctual runs -/

/-- A run under a punctual clock leads from one session to another. -/
def Leads (session later : Session) : Prop :=
  ∃ acts, session.run acts = later ∧ Along Punctual session acts

theorem Leads.refl (session : Session) : session.Leads session :=
  ⟨[], rfl, trivial⟩

theorem Leads.trans {last : Session} (hfirst : session.Leads later) (hsecond : later.Leads last) :
    session.Leads last :=
  exists_run_trans hfirst hsecond

theorem leads_act (given : Act) (hpunctual : session.Punctual given) :
    session.Leads (session.act given) :=
  ⟨[given], rfl, hpunctual, trivial⟩

theorem Leads.allPlain (hleads : session.Leads later) (hplain : session.AllPlain) :
    later.AllPlain := by
  obtain ⟨acts, rfl, -⟩ := hleads
  exact allPlain_deeds hplain (session.deeds_run acts)

/-- Calls settle by going on one after the other, while no time passes. -/
theorem exists_advances (session : Session) (steps : Nat) :
    ∃ acts : List Act, (∀ given ∈ acts, ∃ id, given = .advance id) ∧
      session.run acts = settleCalls steps session ∧
      (settleCalls steps session).now = session.now := by
  induction steps generalizing session with
  | zero => exact ⟨[], by simp, rfl, rfl⟩
  | succ steps ih =>
      simp only [settleCalls]
      cases session.readyCall? with
      | none => exact ⟨[], by simp, rfl, rfl⟩
      | some id =>
          obtain ⟨acts, hacts, hrun, hnow⟩ := ih (session.advance id)
          have hsame : (session.advance id).now = session.now := by
            rcases session.advance_eq_self_or_turn id with hrest | ⟨call, -, -, hturn⟩
            · rw [hrest]
            · exact hturn.now_eq
          refine ⟨.advance id :: acts, ?_, hrun, hnow.trans hsame⟩
          intro given hgiven
          rcases List.mem_cons.mp hgiven with rfl | hmem
          · exact ⟨id, rfl⟩
          · exact hacts given hmem

theorem leads_settleCalls (session : Session) (steps : Nat) :
    session.Leads (settleCalls steps session) := by
  obtain ⟨acts, hacts, hrun, -⟩ := session.exists_advances steps
  refine ⟨acts, hrun, along_of_admits ?_ session⟩
  intro given hgiven later
  obtain ⟨id, rfl⟩ := hacts given hgiven
  trivial

theorem leads_runTasks (session : Session) : session.Leads session.runTasks := by
  unfold runTasks
  induction List.range session.tasks.length generalizing session with
  | nil => exact .refl session
  | cons id ids ih =>
      have hrefresh : session.Leads (session.runTask id) := leads_act (.refresh id) trivial
      exact hrefresh.trans (ih _)

theorem leads_settle (session : Session) : session.Leads session.settle :=
  (leads_settleCalls session _).trans (leads_runTasks _)

theorem leads_wait {instant : Nat} (hidle : session.IsIdle)
    (htimer : ∀ timer : Nat, session.nextTimer? = some timer → instant ≤ timer) :
    session.Leads (session.wait instant).settle :=
  (leads_act (.wait instant) ⟨hidle, htimer⟩).trans (leads_settle _)

theorem leads_awaitCall (hplain : session.AllPlain) (hidle : session.IsIdle) (moves : Nat)
    (id : Nat) : session.Leads (awaitCall moves session id) := by
  induction moves generalizing session with
  | zero => exact .refl session
  | succ moves ih =>
      simp only [awaitCall]
      split
      next => exact .refl session
      next =>
        cases htimer : session.nextTimer? with
        | none => exact .refl session
        | some instant =>
            have hmove : session.Leads (session.wait instant).settle := by
              refine leads_wait hidle fun timer hnext => ?_
              obtain rfl : instant = timer := Option.some.inj (htimer.symm.trans hnext)
              exact Nat.le_refl _
            have hwaited : (session.wait instant).AllPlain := hplain
            exact hmove.trans (ih (hmove.allPlain hplain) (isIdle_settle hwaited))

theorem leads_join (hplain : session.AllPlain) (id : Nat) :
    session.Leads (session.join id).1 := by
  have hsettled := session.leads_settle
  exact hsettled.trans (leads_awaitCall (hsettled.allPlain hplain) (isIdle_settle hplain) _ id)

theorem leads_perform (hplain : session.AllPlain) (request : Request) :
    session.Leads (session.perform request).1 := by
  have hissue : session.Leads (session.issue request) := leads_act (.issue request) trivial
  exact hissue.trans (leads_join (hissue.allPlain hplain) _)

theorem now_settle (session : Session) : session.settle.now = session.now := by
  obtain ⟨acts, -, -, hcalls⟩ :=
    session.exists_advances (stageCount * session.calls.length)
  have htasks : ∀ session : Session, session.runTasks.now = session.now := by
    intro session
    unfold runTasks
    induction List.range session.tasks.length generalizing session with
    | nil => rfl
    | cons id ids ih => exact (ih (session.runTask id)).trans (session.toLine_runTask id).2
  exact (htasks _).trans hcalls

theorem lt_of_nextTimer? {timer : Nat} (htimer : session.nextTimer? = some timer) :
    session.now < timer := by
  have hmem := (List.min?_eq_some_iff.mp htimer).1
  rw [List.mem_filter, decide_eq_true_eq] at hmem
  exact hmem.2

/-- Every move of time takes at least a nanosecond, so the bound on their number is
not what stops them. -/
theorem sleepUntil_induction (ready : Session → Prop) (leads : Session → Session → Prop)
    (htrans : ∀ former between latter, leads former between → leads between latter →
      leads former latter)
    (hmove : ∀ (session : Session) (instant : Nat), ready session →
      (∀ timer : Nat, session.nextTimer? = some timer → instant ≤ timer) →
      leads session (session.wait instant).settle ∧ ready (session.wait instant).settle)
    {moves instant : Nat} (hready : ready session) (hbound : instant ≤ session.now + moves) :
    leads session (sleepUntil moves session instant) ∧
      (sleepUntil moves session instant).now = max session.now instant := by
  induction moves generalizing session with
  | zero =>
      -- the instant has come already, and timers lie ahead
      have hlast := hmove session instant hready fun timer htimer =>
        Nat.le_trans hbound (Nat.le_of_lt (lt_of_nextTimer? htimer))
      exact ⟨hlast.1, now_settle _⟩
  | succ moves ih =>
      simp only [sleepUntil]
      cases htimer : session.nextTimer? with
      | none => exact ⟨(hmove session instant hready (by simp [htimer])).1, now_settle _⟩
      | some timer =>
          have hlater := lt_of_nextTimer? htimer
          have hnext : ∀ other : Nat, session.nextTimer? = some other → timer = other :=
            fun other hother => Option.some.inj (htimer.symm.trans hother)
          simp only
          split
          next hbefore =>
            obtain ⟨hfirst, hmoved⟩ := hmove session timer hready fun other hother =>
              Nat.le_of_eq (hnext other hother)
            have hnow : (session.wait timer).settle.now = timer :=
              (now_settle _).trans (Nat.max_eq_right (Nat.le_of_lt hlater))
            have hfar : instant ≤ (session.wait timer).settle.now + moves := by
              rw [hnow]
              calc
                instant ≤ session.now + (moves + 1) := hbound
                _ = session.now + 1 + moves := (Nat.succ_add_eq_add_succ _ _).symm
                _ ≤ timer + moves := Nat.add_le_add_right hlater moves
            obtain ⟨hrest, hend⟩ := ih hmoved hfar
            refine ⟨htrans _ _ _ hfirst hrest, hend.trans ?_⟩
            rw [hnow, Nat.max_eq_right (Nat.le_of_lt hbefore),
              Nat.max_eq_right (Nat.le_of_lt (Nat.lt_trans hlater hbefore))]
          next hafter =>
            have hlast := hmove session instant hready fun other hother =>
              hnext other hother ▸ Nat.not_lt.mp hafter
            exact ⟨hlast.1, now_settle _⟩

theorem leads_sleepUntil (hplain : session.AllPlain) (hidle : session.IsIdle)
    {moves instant : Nat} (hbound : instant ≤ session.now + moves) :
    session.Leads (sleepUntil moves session instant) := by
  refine (sleepUntil_induction (fun session => session.AllPlain ∧ session.IsIdle) Leads
    (fun _ _ _ => Leads.trans) ?_ ⟨hplain, hidle⟩ hbound).1
  rintro session instant ⟨hplain, hidle⟩ htimer
  have hmove : session.Leads (session.wait instant).settle := leads_wait hidle htimer
  have hwaited : (session.wait instant).AllPlain := hplain
  exact ⟨hmove, hmove.allPlain hplain, isIdle_settle hwaited⟩

theorem leads_sleep (hplain : session.AllPlain) (duration : Duration) :
    session.Leads (session.sleep duration) := by
  have hsettled := session.leads_settle
  refine hsettled.trans
    (leads_sleepUntil (hsettled.allPlain hplain) (isIdle_settle hplain) (Nat.le_of_eq ?_))
  rw [now_settle]

/-! ## Scenarios -/

theorem leads_ask (session : Session) (inquiry : Exchange.Inquiry) :
    session.Leads (Exchange.ask session inquiry).1 := by
  have hsend : session.Leads (session.send inquiry.service inquiry.payload).1 :=
    leads_act (.send inquiry.service inquiry.payload) trivial
  unfold Exchange.ask
  cases hanswer : session.send inquiry.service inquiry.payload with
  | mk sent reply =>
      rw [hanswer] at hsend
      cases reply with
      | error error => exact hsend
      | ok body =>
          simp only
          split
          next => exact hsend
          next => exact hsend

theorem leads_step (scenario : Scenario) (hplain : scenario.session.AllPlain)
    (step : Scenario.Step) : scenario.session.Leads (scenario.run step).1.session := by
  cases step with
  | cue cue => exact leads_act (.cue cue) trivial
  | connect profile => exact leads_perform hplain _
  | start name profile =>
      have hissue : scenario.session.Leads (scenario.session.issue (.connect profile)) :=
        leads_act (.issue _) trivial
      exact hissue.trans (leads_settle _)
  | join name =>
      simp only [Scenario.run, Scenario.join]
      cases Scenario.lookUp scenario.started name with
      | none => exact .refl _
      | some id => exact leads_join hplain id
  | disconnect => exact leads_perform hplain _
  | shutdown => exact leads_perform hplain _
  | send service payload => exact leads_act (.send service payload) trivial
  | ask inquiry => exact leads_ask scenario.session inquiry
  | listen listener => exact leads_act (.listen listener) trivial
  | unlisten name => exact leads_act (.unlisten name) trivial
  | sleep duration => exact leads_sleep hplain duration
  | hasEnded | watch | look | profile | openLinks => exact .refl _

/-- The session of a scenario is one that a run under a punctual clock leads to. -/
theorem leads_scenario (options : Options) (steps : List Scenario.Step) :
    (initial options).Leads
      (steps.foldl (fun scenario step => (scenario.run step).1)
        (Scenario.initial (initial options))).session := by
  have hsteps : ∀ scenario : Scenario, scenario.session.AllPlain →
      scenario.session.Leads
        (steps.foldl (fun scenario step => (scenario.run step).1) scenario).session := by
    induction steps with
    | nil => exact fun scenario _ => .refl scenario.session
    | cons step steps ih =>
        intro scenario hplain
        have hstep := leads_step scenario hplain step
        exact hstep.trans (ih (scenario.run step).1 (hstep.allPlain hplain))
  exact hsteps (Scenario.initial (initial options)) (initial_allPlain options)

end

end NodeLink.Session
