import NodeLink.Proofs.Session.Aftermath
/-!
# Dials and deadlines

A connect that finds an address to dial ends when its dial ends, or when its time is over if
that comes first, and at no other instant.  If its time is over first, the dial is abandoned:
the link is closed without a word to the node, and nothing comes back to it later.
-/

namespace NodeLink.Session

open NodeLink.Rehearsal (Network LinkId Script Target)

/-! ## The clock of a connect -/

/-- When a connect that is issued now ends, if it comes to dial. -/
def dialEnd (session : Session) : Nat :=
  min (session.now + session.network.script.delay.nanos)
    (session.now + session.options.connectTimeout.nanos)

/-- What the clock shows at the stages of a connect: only a dial takes time, and the call ends
at the instant at which the dial does.  A task that goes on then is due later. -/
def Clocked (issued session : Session) : Stage → Prop
  | .queued => session.now = issued.now
  | .cleared => session.now = issued.now
  | .bound _ _ => session.now = issued.now
  | .dialing dial => dial.wake = issued.now + issued.network.script.delay.nanos ∧
      dial.deadline = issued.now + issued.options.connectTimeout.nanos
  | .answered _ _ => session.now = issued.dialEnd
  | .dropped _ => session.now = issued.dialEnd
  | .done _ => issued.dialEnd ≤ session.now ∧
      ∀ task ∈ session.tasks, task.live = true → issued.dialEnd < task.due

section

variable {issued session later : Session} {profile : Profile} {id : Nat} {call next : Call}
  {dial : Dial}

theorem le_dialEnd (hclocked : Clocked issued session (.dialing dial))
    (hbefore : session.now ≤ dial.wake ∧ session.now ≤ dial.deadline) :
    session.now ≤ issued.dialEnd := by
  obtain ⟨hwake, hdeadline⟩ := hclocked
  rw [hwake, hdeadline] at hbefore
  exact Nat.le_min.mpr hbefore

theorem eq_dialEnd (hclocked : Clocked issued session (.dialing dial))
    (hbefore : session.now ≤ dial.wake ∧ session.now ≤ dial.deadline)
    (hover : dial.wake ≤ session.now ∨ dial.deadline ≤ session.now) :
    session.now = issued.dialEnd := by
  refine Nat.le_antisymm (le_dialEnd hclocked hbefore) ?_
  obtain ⟨hwake, hdeadline⟩ := hclocked
  rw [hwake, hdeadline] at hover
  rcases hover with hends | hends
  · exact Nat.le_trans (Nat.min_le_left _ _) hends
  · exact Nat.le_trans (Nat.min_le_right _ _) hends

theorem now_of_setback {stage : Stage} {error : Error} (htarget : HasTarget profile)
    (hopen : ∀ dial, stage = .dialing dial → session.network.isOpen dial.link = true)
    (hbefore : ∀ dial, stage = .dialing dial →
      session.now ≤ dial.wake ∧ session.now ≤ dial.deadline)
    (hclocked : Clocked issued session stage) (hsetback : Setback session profile stage error) :
    session.now = issued.dialEnd := by
  cases hsetback with
  | noTarget hnone =>
      obtain ⟨target, hfound⟩ := htarget.exists_target
      rw [hfound] at hnone
      cases hnone
  | closed hwake hclosed => simp [hopen _ rfl] at hclosed
  | dialFailed hwake => exact eq_dialEnd hclocked (hbefore _ rfl) (.inl hwake)
  | timedOut _ hdeadline => exact eq_dialEnd hclocked (hbefore _ rfl) (.inr hdeadline)
  | turnedDown => exact hclocked

theorem clocked_turn (hsettles : issued.Settles session) (hlast : id + 1 = issued.calls.length)
    (hcall : session.calls[id]? = some call) (hholder : session.holder = some id)
    (hrequest : call.request = .connect profile) (hshut : issued.isShutDown = false)
    (hbinds : Binds issued.network.script profile) (htarget : HasTarget profile)
    (htimely : Timely issued id session) (hclocked : Clocked issued session call.stage)
    (hturn : Turn session id call later) (hnext : later.calls[id]? = some next) :
    Clocked issued later next.stage := by
  have hsound := hsettles.sound
  have hnewest := hsettles.not_isOvertaken hlast hcall
  have hbefore {dial : Dial} (hstage : call.stage = .dialing dial) :
      session.now ≤ dial.wake ∧ session.now ≤ dial.deadline := by
    obtain ⟨start, -, -, hnow, hnow'⟩ := htimely.dialing call dial hcall hstage
    exact ⟨hnow, hnow'⟩
  cases hturn with
  | overtaken _ _ hovertaken => simp [hnewest] at hovertaken
  | left _ _ hovertaken => simp [hnewest] at hovertaken
  | refused _ _ _ hrefused => simp [hsettles.isShutDown_eq, hshut] at hrefused
  | ended hother | shutDown hother => simp [hrequest] at hother
  | cleared hstage =>
      rw [hstage] at hclocked
      obtain rfl := Line.eq_of_modify_self hcall hnext
      exact hclocked
  | hindered hconnect _ _ hobstacle =>
      obtain rfl := Request.connect.inj (hrequest.symm.trans hconnect)
      rw [hsettles.script_eq, hbinds.obstacle?_eq_none] at hobstacle
      cases hobstacle
  | bound _ hstage =>
      rw [hstage] at hclocked
      obtain rfl := Line.eq_of_modify_self hcall hnext
      exact hclocked
  | failed hconnect _ hsetback =>
      obtain rfl := Request.connect.inj (hrequest.symm.trans hconnect)
      have hopen (dial : Dial) (hstage : call.stage = .dialing dial) :
          session.network.isOpen dial.link = true := by
        have hworks : call.stage.link? = some dial.link := by rw [hstage]; rfl
        exact hsound.holdsOpen.isOpen ((hsound.fits_call hcall hholder).builds hworks).link_eq
      have hnow := now_of_setback htarget hopen (fun dial hstage => hbefore hstage) hclocked
        hsetback
      obtain rfl := Line.eq_of_modify_self hcall hnext
      exact hnow
  | @dialed _ link deadline _ hconnect hstage =>
      have hdeadline := htimely.bound call link deadline hcall hstage
      rw [hstage] at hclocked
      have hnow : session.now = issued.now := hclocked
      obtain rfl := Line.eq_of_modify_self hcall hnext
      constructor
      · show session.now + session.network.script.delay.nanos = _
        rw [hsettles.script_eq, hnow]
      · show deadline = _
        rw [hdeadline, hnow]
  | signedIn _ hstage _ hwake =>
      have hnow' := hbefore hstage
      rw [hstage] at hclocked
      have hnow := eq_dialEnd hclocked hnow' (.inl hwake)
      obtain rfl := Line.eq_of_modify_self hcall hnext
      exact hnow
  | @connected _ link hconnect hstage =>
      have hworks : call.stage.link? = some link := by rw [hstage]; rfl
      have hbuilds := (hsound.fits_call hcall hholder).builds hworks
      have hidle := hsound.tends.halted hbuilds.task_eq
      rw [hstage] at hclocked
      have hnow : session.now = issued.dialEnd := hclocked
      obtain rfl := Line.eq_of_modify_self hcall hnext
      refine ⟨Nat.le_of_eq hnow.symm, ?_⟩
      have hlate (entries : List String) : ∀ task ∈ (session.startRefresh link entries).tasks,
          task.live = true → session.now < task.due := late_of_startRefresh hidle (Nat.le_refl _)
      rw [← hnow]
      exact hlate _
  | fell hconnect hstage =>
      have hfits := hsound.fits_call hcall hholder
      rw [hstage] at hclocked hfits
      have hidle := hsound.tends.halted hfits.2.2.2
      have hnow : session.now = issued.dialEnd := hclocked
      obtain rfl := Line.eq_of_modify_self hcall hnext
      refine ⟨Nat.le_of_eq hnow.symm, ?_⟩
      intro task hmem hlive
      rw [hidle task hmem] at hlive
      cases hlive

theorem Clocked.of_eq {stage : Stage} (hclocked : Clocked issued session stage)
    (hnow : later.now = session.now) (htasks : later.tasks = session.tasks) :
    Clocked issued later stage := by
  cases stage with
  | queued | cleared | bound | answered | dropped => exact hnow.trans hclocked
  | dialing => exact hclocked
  | done result =>
      obtain ⟨hafter, hlate⟩ := hclocked
      exact ⟨hnow ▸ hafter, htasks ▸ hlate⟩

/-! ## On time -/

/-- A connect that was issued last, alone and under a punctual clock. -/
structure KeepsTime (issued : Session) (profile : Profile) (id : Nat) (session : Session) :
    Prop where
  attended : Attended (· = isTimely issued.options issued.network.script) issued profile id session
  timely : Timely issued id session
  clocked : ∀ call, session.calls[id]? = some call → Clocked issued session call.stage

namespace KeepsTime

variable {first : Call}

theorem clocked_wait {instant : Nat} (hkeeps : KeepsTime issued profile id session)
    (hsound : session.Sound) (hpunctual : session.Punctual (.wait instant))
    (hcall : session.calls[id]? = some call) :
    Clocked issued (session.wait instant) call.stage := by
  have hclocked := hkeeps.clocked call hcall
  -- time passes only while the connect cannot go on
  have hrests := hpunctual.1 id
  have hholder := hkeeps.attended.holder hsound hcall
  cases hstage : call.stage with
  | dialing dial =>
      rw [hstage] at hclocked
      exact hclocked
  | done result =>
      rw [hstage] at hclocked
      obtain ⟨hafter, hlate⟩ := hclocked
      exact ⟨Nat.le_trans hafter (Nat.le_max_left _ _), hlate⟩
  | queued | cleared | bound | answered | dropped =>
      simp [isReady, hcall, hholder (by rw [hstage]; rfl), hstage] at hrests

theorem afterAct {given : Act} (hkeeps : KeepsTime issued profile id session)
    (hsettles : issued.Settles session) (hlast : id + 1 = issued.calls.length)
    (hfirst : issued.calls[id]? = some first) (hrequest : first.request = .connect profile)
    (hshut : issued.isShutDown = false) (hbinds : Binds issued.network.script profile)
    (htarget : HasTarget profile) (hquiet : given.IsQuiet issued.tasks.length)
    (hpunctual : session.Punctual given) : KeepsTime issued profile id (session.act given) where
  attended := hkeeps.attended.afterAct hsettles hlast hfirst hrequest hshut ⟨_, rfl⟩
    (fun call dial hcall hstage => hkeeps.timely.notices hcall hstage) hquiet
  timely := timely_act hsettles hlast hquiet hpunctual hkeeps.timely
  clocked := by
    intro next hnext
    cases given with
    | advance turning =>
        rcases session.advance_eq_self_or_turn turning with hrest | ⟨call, hcall, hholder, hturn⟩
        · rw [act, hrest] at hnext ⊢
          exact hkeeps.clocked next hnext
        · obtain rfl := hkeeps.attended.turning_eq hcall hturn
          have hconnect := (hsettles.request_of_call hfirst hcall).trans hrequest
          exact clocked_turn hsettles hlast hcall hholder hconnect hshut hbinds htarget
            hkeeps.timely (hkeeps.clocked call hcall) hturn hnext
    | refresh turning =>
        rcases session.runTask_eq_self_or_resolved turning
          with hrest | ⟨task, htask, hlive, -, hlater⟩
        · rw [act, hrest] at hnext ⊢
          exact hkeeps.clocked next hnext
        · rw [act, hlater] at hnext ⊢
          have hqueued := queued_of_resolved hsettles hnext hquiet htask hlive
            (hkeeps.attended.errand next hnext)
          have hclocked := hkeeps.clocked next hnext
          rw [hqueued] at hclocked ⊢
          exact hclocked
    | wait instant => exact hkeeps.clocked_wait hsettles.sound hpunctual hnext
    | listen | unlisten => exact (hkeeps.clocked next hnext).of_eq rfl rfl
    | issue | send | report | cue => exact hquiet.elim

/-- Before its end, a connect has no result. -/
theorem result?_eq_none (hkeeps : KeepsTime issued profile id session)
    (hearly : session.now < issued.dialEnd) : session.result? id = none := by
  cases hresult : session.result? id with
  | none => rfl
  | some result =>
      obtain ⟨call, hcall, hstage⟩ := result?_eq_some hresult
      have hclocked := hkeeps.clocked call hcall
      rw [hstage] at hclocked
      exact absurd hearly (Nat.not_lt.mpr hclocked.1)

/-- A connect that has no result yet has not come to its end, or has just come to it. -/
theorem now_le_dialEnd (hkeeps : KeepsTime issued profile id session)
    (hcall : session.calls[id]? = some call) (hopen : call.stage.isDone = false) :
    session.now ≤ issued.dialEnd := by
  have hclocked := hkeeps.clocked call hcall
  cases hstage : call.stage with
  | dialing dial =>
      rw [hstage] at hclocked
      obtain ⟨start, -, -, hnow, hnow'⟩ := hkeeps.timely.dialing call dial hcall hstage
      exact le_dialEnd hclocked ⟨hnow, hnow'⟩
  | queued | cleared | bound =>
      rw [hstage] at hclocked
      have hnow : session.now = issued.now := hclocked
      rw [hnow]
      exact Nat.le_min.mpr ⟨Nat.le_add_right _ _, Nat.le_add_right _ _⟩
  | answered | dropped =>
      rw [hstage] at hclocked
      exact Nat.le_of_eq hclocked
  | done result => simp [hstage, Stage.isDone] at hopen

theorem exists_result (hkeeps : KeepsTime issued profile id session)
    (hsettles : issued.Settles session) (hlast : id + 1 = issued.calls.length)
    (hlate : issued.dialEnd < session.now) : ∃ result, session.result? id = some result := by
  have hindex : id < session.calls.length := by
    rw [hsettles.length_eq]
    omega
  have hcall : session.calls[id]? = some session.calls[id] := List.getElem?_eq_getElem hindex
  cases hdone : session.calls[id].stage with
  | done result => exact ⟨result, result?_of_done hcall hdone⟩
  | queued | cleared | bound | dialing | answered | dropped =>
      have hbefore := hkeeps.now_le_dialEnd hcall (by rw [hdone]; rfl)
      exact absurd hlate (Nat.not_lt.mpr hbefore)

/-- In an idle session no task is due before the connect has come to its end. -/
theorem runTasks_eq (hkeeps : KeepsTime issued profile id session)
    (hsettles : issued.Settles session) (hlast : id + 1 = issued.calls.length)
    (hplain : session.AllPlain) (hidle : session.IsIdle) (hnow : session.now ≤ issued.dialEnd) :
    session.runTasks = session := by
  apply runTasks_of_late
  intro task hmem hlive
  rcases hkeeps.attended.ended_or_dialing hsettles hlast hplain hidle
    with ⟨result, hresult⟩ | ⟨call, dial, hcall, hholder, hstage⟩
  · obtain ⟨call, hcall, hstage⟩ := result?_eq_some hresult
    have hclocked := hkeeps.clocked call hcall
    rw [hstage] at hclocked
    exact Nat.lt_of_le_of_lt hnow (hclocked.2 task hmem hlive)
  · have hworks : call.stage.link? = some dial.link := by rw [hstage]; rfl
    have hbuilds := (hsettles.sound.fits_call hcall hholder).builds hworks
    rw [hsettles.sound.tends.halted hbuilds.task_eq task hmem] at hlive
    cases hlive

end KeepsTime

/-! ## Waiting for the end -/

theorem IsIdle.lt_dial (hidle : session.IsIdle) (hcall : session.calls[id]? = some call)
    (hholder : session.holder = some id) (hstage : call.stage = .dialing dial) :
    session.now < dial.wake ∧ session.now < dial.deadline := by
  have hrests := hidle id
  simp only [isReady, hcall, hholder, hstage, decide_true, Bool.true_and, Bool.or_eq_false_iff,
    decide_eq_false_iff_not, Nat.not_le] at hrests
  exact ⟨hrests.1.2, hrests.2⟩

/-- While a call waits for its dial, the next timer is that of the dial. -/
theorem nextTimer?_of_dialing (hsound : session.Sound) (hholder : session.holder = some id)
    (hcall : session.calls[id]? = some call) (hnewest : session.isOvertaken call = false)
    (hstage : call.stage = .dialing dial) (hwake : session.now < dial.wake)
    (hdeadline : session.now < dial.deadline) :
    session.nextTimer? = some (min dial.wake dial.deadline) := by
  obtain ⟨timer, htimer, hle, hle'⟩ := exists_nextTimer hcall hstage hwake hdeadline
  have hpunctual := punctual_wait_of_dialing hsound hholder hcall hnewest hstage hwake hdeadline
    (Nat.le_refl _)
  rw [htimer, Nat.le_antisymm (Nat.le_min.mpr ⟨hle, hle'⟩) (hpunctual.2 timer htimer)]

end

/-- A session that was not shut down, with all its calls at their end. -/
structure AtRest (session : Session) : Prop where
  sound : session.Sound
  logged : session.Logged
  heeds : session.HeedsShutdown
  plain : session.AllPlain
  isOpen : session.isShutDown = false
  done : ∀ call ∈ session.calls, call.stage.isDone = true

theorem atRest_run {options : Options} {before : List Act} (hopen : Act.issue .shutdown ∉ before)
    (hdone : ∀ call ∈ ((initial options).run before).calls, call.stage.isDone = true) :
    ((initial options).run before).AtRest where
  sound := sound_run options before
  logged := logged_run options before
  heeds := heedsShutdown_run options before
  plain := allPlain_run options before
  isOpen := isShutDown_eq_false_of_run hopen
  done := hdone

namespace AtRest

variable {session : Session} {profile : Profile} {acts : List Act}

theorem keepsTime_run (hrest : session.AtRest) (hbinds : Binds session.network.script profile)
    (htarget : HasTarget profile)
    (hquiet : ∀ given ∈ acts, given.IsQuiet session.tasks.length)
    (halong : Along Punctual (session.issue (.connect profile)) acts) :
    (session.issue (.connect profile)).Settles ((session.issue (.connect profile)).run acts) ∧
      KeepsTime (session.issue (.connect profile)) profile session.calls.length
        ((session.issue (.connect profile)).run acts) := by
  have hissued : (session.issue (.connect profile)).isShutDown = false := by
    simp [issue, Line.issue, hrest.isOpen]
  have hbase : KeepsTime (session.issue (.connect profile)) profile session.calls.length
      (session.issue (.connect profile)) := by
    refine ⟨attended_issue _ session hrest.done profile, timely_issue session _, ?_⟩
    intro call hcall
    rw [eq_issued_of_last hcall]
    rfl
  refine along_induction ?_ (settles_issue hrest.sound hrest.logged hrest.heeds _) hbase hquiet
    halong
  intro later given hsettles hgiven hpunctual hkeeps
  exact hkeeps.afterAct hsettles (session.length_issue_last _) (session.getElem?_issue_last _) rfl
    hissued hbinds htarget hgiven hpunctual

/-- Up to the end of the connect, calls that settle make a run of the connect longer. -/
theorem exists_settled (hrest : session.AtRest) (hbinds : Binds session.network.script profile)
    (htarget : HasTarget profile)
    (hquiet : ∀ given ∈ acts, given.IsQuiet session.tasks.length)
    (halong : Along Punctual (session.issue (.connect profile)) acts)
    (hnow : ((session.issue (.connect profile)).run acts).now ≤ session.dialEnd) :
    ∃ more, (∀ given ∈ more, given.IsQuiet session.tasks.length) ∧
      Along Punctual (session.issue (.connect profile)) more ∧
      (session.issue (.connect profile)).run more =
        ((session.issue (.connect profile)).run acts).settle := by
  let issued := session.issue (.connect profile)
  have hissued : issued.AllPlain := allPlain_deed hrest.plain (.issued _)
  have hplain : (issued.run acts).AllPlain := allPlain_deeds hissued (issued.deeds_run acts)
  obtain ⟨advances, hadvances, hrun, hsame⟩ :=
    (issued.run acts).exists_advances (stageCount * (issued.run acts).calls.length)
  have hlonger : ∀ given ∈ acts ++ advances, given.IsQuiet session.tasks.length := by
    intro given hgiven
    rcases List.mem_append.mp hgiven with hmem | hmem
    · exact hquiet given hmem
    · obtain ⟨id, rfl⟩ := hadvances given hmem
      trivial
  have hmore : Along Punctual issued (acts ++ advances) := by
    refine along_append halong (along_of_admits ?_ _)
    intro given hgiven later
    obtain ⟨id, rfl⟩ := hadvances given hgiven
    trivial
  obtain ⟨hsettles, hkeeps⟩ := hrest.keepsTime_run hbinds htarget hlonger hmore
  have hsettled := allPlain_deeds hissued (issued.deeds_run (acts ++ advances))
  have hidle := isIdle_settleCalls hplain (remainingTurns_le (issued.run acts).calls)
  rw [run_append, hrun] at hsettles hkeeps hsettled
  have htasks := hkeeps.runTasks_eq hsettles (session.length_issue_last _) hsettled hidle
    (hsame.symm ▸ hnow)
  refine ⟨acts ++ advances, hlonger, hmore, ?_⟩
  rw [run_append, hrun, settle, htasks]

/-- At the end of its dial or of its time a connect that has waited for it ends. -/
theorem exists_ended {call : Call} {dial : Dial} (hrest : session.AtRest)
    (hbinds : Binds session.network.script profile) (htarget : HasTarget profile)
    (hquiet : ∀ given ∈ acts, given.IsQuiet session.tasks.length)
    (halong : Along Punctual (session.issue (.connect profile)) acts)
    (hidle : ((session.issue (.connect profile)).run acts).IsIdle)
    (hcall : ((session.issue (.connect profile)).run acts).calls[session.calls.length]? = some call)
    (hholder : ((session.issue (.connect profile)).run acts).holder = some session.calls.length)
    (hstage : call.stage = .dialing dial) :
    ((session.issue (.connect profile)).run acts).nextTimer? = some session.dialEnd ∧
      ((session.issue (.connect profile)).run acts).now < session.dialEnd ∧
      ∃ more result, session.ComesTo (.connect profile) more result ∧
        Along Punctual (session.issue (.connect profile)) more ∧
        ((session.issue (.connect profile)).run more).now = session.dialEnd ∧
        (session.issue (.connect profile)).run more =
          (((session.issue (.connect profile)).run acts).wait session.dialEnd).settle := by
  let issued := session.issue (.connect profile)
  have hlast := session.length_issue_last (.connect profile)
  have hissued : issued.AllPlain := allPlain_deed hrest.plain (.issued _)
  obtain ⟨hsettles, hkeeps⟩ := hrest.keepsTime_run hbinds htarget hquiet halong
  obtain ⟨hwake, hdeadline⟩ := hidle.lt_dial hcall hholder hstage
  have hnewest := hsettles.not_isOvertaken hlast hcall
  have hdialEnd {later : Session} {dial : Dial} (hclocked : Clocked issued later (.dialing dial)) :
      min dial.wake dial.deadline = session.dialEnd := by
    rw [hclocked.1, hclocked.2]
    rfl
  have hends : min dial.wake dial.deadline = session.dialEnd :=
    hdialEnd (hstage ▸ hkeeps.clocked call hcall)
  have hearly : (issued.run acts).now < session.dialEnd :=
    hends ▸ Nat.lt_min.mpr ⟨hwake, hdeadline⟩
  have htimer := nextTimer?_of_dialing hsettles.sound hholder hcall hnewest hstage hwake hdeadline
  refine ⟨hends ▸ htimer, hearly, ?_⟩
  have hwaiting : Along Punctual issued (acts ++ [.wait session.dialEnd]) := by
    refine along_append halong ⟨?_, trivial⟩
    exact punctual_wait_of_dialing hsettles.sound hholder hcall hnewest hstage hwake hdeadline
      (Nat.le_of_eq hends.symm)
  have hpatient : ∀ given ∈ acts ++ [.wait session.dialEnd],
      given.IsQuiet session.tasks.length := by
    intro given hgiven
    rcases List.mem_append.mp hgiven with hmem | hmem
    · exact hquiet given hmem
    · obtain rfl := List.mem_singleton.mp hmem
      trivial
  have hwaited : issued.run (acts ++ [.wait session.dialEnd]) =
      (issued.run acts).wait session.dialEnd := run_append _ _ _
  have hthen : ((issued.run acts).wait session.dialEnd).now = session.dialEnd :=
    Nat.max_eq_right (Nat.le_of_lt hearly)
  obtain ⟨more, hquiet', halong', hrun⟩ := hrest.exists_settled hbinds htarget hpatient hwaiting
    (by rw [hwaited, hthen])
  rw [hwaited] at hrun
  have hplain : (issued.run acts).AllPlain := allPlain_deeds hissued (issued.deeds_run acts)
  have hidle' : (issued.run more).IsIdle :=
    hrun ▸ isIdle_settle (allPlain_deed hplain (.waited session.dialEnd))
  have hnow : (issued.run more).now = session.dialEnd := by
    rw [hrun, now_settle, hthen]
  obtain ⟨hsettles', hkeeps'⟩ := hrest.keepsTime_run hbinds htarget hquiet' halong'
  rcases hkeeps'.attended.ended_or_dialing hsettles' hlast
    (allPlain_deeds hissued (issued.deeds_run more)) hidle'
    with ⟨result, hresult⟩ | ⟨last, late, hcall', hholder', hstage'⟩
  · exact ⟨more, result, ⟨hquiet', hresult⟩, halong', hnow, hrun⟩
  · -- a call that still waited would wait for an instant that has come
    have hbefore := Nat.lt_min.mpr (hidle'.lt_dial hcall' hholder' hstage')
    rw [hdialEnd (hstage' ▸ hkeeps'.clocked last hcall'), hnow] at hbefore
    exact absurd hbefore (Nat.lt_irrefl _)

/-- To perform a connect that dials is to let it go on, to wait for the end of the dial and to
let it go on again. -/
theorem perform_comesTo (hrest : session.AtRest) (hbinds : Binds session.network.script profile)
    (htarget : HasTarget profile) :
    ∃ acts result, session.ComesTo (.connect profile) acts result ∧
      Along Punctual (session.issue (.connect profile)) acts ∧
      ((session.issue (.connect profile)).run acts).now = session.dialEnd ∧
      session.perform (.connect profile) =
        ((session.issue (.connect profile)).run acts, some result) := by
  let issued := session.issue (.connect profile)
  have hlast := session.length_issue_last (.connect profile)
  have hissued : issued.AllPlain := allPlain_deed hrest.plain (.issued _)
  have hstart : session.now ≤ session.dialEnd :=
    Nat.le_min.mpr ⟨Nat.le_add_right _ _, Nat.le_add_right _ _⟩
  have hnothing : ∀ given ∈ ([] : List Act), given.IsQuiet session.tasks.length := by simp
  obtain ⟨acts, hquiet, halong, hsettle⟩ :=
    hrest.exists_settled hbinds htarget hnothing trivial hstart
  have hrun : issued.run acts = issued.settle := hsettle
  have hnow : (issued.run acts).now = session.now := by
    rw [hrun, now_settle]
    rfl
  have hperform : session.perform (.connect profile) =
      (awaitCall (issued.calls.length + 1) (issued.run acts) session.calls.length,
        (awaitCall (issued.calls.length + 1) (issued.run acts) session.calls.length).result?
          session.calls.length) := by
    rw [hrun]
    rfl
  have hidle : (issued.run acts).IsIdle := hrun ▸ isIdle_settle hissued
  obtain ⟨hsettles, hkeeps⟩ := hrest.keepsTime_run hbinds htarget hquiet halong
  rcases hkeeps.attended.ended_or_dialing hsettles hlast
    (allPlain_deeds hissued (issued.deeds_run acts)) hidle
    with ⟨result, hresult⟩ | ⟨call, dial, hcall, hholder, hstage⟩
  · -- no time was needed
    have hafter : session.dialEnd ≤ (issued.run acts).now := by
      by_contra hearly
      rw [hkeeps.result?_eq_none (Nat.not_le.mp hearly)] at hresult
      cases hresult
    refine ⟨acts, result, ⟨hquiet, hresult⟩, halong, Nat.le_antisymm (hnow ▸ hstart) hafter, ?_⟩
    rw [hperform, awaitCall_of_result hresult, hresult]
  · obtain ⟨htimer, hearly, more, result, hcomes, halong', hended, hmore⟩ :=
      hrest.exists_ended hbinds htarget hquiet halong hidle hcall hholder hstage
    have hnone := hkeeps.result?_eq_none hearly
    have hawaits : awaitCall (issued.calls.length + 1) (issued.run acts) session.calls.length =
        issued.run more := by
      rw [awaitCall, hnone, Option.isSome_none, if_neg Bool.false_ne_true, htimer]
      simp only
      rw [← hmore]
      exact awaitCall_of_result hcomes.returned
    refine ⟨more, result, hcomes, halong', hended, ?_⟩
    rw [hperform, hawaits, hcomes.returned]

end AtRest

/-! ## How a connect that dials ends -/

/-- How a connect that dials ends over the network of a session. -/
def dialFate (session : Session) (profile : Profile) : Fate :=
  fate session.options session.network.script profile session.network.links.length
    (isTimely session.options session.network.script)

/-- What a connect that dials leaves of a session. -/
structure Concludes (session : Session) (profile : Profile) (result : Except Error Unit)
    (later : Session) : Prop where
  sound : later.Sound
  free : later.holder = none
  record : ∃ record, later.network.link? session.network.links.length = some record ∧
    (session.dialFate profile).calls = some record.calls
  failed : ∀ error, result = .error error → later.HasFailed profile
  up : result = .ok () → later.IsUpOn profile session.network.links.length

/-- A connect ends at an instant with a result, when it is performed and in every other run of
it under a punctual clock, and leaves the session as is said. -/
structure EndsAt (session : Session) (profile : Profile) (instant : Nat)
    (result : Except Error Unit) (leaves : Session → Prop) : Prop where
  performed : ∃ later, session.perform (.connect profile) = (later, some result) ∧
    later.now = instant ∧ leaves later
  before : ∀ acts : List Act, (∀ given ∈ acts, given.IsQuiet session.tasks.length) →
    Along Punctual (session.issue (.connect profile)) acts →
    ((session.issue (.connect profile)).run acts).now < instant →
    ((session.issue (.connect profile)).run acts).result? session.calls.length = none
  after : ∀ acts : List Act, (∀ given ∈ acts, given.IsQuiet session.tasks.length) →
    Along Punctual (session.issue (.connect profile)) acts →
    instant < ((session.issue (.connect profile)).run acts).now →
    ((session.issue (.connect profile)).run acts).result? session.calls.length = some result
  ended : ∀ acts found, session.ComesTo (.connect profile) acts found →
    Along Punctual (session.issue (.connect profile)) acts →
    found = result ∧ leaves ((session.issue (.connect profile)).run acts)

section

variable {session later : Session} {profile : Profile} {result : Except Error Unit}

theorem EndsAt.imp {instant : Nat} {leaves leaves' : Session → Prop}
    (hends : session.EndsAt profile instant result leaves)
    (himp : ∀ later, leaves later → leaves' later) :
    session.EndsAt profile instant result leaves' where
  performed := by
    obtain ⟨later, hperform, hnow, hleaves⟩ := hends.performed
    exact ⟨later, hperform, hnow, himp later hleaves⟩
  before := hends.before
  after := hends.after
  ended := by
    intro acts found hcomes halong
    obtain ⟨hfound, hleaves⟩ := hends.ended acts found hcomes halong
    exact ⟨hfound, himp _ hleaves⟩

theorem AtRest.concludes {acts : List Act} (hrest : session.AtRest)
    (hbinds : Binds session.network.script profile) (htarget : HasTarget profile)
    (hcomes : session.ComesTo (.connect profile) acts result)
    (halong : Along Punctual (session.issue (.connect profile)) acts) :
    result = (session.dialFate profile).result ∧
      session.Concludes profile result ((session.issue (.connect profile)).run acts) := by
  have hlast := session.length_issue_last (.connect profile)
  obtain ⟨hsettles, hkeeps⟩ := hrest.keepsTime_run hbinds htarget hcomes.quiet halong
  obtain ⟨call, hcall, hstage⟩ := result?_eq_some hcomes.returned
  have hfree := hsettles.holder_eq_none hlast hcall (by rw [hstage]; rfl)
  obtain ⟨hfailed, hup⟩ := hkeeps.attended.stands hsettles hlast hcall hstage
    fun _ => hbinds.attemptOf_eq
  have herrand := hkeeps.attended.errand call hcall
  have hhandled := hkeeps.attended.handled call hcall
  rw [hstage] at herrand hhandled
  obtain ⟨inTime, rfl, hmeets, -, -⟩ := herrand
  have hmade : attemptOf (session.issue (.connect profile)).network.script profile = .made :=
    hbinds.attemptOf_eq
  have hown : call.link = some session.network.links.length := by
    rw [hhandled.1.link_eq, hmade]
    rfl
  have hrecord := hmeets.record
  have hresult := hmeets.result_eq
  rw [hown] at hrecord hresult
  obtain ⟨rest, hfate⟩ : ∃ rest, (session.dialFate profile).calls =
      some (resolutions profile ++ rest) := resolutions_of_fate hbinds.obstacle?_eq_none
  have hfound := hfate.symm.trans hrecord
  obtain ⟨record, hlink, hcalls⟩ := Option.map_eq_some_iff.mp hfound.symm
  exact ⟨hresult.symm, hsettles.sound, hfree, ⟨record, hlink, hcalls ▸ hfate⟩, hfailed, hup⟩

theorem AtRest.endsAt (hrest : session.AtRest) (hbinds : Binds session.network.script profile)
    (htarget : HasTarget profile) :
    session.EndsAt profile session.dialEnd (session.dialFate profile).result
      (session.Concludes profile (session.dialFate profile).result) where
  performed := by
    obtain ⟨acts, result, hcomes, halong, hnow, hperform⟩ :=
      hrest.perform_comesTo hbinds htarget
    obtain ⟨rfl, hconcludes⟩ := hrest.concludes hbinds htarget hcomes halong
    exact ⟨_, hperform, hnow, hconcludes⟩
  before := by
    intro acts hquiet halong hearly
    exact (hrest.keepsTime_run hbinds htarget hquiet halong).2.result?_eq_none hearly
  after := by
    intro acts hquiet halong hlate
    obtain ⟨hsettles, hkeeps⟩ := hrest.keepsTime_run hbinds htarget hquiet halong
    obtain ⟨result, hresult⟩ :=
      hkeeps.exists_result hsettles (session.length_issue_last _) hlate
    obtain ⟨rfl, -⟩ := hrest.concludes hbinds htarget ⟨hquiet, hresult⟩ halong
    exact hresult
  ended := by
    intro acts found hcomes halong
    obtain ⟨rfl, hconcludes⟩ := hrest.concludes hbinds htarget hcomes halong
    exact ⟨rfl, hconcludes⟩

/-- A dial that takes no longer than the connect has ends as the table of outcomes says. -/
theorem AtRest.endsAt_of_ends (hrest : session.AtRest)
    (hbinds : Binds session.network.script profile) (htarget : HasTarget profile)
    (hends : Ends session.network.script profile .made result)
    (htime : session.network.script.delay.nanos ≤ session.options.connectTimeout.nanos) :
    session.EndsAt profile (session.now + session.network.script.delay.nanos) result
      (session.Concludes profile result) := by
  have htimely : isTimely session.options session.network.script = true := decide_eq_true htime
  have hresult : (session.dialFate profile).result = result := by
    rw [dialFate, htimely]
    exact ((ends_iff session.options _).mp hends).2.symm
  have hinstant : session.dialEnd = session.now + session.network.script.delay.nanos :=
    Nat.min_eq_left (Nat.add_le_add_left htime _)
  rw [← hresult, ← hinstant]
  exact hrest.endsAt hbinds htarget

/-! ## Dials that are abandoned -/

/-- Nothing changes any more about a link that was closed, but that its connection may be cut. -/
theorem closed_deed {link : LinkId} {record : Rehearsal.Link} (hsound : session.Sound)
    (hdeed : session.Deed later) (hrecord : session.network.link? link = some record)
    (hclosed : record.closed = true) :
    ∃ lost, later.network.link? link = some { record with lost } := by
  have hother {held : LinkId} (hheld : session.holdings.link = some held) : link ≠ held := by
    rintro rfl
    obtain ⟨found, hfound, hopen⟩ :=
      Network.isOpen_eq_true_iff.mp (hsound.holdsOpen.isOpen hheld)
    obtain rfl : record = found := Option.some.inj (hrecord.symm.trans hfound)
    simp [hclosed] at hopen
  have hagreed {held : LinkId} {network : Network} (hheld : session.holdings.link = some held)
      (hagrees : session.network.AgreesOff held network) :
      network.link? link = some { record with lost := record.lost } :=
    (hagrees.elsewhere link (hother hheld)).trans hrecord
  cases hdeed with
  | issued | lost | waited | enrolled => exact ⟨record.lost, hrecord⟩
  | @turned id call _ hcall hholder hturn =>
      have htouches := hturn.touches
      generalize later.network = network at htouches
      cases htouches with
      | nothing => exact ⟨record.lost, hrecord⟩
      | released binds =>
          refine ⟨record.lost, ?_⟩
          cases hheld : session.holdings.link with
          | none => exact hrecord
          | some held =>
              have hsame : ({ session.network with binds } : Network).link? link = some record :=
                hrecord
              exact ((Network.agreesOff_close _ held).elsewhere link (hother hheld)).trans hsame
      | worked hworks _ hagrees =>
          have hbuilds := (hsound.fits_call hcall hholder).builds hworks
          exact ⟨record.lost, hagreed hbuilds.link_eq hagrees⟩
      | bound hstage binds entries =>
          have hlt : link < session.network.links.length :=
            (List.getElem?_eq_some_iff.mp hrecord).1
          refine ⟨record.lost, ?_⟩
          rw [(Network.agreesOff_resolveEach _ _ entries).elsewhere link (Nat.ne_of_lt hlt)]
          exact (List.getElem?_append_left hlt).trans hrecord
  | sent hphase hlink service payload =>
      exact ⟨record.lost, hagreed hlink (session.network.agreesOff_request _ _ _)⟩
  | @resolved id task htask hlive hdue =>
      have hheld := hsound.tends.only id task htask hlive
      obtain ⟨-, found, -, hfound, -, hlink, -⟩ := hsound.tends.live id hheld
      obtain rfl : task = found := Option.some.inj (htask.symm.trans hfound)
      exact ⟨record.lost, hagreed hlink (session.network.agreesOff_resolveEach _ _)⟩
  | cued cue => exact Network.exists_link?_cue cue hrecord

theorem closed_run {link : LinkId} {record : Rehearsal.Link} (hsound : session.Sound)
    (hrecord : session.network.link? link = some record) (hclosed : record.closed = true)
    (acts : List Act) : ∃ lost, (session.run acts).network.link? link =
      some { record with lost } := by
  refine deeds_induction (motive := fun later => ∃ lost, later.network.link? link =
    some { record with lost }) ?_ hsound (session.deeds_run acts) ⟨record.lost, hrecord⟩
  rintro former later hsound hdeed ⟨lost, hformer⟩
  obtain ⟨lost', hlater⟩ := closed_deed hsound hdeed hformer hclosed
  exact ⟨lost', hlater⟩

/-- All that may happen while nobody asks for anything new and the network stays as it is. -/
def Act.IsPassive : Act → Prop
  | .issue _ => False
  | .cue _ => False
  | _ => True

/-- A session that has failed changes by itself in nothing but the time. -/
theorem HasFailed.act_eq (hfailed : session.HasFailed profile) (hfree : session.holder = none)
    {given : Act} (hpassive : given.IsPassive) :
    ∃ now roster, session.act given = { session with now, roster } := by
  have hother : session.phase ≠ .connected := by simp [hfailed.phase_eq]
  cases given with
  | issue | cue => exact hpassive.elim
  | advance id =>
      rcases session.advance_eq_self_or_turn id with hrest | ⟨call, -, hholder, -⟩
      · exact ⟨session.now, session.roster, hrest⟩
      · simp [hfree] at hholder
  | send service payload =>
      exact ⟨session.now, session.roster,
        congrArg Prod.fst (send_of_not_connected hother service payload)⟩
  | report link =>
      exact ⟨session.now, session.roster, if_neg fun hheld => hother hheld.2⟩
  | refresh id =>
      rcases session.runTask_eq_self_or_resolved id with hrest | ⟨task, htask, hlive, -, -⟩
      · exact ⟨session.now, session.roster, hrest⟩
      · simp [hfailed.halted task (List.mem_of_getElem? htask)] at hlive
  | wait instant => exact ⟨max session.now instant, session.roster, rfl⟩
  | listen listener => exact ⟨session.now, session.roster.add listener, rfl⟩
  | unlisten name => exact ⟨session.now, (session.roster.remove name).1, rfl⟩

theorem HasFailed.run_eq (hfailed : session.HasFailed profile) (hfree : session.holder = none)
    {acts : List Act} (hpassive : ∀ given ∈ acts, given.IsPassive) :
    ∃ now roster, session.run acts = { session with now, roster } := by
  induction acts generalizing session with
  | nil => exact ⟨session.now, session.roster, rfl⟩
  | cons given acts ih =>
      obtain ⟨hgiven, hacts⟩ := List.forall_mem_cons.mp hpassive
      obtain ⟨now, roster, hact⟩ := hfailed.act_eq hfree hgiven
      have hlater : HasFailed { session with now, roster } profile :=
        ⟨hfailed.phase_eq, hfailed.profile_eq, hfailed.link_eq, hfailed.openLinks_eq,
          hfailed.task_eq, hfailed.halted⟩
      obtain ⟨now', roster', hrun⟩ := ih hlater hfree hacts
      refine ⟨now', roster', ?_⟩
      show (session.act given).run acts = _
      rw [hact, hrun]

/-- A dial came to nothing.  Its link was closed before the node was asked to accept anything,
nothing is recorded on it any more, and nothing comes back to the session. -/
structure Abandons (session : Session) (profile : Profile) (link : LinkId) : Prop where
  record : ∃ target record, targetOf profile = .ok target ∧
    session.network.link? link = some record ∧ record.closed = true ∧
    record.calls = resolutions profile ++ [.dial target, .close] ∧
    ∀ acts, ∃ lost, (session.run acts).network.link? link = some { record with lost }
  still : ∀ acts : List Act, (∀ given ∈ acts, given.IsPassive) →
    ∃ now roster, session.run acts = { session with now, roster }

theorem Concludes.abandons {former : Session} {error : Error}
    (hconcludes : former.Concludes profile (.error error) session)
    (hbinds : Binds former.network.script profile) (htarget : HasTarget profile)
    (hlate : former.options.connectTimeout.nanos < former.network.script.delay.nanos) :
    session.Abandons profile former.network.links.length := by
  obtain ⟨target, htargetOf⟩ := htarget.exists_target
  have hfailed := hconcludes.failed error rfl
  obtain ⟨record, hrecord, hcalls⟩ := hconcludes.record
  have htimely : isTimely former.options former.network.script = false :=
    decide_eq_false (Nat.not_le.mpr hlate)
  have hclosed : record.closed = true := by
    by_contra hopen
    have hmem := Network.mem_openLinks_iff.mpr
      (Network.isOpen_eq_true_iff.mpr ⟨record, hrecord, Bool.not_eq_true _ ▸ hopen⟩)
    rw [hfailed.openLinks_eq] at hmem
    cases hmem
  refine ⟨⟨target, record, htargetOf, hrecord, hclosed, ?_, ?_⟩, ?_⟩
  · simp [dialFate, fate, hbinds.obstacle?_eq_none, htargetOf, htimely] at hcalls
    exact hcalls.symm
  · exact closed_run hconcludes.sound hrecord hclosed
  · intro acts hpassive
    exact hfailed.run_eq hconcludes.free hpassive

/-- A dial that takes longer than the connect has is abandoned when the time is over. -/
theorem AtRest.endsAt_of_late (hrest : session.AtRest)
    (hbinds : Binds session.network.script profile) (htarget : HasTarget profile)
    (hlate : session.options.connectTimeout.nanos < session.network.script.delay.nanos) :
    session.EndsAt profile (session.now + session.options.connectTimeout.nanos)
      (.error (.handshake (.timedOut session.options.connectTimeout)))
      fun later => later.HasFailed profile ∧
        later.Abandons profile session.network.links.length := by
  obtain ⟨target, htargetOf⟩ := htarget.exists_target
  have htimely : isTimely session.options session.network.script = false :=
    decide_eq_false (Nat.not_le.mpr hlate)
  have hresult : (session.dialFate profile).result =
      .error (.handshake (.timedOut session.options.connectTimeout)) := by
    simp [dialFate, fate, hbinds.obstacle?_eq_none, htargetOf, htimely]
  have hinstant : session.dialEnd = session.now + session.options.connectTimeout.nanos :=
    Nat.min_eq_right (Nat.add_le_add_left (Nat.le_of_lt hlate) _)
  have hends := hrest.endsAt hbinds htarget
  rw [hresult, hinstant] at hends
  exact hends.imp fun later hconcludes =>
    ⟨hconcludes.failed _ rfl, hconcludes.abandons hbinds htarget hlate⟩

end

/-- A connect that would come up ends with its dial if that takes no longer than the connect has.
Otherwise it fails when its time is over: the session keeps the profile, the link is closed
before it was asked to accept anything, and the dial never comes back to either.  That is so when
the connect is performed and in every run of it under a punctual clock. -/
theorem connect_ends_with_its_dial_or_its_time (options : Options) (before : List Act)
    (profile : Profile) {d t : Nat} (hopen : Act.issue .shutdown ∉ before)
    (hdone : ∀ call ∈ ((initial options).run before).calls, call.stage.isDone = true)
    (hdelay : ((initial options).run before).network.script.dialDelay = some (.ofMillis d))
    (htimeout : options.connectTimeout = .ofMillis t)
    (hconnectable : Ends ((initial options).run before).network.script profile .made (.ok ())) :
    let session := (initial options).run before
    let link := session.network.links.length
    (d ≤ t → session.EndsAt profile (session.now + (Duration.ofMillis d).nanos) (.ok ())
      fun later => later.IsUpOn profile link) ∧
    (t < d → session.EndsAt profile (session.now + (Duration.ofMillis t).nanos)
      (.error (.handshake (.timedOut (.ofMillis t))))
      fun later => later.HasFailed profile ∧ later.Abandons profile link) := by
  intro session link
  have hrest : session.AtRest := atRest_run hopen hdone
  have hoptions : session.options.connectTimeout = .ofMillis t := by
    rw [show session.options = options from options_run options before, htimeout]
  have hscript : session.network.script.delay = .ofMillis d := by
    rw [Script.delay, hdelay, Option.getD_some]
  obtain ⟨hbinds, htarget⟩ : Binds session.network.script profile ∧ HasTarget profile := by
    cases hconnectable with
    | up hbinds htarget => exact ⟨hbinds, htarget⟩
  constructor
  · intro hle
    have htime : session.network.script.delay.nanos ≤ session.options.connectTimeout.nanos := by
      rw [hscript, hoptions]
      exact Nat.mul_le_mul_right _ hle
    have hends := hrest.endsAt_of_ends hbinds htarget hconnectable htime
    rw [hscript] at hends
    exact hends.imp fun later hconcludes => hconcludes.up rfl
  · intro hlt
    have hlate : session.options.connectTimeout.nanos < session.network.script.delay.nanos := by
      rw [hscript, hoptions]
      exact Nat.mul_lt_mul_of_pos_right hlt (by decide)
    have hends := hrest.endsAt_of_late hbinds htarget hlate
    rw [hoptions] at hends
    exact hends

/-- A connect that has 20 ms comes up by a dial of 20 ms, and abandons one of 21. -/
theorem tie_counts_for_the_dial :
    let options : Options := { Options.standard with connectTimeout := .ofMillis 20 }
    let profile := Profile.Sample.direct
    let session (d : Nat) := (initial options).run [.cue (.delayDial (some (.ofMillis d)))]
    ((session 20).perform (.connect profile)).2 = some (.ok ()) ∧
      ((session 20).perform (.connect profile)).1.now = (Duration.ofMillis 20).nanos ∧
      ((session 21).perform (.connect profile)).2 =
        some (.error (.handshake (.timedOut (.ofMillis 20)))) ∧
      ((session 21).perform (.connect profile)).1.now = (Duration.ofMillis 20).nanos ∧
      ((session 21).perform (.connect profile)).1.Abandons profile 0 := by
  intro options profile session
  have hconnectable (d : Nat) : Ends (session d).network.script profile .made (.ok ()) := by
    have haccepts : verdictOn (Script.defaultReply).result = .ok () := by decide +kernel
    exact .up (binds_direct rfl) hasTarget_direct rfl (verdictOn_eq_ok_iff.mp haccepts)
  have hopen (d : Nat) : Act.issue .shutdown ∉ [Act.cue (.delayDial (some (.ofMillis d)))] := by
    simp
  obtain ⟨htie, -⟩ := connect_ends_with_its_dial_or_its_time options _ profile (hopen 20)
    (by decide) rfl rfl (hconnectable 20)
  obtain ⟨-, hlate⟩ := connect_ends_with_its_dial_or_its_time options _ profile (hopen 21)
    (by decide) rfl rfl (hconnectable 21)
  have hstart (d : Nat) :
      ((initial options).run [.cue (.delayDial (some (.ofMillis d)))]).now = 0 := rfl
  obtain ⟨later, hperform, hnow, -⟩ := (htie (Nat.le_refl 20)).performed
  obtain ⟨late, hperform', hnow', -, habandons⟩ := (hlate (by decide)).performed
  rw [hstart, Nat.zero_add] at hnow hnow'
  refine ⟨congrArg Prod.snd hperform, (congrArg (·.1.now) hperform).trans hnow,
    congrArg Prod.snd hperform', (congrArg (·.1.now) hperform').trans hnow', ?_⟩
  show ((session 21).perform (.connect profile)).1.Abandons profile 0
  rw [hperform']
  exact habandons

end NodeLink.Session
