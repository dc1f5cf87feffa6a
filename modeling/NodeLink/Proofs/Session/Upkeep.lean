import NodeLink.Proofs.Session.Loss
/-!
# Who refreshes discovery

A connect that comes up leaves a task behind that resolves the entries of its profile
again and again.  The session owns that task and stops it in every place in which it
lets go of what it rests on, so no task outlives what it was started for.  A task that
was stopped is never started again.
-/

namespace NodeLink.Session

open NodeLink.Rehearsal (Network LinkId)

/-! ## Tasks that were stopped -/

/-- The first tasks of a session have all been stopped. -/
structure HasStopped (session : Session) (count : Nat) : Prop where
  le : count ≤ session.tasks.length
  halted : ∀ (id : Nat) task, id < count → session.tasks[id]? = some task → task.live = false

/-- Tasks are only ever added, and none of those that were there goes on unless it did. -/
structure KeepsTasks (tasks later : List Task) : Prop where
  le : tasks.length ≤ later.length
  live : ∀ (id : Nat) task, id < tasks.length → later[id]? = some task → task.live = true →
    ∃ former, tasks[id]? = some former ∧ former.live = true

theorem KeepsTasks.refl (tasks : List Task) : KeepsTasks tasks tasks :=
  ⟨Nat.le_refl _, fun _ task _ htask hlive => ⟨task, htask, hlive⟩⟩

theorem keepsTasks_halted (tasks : List Task) (id? : Option TaskId) :
    KeepsTasks tasks (halted tasks id?) :=
  ⟨Nat.le_of_eq (length_halted tasks id?).symm,
    fun _ task _ htask hlive => ⟨task, (mem_halted htask hlive).1, hlive⟩⟩

theorem keepsTasks_append (tasks more : List Task) : KeepsTasks tasks (tasks ++ more) where
  le := by simp
  live := by
    intro id task hlt htask hlive
    rw [List.getElem?_append_left hlt] at htask
    exact ⟨task, htask, hlive⟩

section

variable {session later : Session} {id count : Nat} {call : Call}

theorem keepsTasks_resolved (session : Session) (id : Nat) (task : Task) :
    KeepsTasks session.tasks (session.resolved id task).tasks where
  le := by simp [resolved]
  live := by
    intro other next _ hnext hlive
    obtain ⟨former, hformer, rfl⟩ := exists_of_getElem?_modify hnext
    refine ⟨former, hformer, ?_⟩
    split at hlive
    next => exact hlive
    next => exact hlive

theorem Turn.keepsTasks (hturn : Turn session id call later) :
    KeepsTasks session.tasks later.tasks := by
  cases hturn with
  | overtaken | refused | left | bound | dialed | signedIn | fell | ended | shutDown =>
      exact .refl _
  | cleared | hindered | failed => exact keepsTasks_halted _ _
  | connected => exact keepsTasks_append _ _

theorem Deed.keepsTasks (hdeed : session.Deed later) :
    KeepsTasks session.tasks later.tasks := by
  cases hdeed with
  | turned _ _ hturn => exact hturn.keepsTasks
  | lost => exact keepsTasks_halted _ _
  | resolved => exact keepsTasks_resolved session _ _
  | issued | sent | waited | cued | enrolled => exact .refl _

theorem HasStopped.afterDeed (hstopped : session.HasStopped count)
    (hdeed : session.Deed later) : later.HasStopped count := by
  obtain ⟨hle, hlive⟩ := hdeed.keepsTasks
  refine ⟨Nat.le_trans hstopped.le hle, ?_⟩
  intro id task hlt htask
  rw [← Bool.not_eq_true]
  intro hgoes
  obtain ⟨former, hformer, hwent⟩ :=
    hlive id task (Nat.lt_of_lt_of_le hlt hstopped.le) htask hgoes
  simp [hstopped.halted id former hlt hformer] at hwent

theorem HasStopped.afterDeeds (hstopped : session.HasStopped count)
    (hdeeds : session.Deeds later) : later.HasStopped count := by
  induction hdeeds with
  | refl => exact hstopped
  | tail _ hdeed ih => exact ih.afterDeed hdeed

theorem HasStopped.runTask (hstopped : session.HasStopped count) (hlt : id < count) :
    session.runTask id = session := by
  rcases session.runTask_eq_self_or_resolved id with hrest | ⟨task, htask, hlive, -, -⟩
  · exact hrest
  · simp [hstopped.halted id task hlt htask] at hlive

/-- A session that holds no task has stopped all that it ever had. -/
theorem Sound.hasStopped (hsound : session.Sound) (hnone : session.holdings.task = none)
    (hle : count ≤ session.tasks.length) : session.HasStopped count :=
  ⟨hle, fun _ task _ htask =>
    hsound.tends.halted hnone task (List.mem_of_getElem? htask)⟩

/-! ## Calls that replace a session -/

/-- The stages of a call that has cleared away the former session.  A connect may end
before it has done so, if it was superseded or came after a shutdown. -/
def Stage.HasCleared : Stage → Prop
  | .queued => False
  | .done (.error .superseded) => False
  | .done (.error (.setup .shutDown)) => False
  | _ => True

theorem Turn.hasCleared (hturn : Turn session id call later) (hstage : call.stage = .queued)
    (hcall : session.calls[id]? = some call) {next : Call}
    (hnext : later.calls[id]? = some next) (hcleared : next.stage.HasCleared) :
    later.holdings.task = none := by
  cases hturn.plain fun _ _ => hstage with
  | overtaken | refused =>
      obtain rfl := Line.eq_of_modify_self hcall hnext
      exact hcleared.elim
  | cleared => rfl
  | ended _ hother | shutDown _ hother => simp [hstage] at hother

/-- Once a call has cleared away the former session, the tasks from before are stopped. -/
def Replaces (session : Session) (id count : Nat) : Prop :=
  count ≤ session.tasks.length ∧
    ∀ call, session.calls[id]? = some call → call.stage.HasCleared → session.HasStopped count

theorem Replaces.afterDeed (hreplaces : session.Replaces id count) (hsound : session.Sound)
    (hdeed : session.Deed later) : later.Replaces id count := by
  refine ⟨Nat.le_trans hreplaces.1 hdeed.keepsTasks.le, ?_⟩
  intro next hnext hcleared
  have hstopped {call : Call} (hcall : session.calls[id]? = some call)
      (hbefore : call.stage.HasCleared) : later.HasStopped count :=
    (hreplaces.2 call hcall hbefore).afterDeed hdeed
  have hfooting := hsound.afterDeed hdeed
  have hle := Nat.le_trans hreplaces.1 hdeed.keepsTasks.le
  cases hdeed with
  | issued request =>
      rcases Line.getElem?_issue hnext with hold | ⟨-, rfl⟩
      · exact hstopped hold hcleared
      · exact hcleared.elim
  | turned hcall hholder hturn =>
      rename_i turning call
      by_cases hself : id = turning
      · subst hself
        have hdone := hsound.orderly.isDone_of_held hholder hcall
        cases hstage : call.stage with
        | queued =>
            exact hfooting.hasStopped (hturn.hasCleared hstage hcall hnext hcleared) hle
        | done result => simp [hstage, Stage.isDone] at hdone
        | cleared | bound | dialing | answered | dropped =>
            apply hstopped hcall
            rw [hstage]
            trivial
      · rw [hturn.getElem?_of_ne hself] at hnext
        exact hstopped hnext hcleared
  | sent | lost | resolved | waited | cued | enrolled => exact hstopped hnext hcleared

theorem Replaces.afterDeeds (hreplaces : session.Replaces id count) (hsound : session.Sound)
    (hdeeds : session.Deeds later) : later.Replaces id count := by
  apply deeds_induction (motive := (Replaces · id count)) ?_ hsound hdeeds hreplaces
  intro former later hformer hdeed hreplaces
  exact hreplaces.afterDeed hformer hdeed

/-- A call that waits for its turn replaces what is there by then. -/
theorem replaces_of_queued
    (hqueued : ∀ call, session.calls[id]? = some call → call.stage = .queued) :
    session.Replaces id session.tasks.length := by
  refine ⟨Nat.le_refl _, ?_⟩
  intro call hcall hcleared
  rw [hqueued call hcall] at hcleared
  exact hcleared.elim

/-! ## Losses -/

theorem hasStopped_noteLoss {link : LinkId} (hsound : session.Sound)
    (hlink : session.holdings.link = some link) (hphase : session.phase = .connected) :
    (session.noteLoss link).HasStopped session.tasks.length := by
  rw [noteLoss_of_held hlink hphase]
  apply (hsound.afterDeed (.lost hphase hlink)).hasStopped rfl
  exact Nat.le_of_eq (length_halted session.tasks session.holdings.task).symm

theorem hasStopped_of_reportsLoss {link : LinkId} {given : Act} (hsound : session.Sound)
    (hlink : session.holdings.link = some link) (hphase : session.phase = .connected)
    (hloss : session.ReportsLoss link given) :
    (session.act given).HasStopped session.tasks.length := by
  cases hloss with
  | reported => exact hasStopped_noteLoss hsound hlink hphase
  | answered hanswer hends =>
      rename_i service payload error
      have hsent := hsound.afterDeed (.sent hphase hlink service payload)
      rw [act, send_of_lost hlink hphase hanswer hends]
      exact hasStopped_noteLoss hsent hlink hphase

/-! ## Tasks that go on -/

/-- A task that goes on is the one that the session holds.  The session is connected, and
the task resolves the entries of its profile on its link. -/
structure IsKept (session : Session) (id : Nat) (task : Task) : Prop where
  task_eq : session.holdings.task = some id
  phase : session.phase = .connected
  link : session.holdings.link = some task.link
  entries : ∃ profile, session.holdings.profile = some profile ∧ task.entries = profile.bootstrap

theorem Sound.isKept {task : Task} (hsound : session.Sound)
    (htask : session.tasks[id]? = some task) (hlive : task.live = true) :
    session.IsKept id task := by
  have hheld := hsound.tends.only id task htask hlive
  obtain ⟨hphase, found, profile, hfound, -, hlink, hprofile, hentries⟩ :=
    hsound.tends.live id hheld
  obtain rfl : task = found := Option.some.inj (htask.symm.trans hfound)
  exact ⟨hheld, hphase, hlink, profile, hprofile, hentries⟩

/-- A refresh that does anything resolves the entries of the held profile on the held
link, and nothing else happens on the network. -/
theorem Sound.resolves_of_runTask_ne (hsound : session.Sound)
    (hchanged : session.runTask id ≠ session) :
    ∃ profile link, session.holdings = ⟨some profile, some link, some id⟩ ∧
      session.phase = .connected ∧
      (session.runTask id).network = session.network.resolveEach link profile.bootstrap := by
  rcases session.runTask_eq_self_or_resolved id with hrest | ⟨task, htask, hlive, -, hlater⟩
  · exact absurd hrest hchanged
  · obtain ⟨hheld, hphase, hlink, profile, hprofile, hentries⟩ := hsound.isKept htask hlive
    refine ⟨profile, task.link, holdings_eq hprofile hlink hheld, hphase, ?_⟩
    rw [hlater, ← hentries]
    rfl

end

/-- In every state of every run the tasks that go on are the one that the session holds,
if any, and what it resolves are the entries of the held profile on the link of a
connected session.  Once a call has cleared away the former session, or the loss of its
link was reported, no task that was started before does anything ever again. -/
theorem refresh_is_owned (options : Options) (before : List Act) :
    let session := (initial options).run before
    (∀ (id : Nat) task, session.tasks[id]? = some task → task.live = true →
        session.IsKept id task) ∧
      (∀ id : Nat, session.holdings.task = some id →
        ∃ task, session.tasks[id]? = some task ∧ task.live = true) ∧
      (∀ id : Nat, session.runTask id ≠ session →
        ∃ profile link, session.holdings = ⟨some profile, some link, some id⟩ ∧
          session.phase = .connected ∧
          (session.runTask id).network =
            session.network.resolveEach link profile.bootstrap) ∧
      (∀ (id : Nat) between call,
        (∀ former, session.calls[id]? = some former → former.stage = .queued) →
        (session.run between).calls[id]? = some call → call.stage.HasCleared →
        ∀ after (task : Nat), task < session.tasks.length →
          ((session.run between).run after).runTask task = (session.run between).run after) ∧
      ∀ link given, session.holdings.link = some link → session.phase = .connected →
        session.ReportsLoss link given →
        ∀ after (task : Nat), task < session.tasks.length →
          ((session.act given).run after).runTask task = (session.act given).run after := by
  intro session
  have hsound : session.Sound := sound_run options before
  have hforever {later : Session} {count : Nat} (hstopped : later.HasStopped count)
      (after : List Act) (task : Nat) (hlt : task < count) :
      (later.run after).runTask task = later.run after :=
    (hstopped.afterDeeds (later.deeds_run after)).runTask hlt
  refine ⟨fun id task htask hlive => hsound.isKept htask hlive, ?_,
    fun id hchanged => hsound.resolves_of_runTask_ne hchanged, ?_, ?_⟩
  · intro id hheld
    obtain ⟨-, task, -, htask, hlive, -⟩ := hsound.tends.live id hheld
    exact ⟨task, htask, hlive⟩
  · intro id between call hqueued hcall hcleared
    have hreplaces := (replaces_of_queued hqueued).afterDeeds hsound (session.deeds_run between)
    exact hforever (hreplaces.2 call hcall hcleared)
  · intro link given hlink hphase hloss
    exact hforever (hasStopped_of_reportsLoss hsound hlink hphase hloss)

/-- The refresh of a session that was ended: it is due, and would have resolved the entries
once more if the session were still there. -/
theorem due_refresh_of_ended_session :
    let connect : List Act :=
      .issue (.connect Profile.Sample.direct) :: List.replicate 5 (.advance 0)
    let disconnect : List Act := [.issue .disconnect, .advance 1, .advance 1]
    let due : List Act := [.wait (Duration.ofSecs 300).nanos]
    let session := (initial .standard).run connect
    session.holdings.task = some 0 ∧
      ((session.run due).runTask 0).network ≠ (session.run due).network ∧
      ((session.run disconnect).run due).runTask 0 = (session.run disconnect).run due := by
  intro connect disconnect due session
  have hqueued : ∀ former, session.calls[1]? = some former → former.stage = .queued := by
    intro former hformer
    have hnone : session.calls[1]? = none := rfl
    simp [hnone] at hformer
  obtain ⟨-, -, -, hreplaced, -⟩ := refresh_is_owned .standard connect
  refine ⟨by decide +kernel, by decide +kernel, ?_⟩
  exact hreplaced 1 disconnect _ hqueued rfl trivial due 0 (by decide +kernel)

end NodeLink.Session
