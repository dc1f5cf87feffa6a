import NodeLink.Profile.Samples
import NodeLink.Proofs.Session.Resolutions
import NodeLink.Proofs.Session.Schedule
/-!
# Rounds

A connect that comes up has just resolved the entries of its profile.  From then on the task
that it leaves behind is due after every interval, counted from the instant at which the
session came up and not from the last round.  A task that is late makes one round for all
that it has missed.  Under a clock that passes no timer by, every round is made at the instant
at which it is due, so the instant tells how many were made.
-/

namespace NodeLink.Session

open NodeLink.Rehearsal (Network LinkId)

/-- All entries in their order, so many times. -/
def roundsOf (count : Nat) (entries : List String) : List String :=
  (List.replicate count entries).flatten

theorem roundsOf_succ (count : Nat) (entries : List String) :
    roundsOf (count + 1) entries = roundsOf count entries ++ entries := by
  rw [roundsOf, List.replicate_succ', List.flatten_append, List.flatten_singleton]
  rfl

theorem length_roundsOf (count : Nat) (entries : List String) :
    (roundsOf count entries).length = count * entries.length := by
  simp [roundsOf]

/-! ## Tasks that are late -/

/-- Every task has some time between its rounds. -/
def Paced (tasks : List Task) : Prop :=
  ∀ task ∈ tasks, 0 < task.interval

theorem Paced.modify {tasks : List Task} (hpaced : Paced tasks) (id : Nat) {change : Task → Task}
    (hchange : ∀ task, (change task).interval = task.interval) :
    Paced (tasks.modify id change) := by
  intro task hmem
  obtain ⟨other, hother⟩ := List.mem_iff_getElem?.mp hmem
  obtain ⟨former, hformer, rfl⟩ := exists_of_getElem?_modify hother
  have hpositive := hpaced former (List.mem_of_getElem? hformer)
  split
  next => rwa [hchange]
  next => exact hpositive

theorem Paced.halted {tasks : List Task} (hpaced : Paced tasks) (id? : Option TaskId) :
    Paced (halted tasks id?) := by
  cases id? with
  | none => exact hpaced
  | some id => exact hpaced.modify id fun _ => rfl

theorem paced_refreshTask? (session : Session) (link : LinkId) (entries : List String) :
    Paced (session.refreshTask? link entries).toList := by
  intro task hmem
  rw [Option.mem_toList, refreshTask?] at hmem
  split at hmem
  next => cases hmem
  next hgoes =>
    obtain rfl := Option.some.inj hmem
    simp only [Bool.or_eq_true, beq_iff_eq, not_or] at hgoes
    exact Nat.pos_of_ne_zero hgoes.2

theorem Turn.paced {session later : Session} {id : Nat} {call : Call}
    (hturn : Turn session id call later) (hpaced : Paced session.tasks) : Paced later.tasks := by
  cases hturn with
  | overtaken | refused | left | bound | dialed | signedIn | fell | ended | shutDown => exact hpaced
  | cleared | hindered | failed => exact hpaced.halted _
  | connected => exact List.forall_mem_append.mpr ⟨hpaced, paced_refreshTask? session _ _⟩

theorem paced_run (options : Options) (acts : List Act) :
    Paced ((initial options).run acts).tasks := by
  apply run_induction (motive := fun session => Paced session.tasks)
  · intro session later _ hdeed hpaced
    cases hdeed with
    | turned _ _ hturn => exact hturn.paced hpaced
    | lost => exact hpaced.halted _
    | resolved => exact hpaced.modify _ fun _ => rfl
    | issued | sent | waited | cued | enrolled => exact hpaced
  · intro task hmem
    cases hmem

/-- So many rounds of a task that is late are over by now, and the next one is still ahead. -/
theorem Task.exists_rescheduled {task : Task} {now : Nat} (hpositive : 0 < task.interval)
    (hdue : task.due ≤ now) :
    ∃ missed : Nat, task.due + missed * task.interval ≤ now ∧
      now < task.due + (missed + 1) * task.interval ∧
      task.rescheduled now = { task with due := task.due + (missed + 1) * task.interval } := by
  have hpast := Nat.div_mul_le_self (now - task.due) task.interval
  have hahead := Nat.lt_mul_div_succ (now - task.due) hpositive
  rw [Nat.mul_comm] at hahead
  exact ⟨_, Nat.add_le_of_le_sub' hdue hpast, (Nat.sub_lt_iff_lt_add' hdue).mp hahead, rfl⟩

/-- However late a task is, it makes one round and then waits for the first instant of its beat
that is still ahead. -/
theorem missed_rounds_are_skipped (options : Options) (acts : List Act) {id : Nat} {task : Task} :
    let session := (initial options).run acts
    session.tasks[id]? = some task → task.live = true → task.due ≤ session.now →
      (session.runTask id).network = session.network.resolveEach task.link task.entries ∧
        (session.runTask id).runTask id = session.runTask id ∧
        ∃ missed : Nat, task.due + missed * task.interval ≤ session.now ∧
          session.now < task.due + (missed + 1) * task.interval ∧
          (session.runTask id).tasks[id]? =
            some { task with due := task.due + (missed + 1) * task.interval } := by
  intro session htask hlive hdue
  have hpositive : 0 < task.interval := paced_run options acts task (List.mem_of_getElem? htask)
  have hround : session.runTask id = session.resolved id task := by
    rw [runTask, htask]
    exact if_pos (by simp [hlive, hdue])
  have hnext : (session.runTask id).tasks[id]? = some (task.rescheduled session.now) := by
    rw [hround, resolved, List.getElem?_modify_eq, htask]
    rfl
  obtain ⟨missed, hpast, hahead, hbeat⟩ := Task.exists_rescheduled hpositive hdue
  rw [hbeat] at hnext
  refine ⟨congrArg (·.network) hround, ?_, missed, hpast, hahead, hnext⟩
  rcases (session.runTask id).runTask_eq_self_or_resolved id with hrest | hagain
  · exact hrest
  · obtain ⟨later, hlater, -, hearly, -⟩ := hagain
    obtain rfl := Option.some.inj (hnext.symm.trans hlater)
    rw [(session.toLine_runTask id).2] at hearly
    exact absurd hahead (Nat.not_lt.mpr hearly)

/-! ## Clocks that wait for tasks -/

/-- A prompt clock lets an act happen: it is punctual, and time does not go on while a task
is due. -/
structure Prompt (session : Session) (given : Act) : Prop where
  punctual : session.Punctual given
  late : ∀ instant, given = .wait instant →
    ∀ task ∈ session.tasks, task.live = true → session.now < task.due

/-- An act under a prompt clock that is no call and reports no loss of the link. -/
structure Undisturbed (link : LinkId) (session : Session) (given : Act) : Prop where
  noCall : ∀ request, given ≠ .issue request
  noLoss : ¬ session.ReportsLoss link given
  prompt : session.Prompt given

theorem undisturbed_refresh (link : LinkId) (session : Session) (id : Nat) :
    Undisturbed link session (.refresh id) where
  noCall := by simp
  noLoss := by
    intro hloss
    cases hloss
  prompt := ⟨trivial, by simp⟩

/-! ## Rotas -/

/-- When which entries are to be resolved on which link, and by which task. -/
structure Rota where
  start : Nat
  interval : Nat
  link : LinkId
  entries : List String
  id : Nat

namespace Rota

def due (rota : Rota) (count : Nat) : Nat :=
  rota.start + count * rota.interval

/-- The task of a rota after so many rounds. -/
def taskAfter (rota : Rota) (count : Nat) : Task :=
  { link := rota.link
    entries := rota.entries
    interval := rota.interval
    due := rota.due (count + 1)
    live := true }

variable {rota : Rota} {count other now : Nat}

theorem due_succ (rota : Rota) (count : Nat) :
    rota.due (count + 1) = rota.due count + rota.interval := by
  rw [due, due, Nat.succ_mul, Nat.add_assoc]

/-- After a round in time, the task waits for the one that follows it. -/
theorem rescheduled_taskAfter (rota : Rota) (count : Nat) :
    (rota.taskAfter count).rescheduled (rota.due (count + 1)) = rota.taskAfter (count + 1) := by
  simp only [taskAfter, Task.rescheduled, Nat.sub_self, Nat.zero_div, Nat.zero_add, Nat.one_mul,
    rota.due_succ (count + 1)]

theorem lt_of_due_lt (hlt : rota.due count < rota.due other) : count < other :=
  Nat.lt_of_mul_lt_mul_right (Nat.lt_of_add_lt_add_left hlt)

/-- The instant between two rounds tells how many have been made. -/
theorem count_eq (hsince : rota.due count ≤ now) (hahead : now ≤ rota.due (count + 1))
    (hafter : rota.due other < now) (hbefore : now < rota.due (other + 1)) : count = other := by
  have hle : count < other + 1 := lt_of_due_lt (Nat.lt_of_le_of_lt hsince hbefore)
  have hge : other < count + 1 := lt_of_due_lt (Nat.lt_of_lt_of_le hafter hahead)
  omega

end Rota

/-- A connected session that no call holds has made so many rounds since it came up, and the
next one is not overdue. -/
structure KeepsRota (rota : Rota) (count : Nat) (session : Session) : Prop where
  sound : session.Sound
  free : session.holder = none
  phase : session.phase = .connected
  link : session.holdings.link = some rota.link
  task : session.tasks[rota.id]? = some (rota.taskAfter count)
  since : rota.due count ≤ session.now
  ahead : session.now ≤ rota.due (count + 1)
  recorded : ∃ record, session.network.link? rota.link = some record ∧
    entriesOn record = roundsOf (count + 1) rota.entries

section

variable {rota : Rota} {count id : Nat} {session : Session}

namespace KeepsRota

theorem only {task : Task} (hkeeps : KeepsRota rota count session)
    (htask : session.tasks[id]? = some task) (hlive : task.live = true) :
    id = rota.id ∧ task = rota.taskAfter count := by
  have hheld := hkeeps.sound.tends.only id task htask hlive
  have hown := hkeeps.sound.tends.only rota.id _ hkeeps.task rfl
  obtain rfl : id = rota.id := Option.some.inj (hheld.symm.trans hown)
  exact ⟨rfl, Option.some.inj (htask.symm.trans hkeeps.task)⟩

theorem late (hkeeps : KeepsRota rota count session) (hlt : session.now < rota.due (count + 1)) :
    ∀ task ∈ session.tasks, task.live = true → session.now < task.due := by
  intro task hmem hlive
  obtain ⟨id, hid⟩ := List.mem_iff_getElem?.mp hmem
  obtain ⟨-, rfl⟩ := hkeeps.only hid hlive
  exact hlt

theorem withNetwork (hkeeps : KeepsRota rota count session) {network : Network}
    (hsound : { session with network }.Sound)
    (hentries : KeepsEntries rota.link session.network network) :
    KeepsRota rota count { session with network } := by
  obtain ⟨record, hrecord, hrounds⟩ := hkeeps.recorded
  obtain ⟨next, hnext, hsame⟩ := hentries record hrecord
  exact ⟨hsound, hkeeps.free, hkeeps.phase, hkeeps.link, hkeeps.task, hkeeps.since, hkeeps.ahead,
    next, hnext, hsame.trans hrounds⟩

/-- A task makes no round before it is due. -/
theorem runTask_of_late (hkeeps : KeepsRota rota count session)
    (hlate : id = rota.id → session.now < rota.due (count + 1)) : session.runTask id = session := by
  rcases session.runTask_eq_self_or_resolved id with hrest | ⟨task, htask, hlive, hdue, -⟩
  · exact hrest
  · obtain ⟨hid, rfl⟩ := hkeeps.only htask hlive
    exact absurd hdue (Nat.not_le.mpr (hlate hid))

theorem runTask_of_due (hkeeps : KeepsRota rota count session)
    (hdue : session.now = rota.due (count + 1)) :
    session.runTask rota.id = session.resolved rota.id (rota.taskAfter count) := by
  have hgoes : (rota.taskAfter count).live && decide ((rota.taskAfter count).due ≤ session.now) :=
    decide_eq_true (Nat.le_of_eq hdue.symm)
  rw [runTask, hkeeps.task]
  exact if_pos hgoes

theorem afterRound (hkeeps : KeepsRota rota count session)
    (hdue : session.now = rota.due (count + 1)) :
    KeepsRota rota (count + 1) (session.resolved rota.id (rota.taskAfter count)) where
  sound := hkeeps.sound.afterDeed (.resolved hkeeps.task rfl (Nat.le_of_eq hdue.symm))
  free := hkeeps.free
  phase := hkeeps.phase
  link := hkeeps.link
  task := by
    show (session.tasks.modify rota.id _)[rota.id]? = _
    rw [List.getElem?_modify_eq, hkeeps.task, Option.map_eq_map, Option.map_some, hdue,
      rota.rescheduled_taskAfter]
  since := Nat.le_of_eq hdue.symm
  ahead := by
    show session.now ≤ _
    rw [hdue, rota.due_succ (count + 1)]
    exact Nat.le_add_right _ _
  recorded := by
    obtain ⟨record, hrecord, hrounds⟩ := hkeeps.recorded
    have hlater := session.network.link?_resolveEach_self rota.link rota.entries
    rw [hrecord, Option.map_some] at hlater
    refine ⟨_, hlater, ?_⟩
    rw [entriesOn_round, hrounds, ← roundsOf_succ]

/-- The task makes a round at the instant at which it is due, and then waits for the next. -/
theorem refresh (hkeeps : KeepsRota rota count session) (hpositive : 0 < rota.interval)
    (id : Nat) : ∃ next, KeepsRota rota next (session.runTask id) ∧
      (id = rota.id → (session.runTask id).now < rota.due (next + 1)) := by
  by_cases hgoes : id = rota.id ∧ session.now = rota.due (count + 1)
  · obtain ⟨rfl, hdue⟩ := hgoes
    rw [hkeeps.runTask_of_due hdue]
    refine ⟨count + 1, hkeeps.afterRound hdue, fun _ => ?_⟩
    show session.now < _
    rw [hdue, rota.due_succ (count + 1)]
    exact Nat.lt_add_of_pos_right hpositive
  · have hlate : id = rota.id → session.now < rota.due (count + 1) := fun hid =>
      Nat.lt_of_le_of_ne hkeeps.ahead fun hdue => hgoes ⟨hid, hdue⟩
    rw [hkeeps.runTask_of_late hlate]
    exact ⟨count, hkeeps, hlate⟩

theorem wait (hkeeps : KeepsRota rota count session) {instant : Nat}
    (hahead : instant ≤ rota.due (count + 1)) : KeepsRota rota count (session.wait instant) where
  sound := hkeeps.sound.afterDeed (.waited instant)
  free := hkeeps.free
  phase := hkeeps.phase
  link := hkeeps.link
  task := hkeeps.task
  since := Nat.le_trans hkeeps.since (Nat.le_max_left _ _)
  ahead := Nat.max_le.mpr ⟨hkeeps.ahead, hahead⟩
  recorded := hkeeps.recorded

/-- The next timer is that of the task at the latest. -/
theorem nextTimer?_le (hkeeps : KeepsRota rota count session)
    (hlt : session.now < rota.due (count + 1)) :
    ∃ timer : Nat, session.nextTimer? = some timer ∧ timer ≤ rota.due (count + 1) := by
  have hmem : rota.due (count + 1) ∈ session.tasks.filterMap taskTimer? :=
    List.mem_filterMap.mpr ⟨_, List.mem_of_getElem? hkeeps.task, rfl⟩
  exact Session.nextTimer?_le (List.mem_append_right _ hmem) hlt

theorem send (hkeeps : KeepsRota rota count session) {service : Service} {payload : List UInt8}
    (hnoLoss : ¬ session.ReportsLoss rota.link (.send service payload)) :
    KeepsRota rota count (session.send service payload).1 := by
  have hsending := session.sending service payload
  generalize (session.send service payload).1 = later at hsending
  cases hsending with
  | refused => exact hkeeps
  | @asked link hphase hlink =>
      have hsound := hkeeps.sound.afterDeed (.sent hphase hlink service payload)
      exact hkeeps.withNetwork hsound (keepsEntries_request _ _ _ _ _)
  | @foundLost link error hphase hlink hanswer hends =>
      obtain rfl : link = rota.link := Option.some.inj (hlink.symm.trans hkeeps.link)
      exact absurd (.answered hanswer hends) hnoLoss

/-- One undisturbed act after the other keeps a session to its rota. -/
theorem afterAct (hkeeps : KeepsRota rota count session) (hpositive : 0 < rota.interval)
    {given : Act} (hundisturbed : Undisturbed rota.link session given) :
    ∃ next, KeepsRota rota next (session.act given) := by
  obtain ⟨hnoCall, hnoLoss, hprompt⟩ := hundisturbed
  cases given with
  | issue request => exact absurd rfl (hnoCall request)
  | advance id =>
      refine ⟨count, ?_⟩
      rcases session.advance_eq_self_or_turn id with hrest | ⟨call, -, hholder, -⟩
      · show KeepsRota rota count (session.advance id)
        rwa [hrest]
      · rw [hkeeps.free] at hholder
        cases hholder
  | send service payload => exact ⟨count, hkeeps.send hnoLoss⟩
  | report link =>
      have hother : link ≠ rota.link := by
        rintro rfl
        exact hnoLoss .reported
      have hrest : session.noteLoss link = session := by
        by_contra hchanged
        obtain ⟨hheld, -⟩ := noteLoss_ne_self_iff.mp hchanged
        exact hother (Option.some.inj (hheld.symm.trans hkeeps.link))
      refine ⟨count, ?_⟩
      show KeepsRota rota count (session.noteLoss link)
      rwa [hrest]
  | refresh id =>
      obtain ⟨next, hnext, -⟩ := hkeeps.refresh hpositive id
      exact ⟨next, hnext⟩
  | wait instant =>
      -- the round that is due next has its timer, and no clock goes past that
      have hlt : session.now < rota.due (count + 1) :=
        hprompt.late instant rfl _ (List.mem_of_getElem? hkeeps.task) rfl
      obtain ⟨timer, htimer, hle⟩ := hkeeps.nextTimer?_le hlt
      exact ⟨count, hkeeps.wait (Nat.le_trans (hprompt.punctual.2 timer htimer) hle)⟩
  | cue cue =>
      exact ⟨count, hkeeps.withNetwork (hkeeps.sound.afterDeed (.cued cue))
        (keepsEntries_cue _ _ cue)⟩
  | listen listener =>
      have hsound := hkeeps.sound.afterAct (.listen listener)
      exact ⟨count, hsound, hkeeps.free, hkeeps.phase, hkeeps.link, hkeeps.task, hkeeps.since,
        hkeeps.ahead, hkeeps.recorded⟩
  | unlisten name =>
      have hsound := hkeeps.sound.afterAct (.unlisten name)
      exact ⟨count, hsound, hkeeps.free, hkeeps.phase, hkeeps.link, hkeeps.task, hkeeps.since,
        hkeeps.ahead, hkeeps.recorded⟩

theorem afterRun (hkeeps : KeepsRota rota count session) (hpositive : 0 < rota.interval)
    {acts : List Act} (halong : Along (Undisturbed rota.link) session acts) :
    ∃ next, KeepsRota rota next (session.run acts) := by
  induction acts generalizing session count with
  | nil => exact ⟨count, hkeeps⟩
  | cons given acts ih =>
      obtain ⟨next, hnext⟩ := hkeeps.afterAct hpositive halong.1
      exact ih hnext halong.2

end KeepsRota

/-! ## Sleeping -/

/-- An undisturbed run leads from one session to another. -/
def Drifts (link : LinkId) (session later : Session) : Prop :=
  ∃ acts, session.run acts = later ∧ Along (Undisturbed link) session acts

theorem Drifts.trans {link : LinkId} {later last : Session} (hfirst : Drifts link session later)
    (hsecond : Drifts link later last) : Drifts link session last :=
  exists_run_trans hfirst hsecond

theorem drifts_runTasks (link : LinkId) (session : Session) :
    Drifts link session session.runTasks := by
  refine ⟨(List.range session.tasks.length).map .refresh, List.foldl_map, ?_⟩
  apply along_of_admits
  intro given hgiven session
  obtain ⟨id, -, rfl⟩ := List.mem_map.mp hgiven
  exact undisturbed_refresh link session id

theorem isReady_of_free (hfree : session.holder = none) (id : Nat) :
    session.isReady id = false := by
  unfold isReady
  cases session.calls[id]? with
  | none => rfl
  | some call => simp [hfree]

theorem settle_of_free (hfree : session.holder = none) : session.settle = session.runTasks := by
  have hnone : session.readyCall? = none := by
    refine List.find?_eq_none.mpr fun id _ => ?_
    simp [isReady_of_free hfree id]
  have hrests (steps : Nat) : settleCalls steps session = session := by
    cases steps with
    | zero => rfl
    | succ steps => simp only [settleCalls, hnone]
  rw [settle, hrests]

/-- A session has made all rounds that are due by now. -/
def IsUpToDate (rota : Rota) (session : Session) : Prop :=
  ∃ count, KeepsRota rota count session ∧ session.now < rota.due (count + 1)

theorem IsUpToDate.foldl_runTask (huptodate : IsUpToDate rota session) (ids : List Nat) :
    ids.foldl runTask session = session := by
  obtain ⟨count, hkeeps, hlt⟩ := huptodate
  exact List.foldl_fixed' (fun _ => hkeeps.runTask_of_late fun _ => hlt) ids

namespace KeepsRota

theorem foldl_runTask (hkeeps : KeepsRota rota count session) (hpositive : 0 < rota.interval)
    {ids : List Nat} (hmem : rota.id ∈ ids) : IsUpToDate rota (ids.foldl runTask session) := by
  induction ids generalizing session count with
  | nil => cases hmem
  | cons id ids ih =>
      obtain ⟨next, hnext, hlt⟩ := hkeeps.refresh hpositive id
      rw [List.foldl_cons]
      by_cases hid : id = rota.id
      · -- the tasks behind the one of the rota find nothing that is due
        have huptodate : IsUpToDate rota (session.runTask id) := ⟨next, hnext, hlt hid⟩
        rwa [huptodate.foldl_runTask]
      · exact ih hnext ((List.mem_cons.mp hmem).resolve_left (Ne.symm hid))

theorem settled (hkeeps : KeepsRota rota count session) (hpositive : 0 < rota.interval) :
    Drifts rota.link session session.settle ∧ IsUpToDate rota session.settle := by
  have hlt := (List.getElem?_eq_some_iff.mp hkeeps.task).1
  rw [settle_of_free hkeeps.free]
  exact ⟨drifts_runTasks _ _, hkeeps.foldl_runTask hpositive (List.mem_range.mpr hlt)⟩

end KeepsRota

/-- Time passes to the next timer at most, and then what is due is done. -/
theorem IsUpToDate.move (huptodate : IsUpToDate rota session) (hpositive : 0 < rota.interval)
    {instant : Nat}
    (htimer : ∀ timer : Nat, session.nextTimer? = some timer → instant ≤ timer) :
    Drifts rota.link session (session.wait instant).settle ∧
      IsUpToDate rota (session.wait instant).settle := by
  obtain ⟨count, hkeeps, hlt⟩ := huptodate
  obtain ⟨timer, hnext, hle⟩ := hkeeps.nextTimer?_le hlt
  have hwaited := hkeeps.wait (Nat.le_trans (htimer timer hnext) hle)
  obtain ⟨hdrifts, hlater⟩ := hwaited.settled hpositive
  have hwait : Undisturbed rota.link session (.wait instant) :=
    { noCall := by simp
      noLoss := by
        intro hloss
        cases hloss
      prompt := ⟨⟨isReady_of_free hkeeps.free, htimer⟩, fun _ _ => hkeeps.late hlt⟩ }
  have hmove : Drifts rota.link session (session.wait instant) :=
    ⟨[.wait instant], rfl, hwait, trivial⟩
  exact ⟨hmove.trans hdrifts, hlater⟩

/-- To sleep is to let time pass undisturbed. -/
theorem KeepsRota.sleep (hkeeps : KeepsRota rota count session) (hpositive : 0 < rota.interval)
    (duration : Duration) : Drifts rota.link session (session.sleep duration) ∧
      (session.sleep duration).now = session.now + duration.nanos := by
  obtain ⟨hsettled, huptodate⟩ := hkeeps.settled hpositive
  have hnow := now_settle session
  obtain ⟨hdrifts, hend⟩ := sleepUntil_induction (IsUpToDate rota) (Drifts rota.link)
    (fun _ _ _ => Drifts.trans) (fun _ _ huptodate => huptodate.move hpositive) huptodate
    (Nat.le_of_eq (congrArg (· + duration.nanos) hnow.symm))
  refine ⟨hsettled.trans hdrifts, hend.trans ?_⟩
  rw [hnow]
  exact Nat.max_eq_right (Nat.le_add_right _ _)

end

/-! ## Coming up -/

/-- A session has just come up on a link, and no call is left that could change that. -/
structure HasArrived (session : Session) (profile : Profile) (link : LinkId) : Prop where
  sound : session.Sound
  free : session.holder = none
  phase : session.phase = .connected
  profile_eq : session.holdings.profile = some profile
  link_eq : session.holdings.link = some link
  tasks : ∃ former, (∀ task ∈ former, task.live = false) ∧
    session.tasks = former ++ (session.refreshTask? link profile.bootstrap).toList
  recorded : ∃ record, session.network.link? link = some record ∧
    entriesOn record = profile.bootstrap

section

variable {session later : Session} {id : Nat} {call : Call} {profile : Profile} {link : LinkId}

/-- Nothing but a connect that was accepted brings a session up. -/
theorem Turn.arrives (hturn : Turn session id call later) (hdown : session.phase ≠ .connected)
    (hup : later.phase = .connected) :
    ∃ profile link, call.request = .connect profile ∧ call.stage = .answered link (.ok ()) ∧
      session.isOvertaken call = false ∧
      later =
        ((session.startRefresh link profile.bootstrap).moveTo .connected).finish id (.ok ()) := by
  cases hturn with
  | connected hrequest hstage hnewest => exact ⟨_, _, hrequest, hstage, hnewest, rfl⟩
  | overtaken | refused | cleared | dialed | signedIn | failed => exact absurd hup hdown
  | @left profile =>
      have hphase := (phase_startOver session profile).symm.trans hup
      cases hphase
  | @hindered profile =>
      have hphase := (phase_startOver session profile).symm.trans hup
      cases hphase
  | @bound profile =>
      have hphase := (phase_startOver session profile).symm.trans hup
      cases hphase
  | fell =>
      have hphase := (phase_moveTo session .failed).symm.trans hup
      cases hphase
  | ended | shutDown =>
      have hphase := (phase_endSession session id).symm.trans hup
      cases hphase

theorem arrives_of_act {given : Act} (hdown : session.phase ≠ .connected)
    (hup : (session.act given).phase = .connected) :
    ∃ (id : Nat) (call : Call), session.calls[id]? = some call ∧ session.holder = some id ∧
      Turn session id call (session.act given) := by
  have hmoves (hsame : (session.act given).phase = session.phase) : False :=
    hdown (hsame.symm.trans hup)
  cases given with
  | advance id =>
      rcases session.advance_eq_self_or_turn id with hrest | ⟨call, hcall, hholder, hturn⟩
      · exact (hmoves (congrArg (·.phase) hrest)).elim
      · exact ⟨id, call, hcall, hholder, hturn⟩
  | send service payload =>
      exact (hmoves (congrArg (·.1.phase) (send_of_not_connected hdown service payload))).elim
  | report link =>
      have hrest : session.noteLoss link = session := by
        by_contra hchanged
        exact hdown (noteLoss_ne_self_iff.mp hchanged).2
      exact (hmoves (congrArg (·.phase) hrest)).elim
  | refresh id =>
      rcases session.runTask_eq_self_or_resolved id with hrest | ⟨task, -, -, -, hlater⟩
      · exact (hmoves (congrArg (·.phase) hrest)).elim
      · exact (hmoves (congrArg (·.phase) hlater)).elim
  | issue | wait | cue | listen | unlisten => exact absurd hup hdown

theorem hasArrived_of_act {given : Act} (hsound : session.Sound) (hlogged : session.Logged)
    (hdown : session.phase ≠ .connected) (hup : (session.act given).phase = .connected) :
    ∃ profile link, (session.act given).HasArrived profile link := by
  obtain ⟨id, call, hcall, hholder, hturn⟩ := arrives_of_act hdown hup
  have hlater := hsound.afterAct given
  obtain ⟨profile, link, hrequest, hstage, hnewest, hreached⟩ := hturn.arrives hdown hup
  rw [hreached] at hlater ⊢
  have hworks : call.stage.link? = some link := by rw [hstage]; rfl
  have hbuilds := (hsound.fits_call hcall hholder).builds hworks
  have hlast := (hsound.orderly.isOvertaken_eq_false_iff hcall).mp hnewest
  refine ⟨profile, link, hlater, ?_, phase_moveTo _ _,
    hsound.profile_of_works hcall hholder hrequest hworks, hbuilds.link_eq, ?_, ?_⟩
  · let ended (call : Call) : Call := { call with stage := .done (.ok ()) }
    have hended : (session.calls.modify id ended)[id]? = some (ended call) := by
      rw [List.getElem?_modify_eq, hcall]
      rfl
    exact hlater.orderly.holder_eq_none_of_last hended rfl (by
      rw [hlast]
      exact (List.length_modify _ _ _).symm)
  · exact ⟨session.tasks, hsound.tends.halted hbuilds.task_eq, rfl⟩
  · obtain ⟨record, hrecord, -, hstands⟩ :=
      hlogged.record_of_works hsound hcall hholder hrequest hworks
    rw [hstage] at hstands
    obtain ⟨target, reply, -, hcalls, -⟩ := hstands
    refine ⟨record, hrecord, ?_⟩
    rw [entriesOn, hcalls, List.filterMap_append, resolutions, filterMap_entryOf?_resolve]
    exact List.append_nil _

theorem refreshTask?_of_some (link : LinkId) {entries : List String} (hentries : entries ≠ [])
    (hpositive : 0 < session.options.refresh.nanos) :
    session.refreshTask? link entries =
      some { link, entries, interval := session.options.refresh.nanos
             due := session.now + session.options.refresh.nanos, live := true } := by
  apply if_neg
  simp [hentries, Nat.ne_of_gt hpositive]

theorem refreshTask?_of_none (link : LinkId) {entries : List String}
    (hnone : entries = [] ∨ session.options.refresh.nanos = 0) :
    session.refreshTask? link entries = none := by
  apply if_pos
  rcases hnone with rfl | hzero
  · rfl
  · simp [hzero]

theorem HasArrived.keepsRota (harrived : session.HasArrived profile link)
    (hentries : profile.bootstrap ≠ []) (hpositive : 0 < session.options.refresh.nanos) :
    ∃ id, KeepsRota ⟨session.now, session.options.refresh.nanos, link, profile.bootstrap, id⟩ 0
      session := by
  obtain ⟨former, -, htasks⟩ := harrived.tasks
  obtain ⟨record, hrecord, hrounds⟩ := harrived.recorded
  rw [refreshTask?_of_some link hentries hpositive] at htasks
  refine ⟨former.length, harrived.sound, harrived.free, harrived.phase, harrived.link_eq, ?_, ?_,
    ?_, record, hrecord, ?_⟩
  · rw [htasks, Option.toList_some, List.getElem?_concat_length]
    simp only [Rota.taskAfter, Rota.due, Nat.zero_add, Nat.one_mul]
  · simp only [Rota.due, Nat.zero_mul, Nat.add_zero, Nat.le_refl]
  · exact Nat.le_add_right _ _
  · rw [hrounds, roundsOf_succ]
    rfl

theorem HasArrived.untended (harrived : session.HasArrived profile link)
    (hnone : profile.bootstrap = [] ∨ session.options.refresh.nanos = 0) :
    session.Untended link := by
  obtain ⟨record, hrecord, -⟩ := harrived.recorded
  obtain ⟨former, hhalted, htasks⟩ := harrived.tasks
  rw [refreshTask?_of_none link hnone, Option.toList_none, List.append_nil] at htasks
  refine ⟨(List.getElem?_eq_some_iff.mp hrecord).1, fun _ => by simp [harrived.phase], ?_⟩
  intro task hmem hlive
  rw [hhalted task (htasks ▸ hmem)] at hlive
  cases hlive

end

/-- When a session comes up, the entries of its profile have been resolved once on its link.
As long as no call is issued and no loss of the link is reported, a clock that goes from timer
to timer sees one more round, whole and in order, after every interval since then, and sleeping
is such a clock.  Without entries or an interval there is never another round. -/
theorem rounds_keep_to_the_interval (options : Options) (before : List Act) (given : Act)
    (hdown : ((initial options).run before).phase ≠ .connected)
    (hup : (((initial options).run before).act given).phase = .connected) :
    let session := ((initial options).run before).act given
    ∃ profile link, session.holdings.profile = some profile ∧
      session.holdings.link = some link ∧
      (∀ i : Nat, 0 < i → options.refresh = .ofMillis i → profile.bootstrap ≠ [] →
        ∀ after, Along (Undisturbed link) session after →
          (∀ k : Nat,
            session.now + k * (Duration.ofMillis i).nanos < (session.run after).now →
            (session.run after).now < session.now + (k + 1) * (Duration.ofMillis i).nanos →
            ∃ record, (session.run after).network.link? link = some record ∧
              entriesOn record = roundsOf (k + 1) profile.bootstrap ∧
              (entriesOn record).length = (k + 1) * profile.bootstrap.length) ∧
          ∀ duration, Drifts link (session.run after) ((session.run after).sleep duration) ∧
            ((session.run after).sleep duration).now =
              (session.run after).now + duration.nanos) ∧
      (profile.bootstrap = [] ∨ options.refresh.nanos = 0 →
        ∀ after, ∃ record, (session.run after).network.link? link = some record ∧
          entriesOn record = profile.bootstrap) := by
  intro session
  have hoptions : session.options = options := by
    have hrun := options_run options (before ++ [given])
    rwa [run_append] at hrun
  obtain ⟨profile, link, harrived⟩ :=
    hasArrived_of_act (sound_run options before) (logged_run options before) hdown hup
  refine ⟨profile, link, harrived.profile_eq, harrived.link_eq, ?_, ?_⟩
  · intro i hi hrefresh hentries after halong
    have hinterval : session.options.refresh = .ofMillis i := by rw [hoptions, hrefresh]
    have hpositive : 0 < (Duration.ofMillis i).nanos := Nat.mul_pos hi (by decide)
    obtain ⟨id, hkeeps⟩ := harrived.keepsRota hentries (hinterval ▸ hpositive)
    rw [hinterval] at hkeeps
    obtain ⟨count, hlater⟩ := hkeeps.afterRun hpositive halong
    constructor
    · intro k hafter hbefore
      obtain rfl : count = k := Rota.count_eq hlater.since hlater.ahead hafter hbefore
      obtain ⟨record, hrecord, hrounds⟩ := hlater.recorded
      exact ⟨record, hrecord, hrounds, by rw [hrounds, length_roundsOf]⟩
    · exact hlater.sleep hpositive
  · intro hnone after
    have huntended := harrived.untended (by rwa [hoptions])
    obtain ⟨record, hrecord, hrounds⟩ := harrived.recorded
    obtain ⟨next, hnext, hsame⟩ := huntended.keepsEntries harrived.sound after record hrecord
    exact ⟨next, hnext, hsame.trans hrounds⟩

/-- Half an interval after the second round that follows the one of the connect. -/
theorem third_round_is_the_last_so_far :
    let connect : List Act :=
      .issue (.connect Profile.Sample.direct) :: List.replicate 4 (.advance 0)
    let refreshing (interval : Nat) : Session :=
      ((initial { Options.standard with refresh := .ofMillis interval }).run connect).act
        (.advance 0)
    (∃ record, ((refreshing 20).sleep (.ofMillis 50)).network.link? 0 = some record ∧
        entriesOn record = roundsOf 3 Profile.Sample.direct.bootstrap) ∧
      ∃ record, ((refreshing 0).run [.wait 1000000000, .refresh 0]).network.link? 0 =
          some record ∧
        entriesOn record = Profile.Sample.direct.bootstrap := by
  intro connect refreshing
  have hheld : (refreshing 20).holdings.profile = some Profile.Sample.direct ∧
      (refreshing 20).holdings.link = some 0 ∧ (refreshing 20).now = 0 := by
    decide +kernel
  have hheld' : (refreshing 0).holdings.profile = some Profile.Sample.direct ∧
      (refreshing 0).holdings.link = some 0 := by
    decide +kernel
  constructor
  · obtain ⟨profile, link, hprofile, hlink, hrounds, -⟩ := rounds_keep_to_the_interval
      { Options.standard with refresh := .ofMillis 20 } connect (.advance 0)
      (by decide +kernel) (by decide +kernel)
    obtain rfl := Option.some.inj (hprofile.symm.trans hheld.1)
    obtain rfl := Option.some.inj (hlink.symm.trans hheld.2.1)
    have hafter := hrounds 20 (by decide) rfl (by decide)
    obtain ⟨⟨acts, hrun, halong⟩, hnow⟩ := (hafter [] trivial).2 (.ofMillis 50)
    have hstart : (refreshing 20).now = 0 := hheld.2.2
    have hslept : (refreshing 20).run acts = (refreshing 20).sleep (.ofMillis 50) := hrun
    have hend : ((refreshing 20).run acts).now = (Duration.ofMillis 50).nanos := by
      rw [hslept]
      exact hnow.trans (congrArg (· + _) hstart)
    obtain ⟨record, hrecord, hentries, -⟩ := (hafter acts halong).1 2
      (by rw [hend, hstart]; decide) (by rw [hend, hstart]; decide)
    exact ⟨record, by rw [← hslept]; exact hrecord, hentries⟩
  · obtain ⟨profile, link, hprofile, hlink, -, hnone⟩ := rounds_keep_to_the_interval
      { Options.standard with refresh := .ofMillis 0 } connect (.advance 0)
      (by decide +kernel) (by decide +kernel)
    obtain rfl := Option.some.inj (hprofile.symm.trans hheld'.1)
    obtain rfl := Option.some.inj (hlink.symm.trans hheld'.2)
    exact hnone (.inr rfl) [.wait 1000000000, .refresh 0]

end NodeLink.Session
