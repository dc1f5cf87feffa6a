import NodeLink.Proofs.Rehearsal.Network
import NodeLink.Proofs.Session.Line
import NodeLink.Proofs.Session.Turn
/-!
# What a session may hold

The parts of a session that have to agree with what it holds: the links that are
open, the tasks that go on, the calls that have bound links, and its phase.  For
each of them the lemmas say how the agreement survives what a call may do.
-/

namespace NodeLink.Session

open NodeLink.Rehearsal (Network LinkId)

/-! ## Agreement -/

/-- The open links are the one that a session holds. -/
def HoldsOpen (network : Network) (holdings : Holdings) : Prop :=
  ∀ link : Nat, network.isOpen link = true ↔ holdings.link = some link

/-- The live tasks are the one that a session holds.  It belongs to a connected
session, on whose link it resolves the entries of the profile. -/
structure Tends (tasks : List Task) (holdings : Holdings) (phase : Phase) : Prop where
  only : ∀ (id : Nat) task, tasks[id]? = some task → task.live = true →
    holdings.task = some id
  live : ∀ id : Nat, holdings.task = some id → phase = .connected ∧
    ∃ task profile, tasks[id]? = some task ∧ task.live = true ∧
      holdings.link = some task.link ∧ holdings.profile = some profile ∧
      task.entries = profile.bootstrap

def Stage.precedesLink : Stage → Bool
  | .queued => true
  | .cleared => true
  | _ => false

/-- Calls own links that were bound, and the owner of the link that a session
holds connects with the profile that it holds. -/
structure Owned (calls : List Call) (holdings : Holdings) (size : Nat) : Prop where
  lt_size : ∀ (id : Nat) call (link : Nat), calls[id]? = some call → call.link = some link →
    link < size
  profile : ∀ (id : Nat) call link, calls[id]? = some call → call.link = some link →
    holdings.link = some link →
    ∃ profile, call.request = .connect profile ∧ holdings.profile = some profile
  working : ∀ (id : Nat) call link, calls[id]? = some call → call.stage.link? = some link →
    call.link = some link
  unbound : ∀ (id : Nat) call, calls[id]? = some call → call.stage.precedesLink = true →
    call.link = none

/-- What a session holds before the next call begins. -/
def Rests (phase : Phase) (holdings : Holdings) : Prop :=
  match phase with
  | .disconnected => holdings = .none
  | .connecting => holdings.profile.isSome = true ∧ holdings.task = none
  | .connected => holdings.profile.isSome = true ∧ holdings.link.isSome = true
  | .failed => holdings.profile.isSome = true ∧ holdings.task = none

structure Builds (phase : Phase) (holdings : Holdings) (link : LinkId) : Prop where
  phase_eq : phase = .connecting
  profile : holdings.profile.isSome = true
  link_eq : holdings.link = some link
  task_eq : holdings.task = none

/-- What a session holds, by the stage of the call that changes it. -/
def Fits (phase : Phase) (holdings : Holdings) : Stage → Prop
  | .queued => Rests phase holdings
  | .cleared => holdings.link = none ∧ holdings.task = none ∧
      (phase = .disconnected ↔ holdings.profile = none)
  | .bound link _ => Builds phase holdings link
  | .dialing dial => Builds phase holdings dial.link
  | .answered link _ => Builds phase holdings link
  | .dropped _ => phase = .connecting ∧ holdings.profile.isSome = true ∧
      holdings.link = none ∧ holdings.task = none
  | .done _ => True

/-! ## Links -/

theorem HoldsOpen.of_isOpen_eq {network later : Network} {holdings : Holdings}
    (hopen : HoldsOpen network holdings)
    (hsame : ∀ link : Nat, later.isOpen link = network.isOpen link) :
    HoldsOpen later holdings := by
  intro link
  rw [hsame, hopen]

theorem HoldsOpen.isOpen {network : Network} {holdings : Holdings} {link : LinkId}
    (hopen : HoldsOpen network holdings) (hlink : holdings.link = some link) :
    network.isOpen link = true :=
  (hopen link).mpr hlink

theorem HoldsOpen.release {network : Network} {holdings later : Holdings}
    (hopen : HoldsOpen network holdings) (hnone : later.link = none) :
    HoldsOpen (network.release holdings.link) later := by
  intro link
  cases hlink : holdings.link with
  | none =>
      have hclosed := hopen link
      simp only [Network.release, hclosed, hlink, hnone]
  | some held =>
      simp only [Network.release, hnone]
      by_cases hself : link = held
      · subst hself
        simp [network.isOpen_close_self]
      · rw [network.isOpen_close_of_ne hself, hopen, hlink]
        simp [Ne.symm hself]

theorem HoldsOpen.bind {network : Network} {holdings later : Holdings}
    (hopen : HoldsOpen network holdings) (hnone : holdings.link = none)
    (hlater : later.link = some network.links.length) (binds : List Link.Terms)
    (protocols : List String) :
    HoldsOpen
      { network with binds, links := network.links ++ [Rehearsal.Link.bound protocols] }
      later := by
  intro link
  have hclosed : network.isOpen link = false := by
    rw [← Bool.not_eq_true, hopen, hnone]
    simp
  rw [network.isOpen_append, hclosed, hlater, Bool.false_or, beq_iff_eq, Option.some.injEq]
  exact eq_comm

@[simp] theorem size_close (network : Network) (link : LinkId) :
    (network.close link).links.length = network.links.length :=
  (network.agreesOff_close link).size

@[simp] theorem size_release (network : Network) (link? : Option LinkId) :
    (network.release link?).links.length = network.links.length := by
  cases link? with
  | none => rfl
  | some link => exact size_close network link

/-! ## Tasks -/

theorem mem_halted {tasks : List Task} {id? : Option TaskId} {other : Nat} {task : Task}
    (htask : (halted tasks id?)[other]? = some task) (hlive : task.live = true) :
    tasks[other]? = some task ∧ id? ≠ some other := by
  cases id? with
  | none => exact ⟨htask, by simp⟩
  | some id =>
      obtain ⟨former, hformer, rfl⟩ := exists_of_getElem?_modify htask
      by_cases hother : id = other
      · simp [hother] at hlive
      · rw [if_neg hother]
        exact ⟨hformer, by simpa using hother⟩

theorem Tends.halt {tasks : List Task} {holdings later : Holdings} {phase : Phase}
    (htends : Tends tasks holdings phase) (hnone : later.task = none) (next : Phase) :
    Tends (halted tasks holdings.task) later next where
  only := by
    intro id task htask hlive
    obtain ⟨hformer, hother⟩ := mem_halted htask hlive
    exact absurd (htends.only id task hformer hlive) hother
  live := by simp [hnone]

theorem Tends.rest {tasks : List Task} {holdings later : Holdings} {phase : Phase}
    (htends : Tends tasks holdings phase) (hformer : holdings.task = none)
    (hnone : later.task = none) (next : Phase) : Tends tasks later next where
  only := by
    intro id task htask hlive
    have hheld := htends.only id task htask hlive
    simp [hformer] at hheld
  live := by simp [hnone]

/-- A session that holds no task has none that goes on. -/
theorem Tends.halted {tasks : List Task} {holdings : Holdings} {phase : Phase}
    (htends : Tends tasks holdings phase) (hnone : holdings.task = none) :
    ∀ task ∈ tasks, task.live = false := by
  intro task hmem
  obtain ⟨id, hid⟩ := List.mem_iff_getElem?.mp hmem
  rw [← Bool.not_eq_true]
  intro hlive
  simp [htends.only id task hid hlive] at hnone

theorem Tends.startRefresh {session : Session} {link : LinkId} {profile : Profile}
    (htends : Tends session.tasks session.holdings session.phase)
    (hformer : session.holdings.task = none) (hlink : session.holdings.link = some link)
    (hprofile : session.holdings.profile = some profile) :
    Tends (session.startRefresh link profile.bootstrap).tasks
      (session.startRefresh link profile.bootstrap).holdings .connected := by
  have hidle : ∀ (id : Nat) task, session.tasks[id]? = some task → task.live = false :=
    fun id task htask => htends.halted hformer task (List.mem_of_getElem? htask)
  unfold Session.startRefresh refreshTask?
  simp only
  split
  next =>
    constructor
    · intro id task htask hlive
      simp only [Option.toList_none, List.append_nil] at htask
      simp [hidle id task htask] at hlive
    · simp
  next =>
    constructor
    · intro id task htask hlive
      simp only [Option.toList_some, List.getElem?_append] at htask
      split at htask
      next => simp [hidle id task htask] at hlive
      next hle =>
        have hindex := (List.getElem?_eq_some_iff.mp htask).1
        simp only [List.length_singleton] at hindex
        simp only [Option.map_some, Option.some.injEq]
        show (session.tasks.length : Nat) = id
        omega
    · intro id hid
      simp only [Option.map_some, Option.some.injEq] at hid
      subst hid
      exact ⟨rfl, _, profile, List.getElem?_concat_length, rfl, hlink, hprofile, rfl⟩

theorem Tends.reschedule {tasks : List Task} {holdings : Holdings} {phase : Phase}
    (htends : Tends tasks holdings phase) (id : Nat) (now : Instant) :
    Tends (tasks.modify id (·.rescheduled now)) holdings phase where
  only := by
    intro other task htask hlive
    obtain ⟨former, hformer, rfl⟩ := exists_of_getElem?_modify htask
    apply htends.only other former hformer
    split at hlive
    next => exact hlive
    next => exact hlive
  live := by
    intro other hheld
    obtain ⟨hphase, task, profile, htask, hlive, hlink, hprofile, hentries⟩ :=
      htends.live other hheld
    refine ⟨hphase, ?_⟩
    rw [List.getElem?_modify, htask]
    by_cases hself : id = other
    · exact ⟨task.rescheduled now, profile, by simp [hself], hlive, hlink, hprofile, hentries⟩
    · exact ⟨task, profile, by simp [hself], hlive, hlink, hprofile, hentries⟩

/-! ## Owners -/

def KeepsOwners (calls later : List Call) : Prop :=
  ∀ (id : Nat) call link, later[id]? = some call → call.link = some link →
    ∃ former, calls[id]? = some former ∧ former.link = some link ∧
      former.request = call.request

theorem keepsOwners_setStage (line : Line) (id : Nat) (stage : Stage) :
    KeepsOwners line.calls (line.setStage id stage).calls := by
  intro other later link hlater hlink
  obtain ⟨former, hformer, rfl⟩ := exists_of_getElem?_modify hlater
  refine ⟨former, hformer, ?_, ?_⟩
  · split at hlink
    next => exact hlink
    next => exact hlink
  · split
    next => rfl
    next => rfl

theorem keepsOwners_finish (line : Line) (id : Nat) (result : Except Error Unit) :
    KeepsOwners line.calls (line.finish id result).calls :=
  keepsOwners_setStage line id (.done result)

theorem keepsOwners_issue (line : Line) (request : Request) :
    KeepsOwners line.calls (line.issue request).calls := by
  intro id call link hcall hlink
  rcases Line.getElem?_issue hcall with hold | ⟨rfl, rfl⟩
  · exact ⟨call, hold, hlink, rfl⟩
  · simp [Line.issued] at hlink

theorem getElem?_setBound {line : Line} {id : Nat} {call : Call} {link : LinkId}
    {deadline : Instant} {other : Nat} {later : Call} (hcall : line.calls[id]? = some call)
    (hlater : (line.setBound id link deadline).calls[other]? = some later) :
    other = id ∧ later = { call with link := some link, stage := .bound link deadline } ∨
      other ≠ id ∧ line.calls[other]? = some later := by
  obtain ⟨former, hformer, rfl⟩ := exists_of_getElem?_modify hlater
  by_cases hself : id = other
  · subst hself
    rw [hcall, Option.some.injEq] at hformer
    subst hformer
    exact .inl ⟨rfl, if_pos rfl⟩
  · rw [if_neg hself]
    exact .inr ⟨Ne.symm hself, hformer⟩

theorem Owned.rest {calls : List Call} {holdings later : Holdings} {size : Nat}
    (howned : Owned calls holdings size) (hlink : later.link = none) : Owned calls later size where
  lt_size := howned.lt_size
  profile := by
    intro id call link _ _ hheld
    simp [hlink] at hheld
  working := howned.working
  unbound := howned.unbound

theorem Owned.of_former {calls later : List Call} {holdings next : Holdings} {size : Nat}
    (howned : Owned calls holdings size) (hkeeps : KeepsOwners calls later)
    (hworking : ∀ (id : Nat) call link, later[id]? = some call →
      call.stage.link? = some link → call.link = some link)
    (hunbound : ∀ (id : Nat) call, later[id]? = some call →
      call.stage.precedesLink = true → call.link = none)
    (hnext : next.link = none ∨
      next.link = holdings.link ∧ next.profile = holdings.profile) :
    Owned later next size where
  lt_size := by
    intro id call link hcall hlink
    obtain ⟨former, hfound, hsame, -⟩ := hkeeps id call link hcall hlink
    exact howned.lt_size id former link hfound hsame
  profile := by
    intro id call link hcall hlink hheld
    obtain ⟨former, hfound, hsame, hrequest⟩ := hkeeps id call link hcall hlink
    rcases hnext with hnone | ⟨hkept, hprofile⟩
    · simp [hnone] at hheld
    · rw [← hrequest, hprofile]
      exact howned.profile id former link hfound hsame (hkept ▸ hheld)
  working := hworking
  unbound := hunbound

theorem Owned.afterSetStage {line : Line} {holdings next : Holdings} {size id : Nat}
    {call : Call} {stage : Stage} (howned : Owned line.calls holdings size)
    (hcall : line.calls[id]? = some call)
    (hstage : ∀ link, stage.link? = some link → call.link = some link)
    (hunbound : stage.precedesLink = true → call.link = none)
    (hnext : next.link = none ∨
      next.link = holdings.link ∧ next.profile = holdings.profile) :
    Owned (line.setStage id stage).calls next size := by
  have hset : ∀ (other : Nat) later, (line.setStage id stage).calls[other]? = some later →
      later = { call with stage } ∨ line.calls[other]? = some later := by
    intro other later hlater
    obtain ⟨former, hformer, rfl⟩ := exists_of_getElem?_modify hlater
    by_cases hself : id = other
    · subst hself
      rw [hcall, Option.some.injEq] at hformer
      subst hformer
      exact .inl (if_pos rfl)
    · rw [if_neg hself]
      exact .inr hformer
  refine howned.of_former (keepsOwners_setStage line id stage) ?_ ?_ hnext
  · intro other later link hlater hlink
    rcases hset other later hlater with rfl | hformer
    · exact hstage link hlink
    · exact howned.working other later link hformer hlink
  · intro other later hlater hfresh
    rcases hset other later hlater with rfl | hformer
    · exact hunbound hfresh
    · exact howned.unbound other later hformer hfresh

theorem Owned.afterFinish {line : Line} {holdings next : Holdings} {size id : Nat}
    {call : Call} (howned : Owned line.calls holdings size)
    (hcall : line.calls[id]? = some call) (result : Except Error Unit)
    (hnext : next.link = none ∨
      next.link = holdings.link ∧ next.profile = holdings.profile) :
    Owned (line.finish id result).calls next size :=
  howned.afterSetStage hcall (fun _ hlink => by simp [Stage.link?] at hlink)
    (fun hfresh => by simp [Stage.precedesLink] at hfresh) hnext

theorem Owned.afterIssue {line : Line} {holdings : Holdings} {size : Nat}
    (howned : Owned line.calls holdings size) (request : Request) :
    Owned (line.issue request).calls holdings size := by
  refine howned.of_former (keepsOwners_issue line request) ?_ ?_ (.inr ⟨rfl, rfl⟩)
  · intro id call link hcall hlink
    rcases Line.getElem?_issue hcall with hold | ⟨rfl, rfl⟩
    · exact howned.working id call link hold hlink
    · simp [Line.issued, Stage.link?] at hlink
  · intro id call hcall hfresh
    rcases Line.getElem?_issue hcall with hold | ⟨rfl, rfl⟩
    · exact howned.unbound id call hold hfresh
    · rfl

theorem Owned.afterSetBound {line : Line} {holdings next : Holdings} {size id : Nat}
    {call : Call} {profile : Profile} (howned : Owned line.calls holdings size)
    (hcall : line.calls[id]? = some call) (hrequest : call.request = .connect profile)
    (hprofile : next.profile = some profile) (hlink : next.link = some size)
    (deadline : Instant) :
    Owned (line.setBound id size deadline).calls next (size + 1) := by
  constructor
  · intro other later link hlater howns
    rcases getElem?_setBound hcall hlater with ⟨rfl, rfl⟩ | ⟨-, hformer⟩
    · exact Nat.lt_succ_of_le (Nat.le_of_eq (Option.some.inj howns).symm)
    · exact Nat.lt_succ_of_lt (howned.lt_size other later link hformer howns)
  · intro other later link hlater howns hheld
    rcases getElem?_setBound hcall hlater with ⟨rfl, rfl⟩ | ⟨-, hformer⟩
    · exact ⟨profile, hrequest, hprofile⟩
    · have hlt := howned.lt_size other later link hformer howns
      rw [hlink, Option.some.injEq] at hheld
      subst hheld
      exact absurd hlt (Nat.lt_irrefl _)
  · intro other later link hlater hworks
    rcases getElem?_setBound hcall hlater with ⟨rfl, rfl⟩ | ⟨-, hformer⟩
    · exact hworks
    · exact howned.working other later link hformer hworks
  · intro other later hlater hfresh
    rcases getElem?_setBound hcall hlater with ⟨rfl, rfl⟩ | ⟨-, hformer⟩
    · simp [Stage.precedesLink] at hfresh
    · exact howned.unbound other later hformer hfresh

/-! ## Links keep their owners -/

def KeepsLinks (calls later : List Call) : Prop :=
  ∀ (id : Nat) call link, calls[id]? = some call → call.link = some link →
    ∃ next, later[id]? = some next ∧ next.link = some link

theorem keepsLinks_setStage (line : Line) (id : Nat) (stage : Stage) :
    KeepsLinks line.calls (line.setStage id stage).calls := by
  intro other call link hcall hlink
  refine ⟨if id = other then { call with stage } else call, ?_, ?_⟩
  · simp only [Line.setStage, List.getElem?_modify, hcall]
    split
    next => rfl
    next => rfl
  · split
    next => exact hlink
    next => exact hlink

theorem keepsLinks_setBound {line : Line} {id : Nat} {call : Call}
    (hcall : line.calls[id]? = some call) (hnone : call.link = none) (link : LinkId)
    (deadline : Instant) :
    KeepsLinks line.calls (line.setBound id link deadline).calls := by
  intro other former owned hformer howns
  have hother : id ≠ other := by
    rintro rfl
    rw [hcall, Option.some.injEq] at hformer
    subst hformer
    simp [hnone] at howns
  refine ⟨former, ?_, howns⟩
  simp only [Line.setBound, List.getElem?_modify, if_neg hother, hformer]
  rfl

theorem keepsLinks_issue (line : Line) (request : Request) :
    KeepsLinks line.calls (line.issue request).calls :=
  fun _ call _ hcall hlink => ⟨call, Line.getElem?_issue_of_some request hcall, hlink⟩

/-! ## Phases -/

theorem Fits.rests {phase : Phase} {holdings : Holdings} {stage : Stage}
    (hfits : Fits phase holdings stage)
    (hstage : stage = .queued ∨ stage.link?.isSome = true) : Rests phase holdings := by
  cases stage with
  | queued => exact hfits
  | bound link deadline =>
      obtain ⟨rfl, hprofile, -, htask⟩ := hfits
      exact ⟨hprofile, htask⟩
  | dialing dial =>
      obtain ⟨rfl, hprofile, -, htask⟩ := hfits
      exact ⟨hprofile, htask⟩
  | answered link verdict =>
      obtain ⟨rfl, hprofile, -, htask⟩ := hfits
      exact ⟨hprofile, htask⟩
  | cleared | dropped | done => simp [Stage.link?] at hstage

theorem Fits.builds {phase : Phase} {holdings : Holdings} {stage : Stage} {link : LinkId}
    (hfits : Fits phase holdings stage) (hlink : stage.link? = some link) :
    Builds phase holdings link := by
  cases stage with
  | bound | answered | dialing =>
      simp only [Stage.link?, Option.some.injEq] at hlink
      subst hlink
      exact hfits
  | queued | cleared | dropped | done => simp [Stage.link?] at hlink

theorem Builds.fits {phase : Phase} {holdings : Holdings} {stage : Stage} {link : LinkId}
    (hbuilds : Builds phase holdings link) (hlink : stage.link? = some link) :
    Fits phase holdings stage := by
  cases stage with
  | bound | answered | dialing =>
      simp only [Stage.link?, Option.some.injEq] at hlink
      subst hlink
      exact hbuilds
  | queued | cleared | dropped | done => simp [Stage.link?] at hlink

theorem Rests.cleared {phase : Phase} {holdings : Holdings} (hrests : Rests phase holdings) :
    phase = .disconnected ↔ holdings.profile = none := by
  cases phase with
  | disconnected =>
      simp only [Rests] at hrests
      simp [hrests, Holdings.none]
  | connecting | connected | failed =>
      simp only [Rests] at hrests
      simp [Option.isSome_iff_ne_none.mp hrests.1]

end NodeLink.Session
