import NodeLink.Proofs.Session.LiveLink
import NodeLink.Proofs.Session.Log
import NodeLink.Proofs.Session.Shutdown
/-!
# The last call

After the last call was issued, calls that were issued before may still go on,
tasks may come round, time passes and listeners come and go, but the script of the
network stays and nothing new is asked of the session.  The last call waits until
all others have ended, holds the session from then on, and is never overtaken;
once it has ended nothing goes on any more.
-/

namespace NodeLink.Session

open NodeLink.Rehearsal (LinkId Script)

/-- An act that asks nothing new of a session and leaves the network to itself.
Of the tasks only those come round that had been started before: the last call
starts its own one in its last turn. -/
def Act.IsQuiet (tasks : Nat) : Act → Prop
  | .advance _ => True
  | .wait _ => True
  | .listen _ => True
  | .unlisten _ => True
  | .refresh id => id < tasks
  | .issue _ => False
  | .send .. => False
  | .report _ => False
  | .cue _ => False

inductive QuietDeed (tasks : Nat) (session : Session) : Session → Prop
  | turned {id : Nat} {call : Call} {later : Session} (hcall : session.calls[id]? = some call)
      (hholder : session.holder = some id) (hturn : Turn session id call later) :
      QuietDeed tasks session later
  | resolved {id : Nat} {task : Task} (hearly : id < tasks)
      (htask : session.tasks[id]? = some task) (hlive : task.live = true)
      (hdue : task.due ≤ session.now) : QuietDeed tasks session (session.resolved id task)
  | waited (instant : Instant) : QuietDeed tasks session (session.wait instant)
  | enrolled {roster : Roster} (hextends : session.roster.Extends roster) :
      QuietDeed tasks session { session with roster }

theorem QuietDeed.deed {tasks : Nat} {session later : Session}
    (hdeed : QuietDeed tasks session later) : session.Deed later := by
  cases hdeed with
  | turned hcall hholder hturn => exact .turned hcall hholder hturn
  | resolved hearly htask hlive hdue => exact .resolved htask hlive hdue
  | waited instant => exact .waited instant
  | enrolled hextends => exact .enrolled hextends

theorem quiet_act {tasks : Nat} (session : Session) {given : Act}
    (hquiet : given.IsQuiet tasks) :
    session.act given = session ∨ QuietDeed tasks session (session.act given) := by
  cases given with
  | advance id =>
      rcases session.advance_eq_self_or_turn id with hrest | ⟨call, hcall, hholder, hturn⟩
      · exact .inl hrest
      · exact .inr (.turned hcall hholder hturn)
  | refresh id =>
      rcases session.runTask_eq_self_or_resolved id with hrest | ⟨task, htask, hlive, hdue, hlater⟩
      · exact .inl hrest
      · rw [act, hlater]
        exact .inr (.resolved hquiet htask hlive hdue)
  | wait instant => exact .inr (.waited instant)
  | listen listener => exact .inr (.enrolled (session.roster.extends_add listener))
  | unlisten name => exact .inr (.enrolled (session.roster.extends_remove name))
  | issue | send | report | cue => exact hquiet.elim

/-! ## A session after its last call was issued -/

/-- What does not change from the moment at which the last call was issued. -/
structure Settles (issued session : Session) : Prop where
  sound : session.Sound
  logged : session.Logged
  heeds : session.HeedsShutdown
  length_eq : session.calls.length = issued.calls.length
  request_eq : ∀ (id : Nat) call, issued.calls[id]? = some call →
    ∃ later, session.calls[id]? = some later ∧ later.request = call.request
  isShutDown_eq : session.isShutDown = issued.isShutDown
  script_eq : session.network.script = issued.network.script
  options_eq : session.options = issued.options
  tasks_le : issued.tasks.length ≤ session.tasks.length

theorem Settles.refl {session : Session} (hsound : session.Sound) (hlogged : session.Logged)
    (hheeds : session.HeedsShutdown) : session.Settles session :=
  ⟨hsound, hlogged, hheeds, rfl, fun _ call hcall => ⟨call, hcall, rfl⟩, rfl, rfl, rfl,
    Nat.le_refl _⟩

theorem Settles.afterQuietDeed {tasks : Nat} {issued session later : Session}
    (hsettles : issued.Settles session) (hdeed : QuietDeed tasks session later) :
    issued.Settles later where
  sound := hsettles.sound.afterDeed hdeed.deed
  logged := hsettles.logged.afterDeed hsettles.sound hdeed.deed
  heeds := heedsShutdown_deed hsettles.sound hsettles.heeds hdeed.deed
  length_eq := by
    rw [← hsettles.length_eq]
    cases hdeed with
    | turned hcall hholder hturn => exact hturn.length_eq
    | resolved | waited | enrolled => rfl
  request_eq := by
    intro id call hcall
    obtain ⟨former, hformer, hrequest⟩ := hsettles.request_eq id call hcall
    cases hdeed with
    | turned hheld hholder hturn =>
        obtain ⟨next, hnext, hsame⟩ := hturn.exists_call hformer
        exact ⟨next, hnext, hsame.trans hrequest⟩
    | resolved | waited | enrolled => exact ⟨former, hformer, hrequest⟩
  isShutDown_eq := by
    rw [← hsettles.isShutDown_eq]
    cases hdeed with
    | turned hcall hholder hturn => exact hturn.isShutDown_eq
    | resolved | waited | enrolled => rfl
  script_eq := by
    rw [← hsettles.script_eq]
    cases hdeed with
    | turned hcall hholder hturn => exact hturn.touches.script_eq
    | resolved => exact (Rehearsal.Network.agreesOff_resolveEach _ _ _).script
    | waited | enrolled => rfl
  options_eq := (options_deed hdeed.deed).trans hsettles.options_eq
  tasks_le := by
    refine Nat.le_trans hsettles.tasks_le ?_
    cases hdeed with
    | turned hcall hholder hturn => exact hturn.tasks_le
    | resolved => simp [resolved]
    | waited | enrolled => exact Nat.le_refl _

theorem Settles.afterQuietAct {tasks : Nat} {issued session : Session} {given : Act}
    (hsettles : issued.Settles session) (hquiet : given.IsQuiet tasks) :
    issued.Settles (session.act given) := by
  rcases session.quiet_act hquiet with hsame | hdeed
  · rw [hsame]
    exact hsettles
  · exact hsettles.afterQuietDeed hdeed

/-- Every act of a run is admitted where it happens. -/
def Along (admits : Session → Act → Prop) : Session → List Act → Prop
  | _, [] => True
  | session, given :: acts => admits session given ∧ Along admits (session.act given) acts

theorem along_induction {tasks : Nat} {issued : Session} {admits : Session → Act → Prop}
    {motive : Session → Prop}
    (hact : ∀ (session : Session) (given : Act), issued.Settles session →
      given.IsQuiet tasks → admits session given → motive session → motive (session.act given))
    {session : Session} (hsettles : issued.Settles session) (hbase : motive session)
    {acts : List Act} (hquiet : ∀ given ∈ acts, given.IsQuiet tasks)
    (halong : Along admits session acts) :
    issued.Settles (session.run acts) ∧ motive (session.run acts) := by
  induction acts generalizing session with
  | nil => exact ⟨hsettles, hbase⟩
  | cons given acts ih =>
      have hgiven := hquiet given List.mem_cons_self
      exact ih (hsettles.afterQuietAct hgiven) (hact session given hsettles hgiven halong.1 hbase)
        (fun other hmem => hquiet other (List.mem_cons_of_mem _ hmem)) halong.2

theorem along_of_admits {admits : Session → Act → Prop} {acts : List Act}
    (hadmits : ∀ given ∈ acts, ∀ session, admits session given) (session : Session) :
    Along admits session acts := by
  induction acts generalizing session with
  | nil => trivial
  | cons given acts ih =>
      exact ⟨hadmits given List.mem_cons_self session,
        ih (fun other hmem => hadmits other (List.mem_cons_of_mem _ hmem)) _⟩

theorem along_true (session : Session) (acts : List Act) :
    Along (fun _ _ => True) session acts :=
  along_of_admits (fun _ _ _ => trivial) session

theorem quiet_induction {tasks : Nat} {issued : Session} {motive : Session → Prop}
    (hdeed : ∀ session later : Session, issued.Settles session → QuietDeed tasks session later →
      motive session → motive later)
    {session : Session} (hsettles : issued.Settles session) (hbase : motive session)
    {acts : List Act} (hquiet : ∀ given ∈ acts, given.IsQuiet tasks) :
    issued.Settles (session.run acts) ∧ motive (session.run acts) := by
  refine along_induction ?_ hsettles hbase hquiet (along_true session acts)
  intro session given hsettles hgiven _ hholds
  rcases session.quiet_act hgiven with hsame | hquietDeed
  · rw [hsame]
    exact hholds
  · exact hdeed session _ hsettles hquietDeed hholds

theorem result?_eq_some {session : Session} {id : Nat} {result : Except Error Unit}
    (hresult : session.result? id = some result) :
    ∃ call, session.calls[id]? = some call ∧ call.stage = .done result := by
  unfold result? at hresult
  split at hresult
  next request generation link found hcall =>
    obtain rfl : found = result := Option.some.inj hresult
    exact ⟨_, hcall, rfl⟩
  next => cases hresult

theorem result?_of_done {session : Session} {id : Nat} {call : Call}
    {result : Except Error Unit} (hcall : session.calls[id]? = some call)
    (hstage : call.stage = .done result) : session.result? id = some result := by
  obtain ⟨request, generation, link, stage⟩ := call
  obtain rfl : stage = .done result := hstage
  simp [result?, hcall]

namespace Settles

variable {issued session later : Session} {tasks id : Nat} {call : Call}

theorem last (hsettles : issued.Settles session) (hlast : id + 1 = issued.calls.length) :
    id + 1 = session.calls.length :=
  hlast.trans hsettles.length_eq.symm

theorem not_isOvertaken (hsettles : issued.Settles session)
    (hlast : id + 1 = issued.calls.length) (hcall : session.calls[id]? = some call) :
    session.isOvertaken call = false :=
  (hsettles.sound.orderly.isOvertaken_eq_false_iff hcall).mpr (hsettles.last hlast)

theorem request_of_call {first : Call} (hsettles : issued.Settles session)
    (hfirst : issued.calls[id]? = some first) (hcall : session.calls[id]? = some call) :
    call.request = first.request := by
  obtain ⟨found, hfound, hrequest⟩ := hsettles.request_eq id first hfirst
  obtain rfl : found = call := Option.some.inj (hfound.symm.trans hcall)
  exact hrequest

theorem holder_eq_none (hsettles : issued.Settles session)
    (hlast : id + 1 = issued.calls.length) (hcall : session.calls[id]? = some call)
    (hdone : call.stage.isDone = true) : session.holder = none :=
  hsettles.sound.orderly.holder_eq_none_of_last hcall hdone (hsettles.last hlast)

theorem turn_cases {turning : Nat} {other : Call} (hsettles : issued.Settles session)
    (hlast : id + 1 = issued.calls.length) (hcall : session.calls[id]? = some call)
    (hholder : session.holder = some turning)
    (hturn : Turn session turning other later) :
    turning = id ∨ call.stage = .queued ∧ later.calls[id]? = some call := by
  by_cases hself : turning = id
  · exact .inl hself
  · right
    constructor
    · by_contra hbegun
      cases hdone : call.stage.isDone with
      | true => simp [hsettles.holder_eq_none hlast hcall hdone] at hholder
      | false =>
          have hheld := hsettles.sound.orderly.holder_of_begun hcall hbegun hdone
          exact hself (Option.some.inj (hholder.symm.trans hheld))
    · rw [hturn.getElem?_of_ne (Ne.symm hself), hcall]

end Settles

/-! ## Down for good -/

/-- Nothing is left of any session. -/
structure IsDown (session : Session) : Prop where
  phase_eq : session.phase = .disconnected
  holdings_eq : session.holdings = .none
  openLinks_eq : session.network.openLinks = []

theorem Sound.isDown {session : Session} (hsound : session.Sound)
    (hfree : session.holder = none) (hphase : session.phase = .disconnected) :
    session.IsDown := by
  have hstage : session.stage = .queued := by
    simp [Line.stage, Line.held?, hfree]
  have hfits := hsound.fits
  rw [hstage, hphase] at hfits
  have hnone : session.holdings = .none := hfits
  refine ⟨hphase, hnone, ?_⟩
  rw [openLinks_eq_toList hsound.holdsOpen, hnone]
  rfl

section

variable {issued session : Session} {tasks id : Nat} {first : Call}

theorem phase_of_ending_turn {later : Session} {call next : Call}
    (hrequest : call.request = .disconnect ∨ call.request = .shutdown)
    (hturn : Turn session id call later) (hnext : later.calls[id]? = some next)
    (hdone : next.stage.isDone = true) : later.phase = .disconnected := by
  have hplain := hturn.plain fun _ hother => by simp [hother] at hrequest
  cases hplain with
  | cleared =>
      obtain ⟨former, hformer, rfl⟩ := exists_of_getElem?_modify hnext
      rw [if_pos rfl] at hdone
      simp [Stage.isDone] at hdone
  | ended | shutDown => exact phase_endSession session id
  | overtaken hother | refused hother => simp [hother] at hrequest

theorem isDown_of_ending (hsettles : issued.Settles session)
    (hlast : id + 1 = issued.calls.length) (hfirst : issued.calls[id]? = some first)
    (hrequest : first.request = .disconnect ∨ first.request = .shutdown)
    (hqueued : ∀ call, session.calls[id]? = some call → call.stage = .queued)
    {acts : List Act} (hquiet : ∀ given ∈ acts, given.IsQuiet tasks)
    {result : Except Error Unit} (hresult : (session.run acts).result? id = some result) :
    (session.run acts).IsDown := by
  let EndsDown (session : Session) : Prop := ∀ call, session.calls[id]? = some call →
    call.stage.isDone = true → session.phase = .disconnected
  have hbase : EndsDown session := by
    intro call hcall hdone
    simp [hqueued call hcall, Stage.isDone] at hdone
  have hstep : ∀ session later : Session, issued.Settles session →
      QuietDeed tasks session later → EndsDown session → EndsDown later := by
    intro session later hsettles hdeed hends call hcall hdone
    cases hdeed with
    | turned hother hholder hturn =>
        rename_i turning other
        obtain ⟨former, hformer, hsame⟩ := hsettles.request_eq id first hfirst
        rcases hsettles.turn_cases hlast hformer hholder hturn with rfl | ⟨hstage, hkept⟩
        · obtain rfl : former = other := Option.some.inj (hformer.symm.trans hother)
          exact phase_of_ending_turn (hsame ▸ hrequest) hturn hcall hdone
        · obtain rfl : former = call := Option.some.inj (hkept.symm.trans hcall)
          simp [hstage, Stage.isDone] at hdone
    | resolved | waited | enrolled => exact hends call hcall hdone
  obtain ⟨hlater, hends⟩ := quiet_induction hstep hsettles hbase hquiet
  obtain ⟨call, hcall, hstage⟩ := result?_eq_some hresult
  have hdone : call.stage.isDone = true := by rw [hstage]; rfl
  exact hlater.sound.isDown (hlater.holder_eq_none hlast hcall hdone) (hends call hcall hdone)

theorem isDown_of_refused {profile : Profile} (hsettles : issued.Settles session)
    (hlast : id + 1 = issued.calls.length) (hfirst : issued.calls[id]? = some first)
    (hrequest : first.request = .connect profile) (hshut : issued.isShutDown = true)
    (hqueued : ∀ call, session.calls[id]? = some call → call.stage = .queued)
    {acts : List Act} (hquiet : ∀ given ∈ acts, given.IsQuiet tasks)
    {result : Except Error Unit} (hresult : (session.run acts).result? id = some result) :
    result = .error (.setup .shutDown) ∧ (session.run acts).IsDown := by
  let Refuses (session : Session) : Prop := ∀ call, session.calls[id]? = some call →
    call.stage = .queued ∨ call.stage = .done (.error (.setup .shutDown))
  have hbase : Refuses session := fun call hcall => .inl (hqueued call hcall)
  have hstep : ∀ session later : Session, issued.Settles session →
      QuietDeed tasks session later → Refuses session → Refuses later := by
    intro session later hsettles hdeed hrefuses call hcall
    cases hdeed with
    | turned hother hholder hturn =>
        rename_i turning other
        obtain ⟨former, hformer, hsame⟩ := hsettles.request_eq id first hfirst
        rcases hsettles.turn_cases hlast hformer hholder hturn with rfl | ⟨hstage, hkept⟩
        · obtain rfl : former = other := Option.some.inj (hformer.symm.trans hother)
          right
          rcases hrefuses former hformer with hstage | hdone
          · have haway := turned_away hformer (hsame.trans hrequest) hstage
              (hsettles.isShutDown_eq.trans hshut) hturn hcall
            exact haway.resolve_right (by simp [hsettles.not_isOvertaken hlast hformer])
          · have hfree := hsettles.holder_eq_none hlast hformer (by rw [hdone]; rfl)
            simp [hfree] at hholder
        · obtain rfl : former = call := Option.some.inj (hkept.symm.trans hcall)
          exact .inl hstage
    | resolved | waited | enrolled => exact hrefuses call hcall
  obtain ⟨hlater, hrefuses⟩ := quiet_induction hstep hsettles hbase hquiet
  obtain ⟨call, hcall, hstage⟩ := result?_eq_some hresult
  have hdone : call.stage.isDone = true := by rw [hstage]; rfl
  have hfree := hlater.holder_eq_none hlast hcall hdone
  constructor
  · rcases hrefuses call hcall with hstill | hrefused
    · simp [hstage] at hstill
    · rw [hstage, Stage.done.injEq] at hrefused
      exact hrefused
  -- no call is left, so the shutdown cannot be waited for
  · rcases hlater.heeds (hlater.isShutDown_eq.trans hshut) with hawaits | hdown
    · obtain ⟨other, shutdown, hfound, -, hpending⟩ := hawaits
      have hall := hlater.sound.orderly.isDone_of_free hfree hfound
      simp [hpending] at hall
    · exact hlater.sound.isDown hfree hdown.1

end

end NodeLink.Session
