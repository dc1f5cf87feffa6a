import NodeLink.Profile.Samples
import NodeLink.Proofs.Session.Agreement
import NodeLink.Proofs.Session.LastWins
import NodeLink.Proofs.Session.Table
/-!
# What a connect leaves behind

A connect that is the only call of a session and whose dial takes no time ends as the
table of outcomes says.  If it fails, nothing is left but the profile: every link is
closed and no task goes on.  If it does not, the session is up on the link that it has
bound, which is the only open one.
-/

namespace NodeLink.Session

open NodeLink.Rehearsal (Network LinkId Script)

/-! ## Binding is tried once -/

def Attempt.terms (profile : Profile) : Attempt → List Link.Terms
  | .none => []
  | .refused => [termsOf profile]
  | .made => [termsOf profile]

/-- The link that is bound, by the number of links that there were. -/
def Attempt.link? (size : Nat) : Attempt → Option LinkId
  | .none => .none
  | .refused => .none
  | .made => some size

/-- What an attempt leaves of a network: it is noted, and brings one more link if it succeeds. -/
structure Attempt.Leaves (attempt : Attempt) (profile : Profile) (former later : Network) :
    Prop where
  binds_eq : later.binds = former.binds ++ attempt.terms profile
  size_eq : later.links.length =
    former.links.length + (attempt.link? former.links.length).toList.length

theorem Attempt.Leaves.of_eq {attempt : Attempt} {profile : Profile}
    {former network later : Network} (hleaves : attempt.Leaves profile former network)
    (hbinds : later.binds = network.binds) (hsize : later.links.length = network.links.length) :
    attempt.Leaves profile former later :=
  ⟨hbinds.trans hleaves.binds_eq, hsize.trans hleaves.size_eq⟩

theorem Attempt.leaves_none (profile : Profile) (network : Network) :
    Attempt.none.Leaves profile network network :=
  ⟨by simp [terms], by simp [link?]⟩

section

variable {session later : Session} {id : Nat} {call : Call} {profile : Profile}

theorem binds_setUp (session : Session) (id : Nat) (profile : Profile) :
    (session.setUp id profile).network.binds =
      session.network.binds ++ (attemptOf session.network.script profile).terms profile := by
  unfold setUp
  cases hflaw : profile.flaw? with
  | some flaw =>
      have hattempt : attemptOf session.network.script profile = .none := by
        simp [attemptOf, hflaw]
      rw [hattempt, Attempt.terms, List.append_nil]
      exact Network.binds_release _ _
  | none =>
      cases hbind : session.network.bind (termsOf profile) with
      | mk network outcome =>
          cases outcome with
          | error error =>
              obtain ⟨hfault, rfl⟩ := Network.bind_eq_error hbind
              have hattempt : attemptOf session.network.script profile = .refused := by
                simp [attemptOf, hflaw, hfault]
              rw [hattempt, Attempt.terms]
              exact Network.binds_release _ _
          | ok link =>
              obtain ⟨hfault, rfl, rfl⟩ := Network.bind_eq_ok hbind
              have hattempt : attemptOf session.network.script profile = .made := by
                simp [attemptOf, hflaw, hfault]
              rw [hattempt, Attempt.terms]
              exact (Network.agreesOff_resolveEach _ _ _).binds

/-- A connect that has cleared away the former session tries to bind a link unless its profile
has a flaw. -/
theorem binds_advance (hcall : session.calls[id]? = some call)
    (hholder : session.holder = some id) (hrequest : call.request = .connect profile)
    (hstage : call.stage = .cleared) (hnewest : session.isOvertaken call = false) :
    (session.advance id).network.binds =
      session.network.binds ++ (attemptOf session.network.script profile).terms profile := by
  have hkept : (session.startOver profile).isOvertaken call = false := hnewest
  have hadvance : session.advance id = (session.startOver profile).setUp id profile := by
    simp [advance, hcall, hholder, hrequest, advanceConnect, hstage, hkept]
  rw [hadvance, binds_setUp]
  rfl

/-- An obstacle is what keeps an attempt from bringing a link. -/
theorem link?_attemptOf (script : Script) (profile : Profile) (size : Nat) :
    (attemptOf script profile).link? size =
      if (obstacle? script profile).isSome then none else some size := by
  unfold attemptOf obstacle?
  cases profile.flaw? with
  | some flaw => rfl
  | none =>
      cases script.bindFault? (termsOf profile) with
      | some error => rfl
      | none => rfl

/-! ## A connect alone -/

/-- What a connect that has tried to bind a link has done. -/
structure Tried (issued session : Session) (profile : Profile) (call : Call) : Prop where
  leaves : (attemptOf issued.network.script profile).Leaves profile issued.network session.network
  link_eq : call.link =
    (attemptOf issued.network.script profile).link? issued.network.links.length

theorem Tried.of_eq {issued : Session} {next : Call} (htried : Tried issued session profile call)
    (hbinds : later.network.binds = session.network.binds)
    (hsize : later.network.links.length = session.network.links.length)
    (hlink : next.link = call.link) : Tried issued later profile next :=
  ⟨htried.leaves.of_eq hbinds hsize, hlink.trans htried.link_eq⟩

/-- The link that a session holds after a connect, by the link that was bound. -/
def heldAfter (link? : Option LinkId) : Except Error Unit → Option LinkId
  | .ok _ => link?
  | .error _ => none

/-- What holds of a session whose last call, a connect, has ended.  Whatever task goes on was
started since, so it is not due at once. -/
structure Ended (issued session : Session) (call : Call) (result : Except Error Unit) : Prop where
  link_eq : session.holdings.link = heldAfter call.link result
  isUp : result = .ok () → ∀ link, call.link = some link → session.network.isUp link = true
  late : ∀ task ∈ session.tasks, task.live = true → issued.now < task.due

/-- What a connect has done about its link, by its stage. -/
def Handled (issued session : Session) (profile : Profile) (call : Call) : Stage → Prop
  | .queued => Attempt.none.Leaves profile issued.network session.network
  | .cleared => Attempt.none.Leaves profile issued.network session.network
  | .bound _ _ => Tried issued session profile call
  | .dialing _ => Tried issued session profile call
  | .answered link verdict => Tried issued session profile call ∧
      (verdict = .ok () → session.network.isUp link = true)
  | .dropped _ => Tried issued session profile call
  | .done result => Tried issued session profile call ∧ Ended issued session call result

theorem Handled.tried {issued : Session} {stage : Stage} {link : LinkId}
    (hhandled : Handled issued session profile call stage) (hlink : stage.link? = some link) :
    Tried issued session profile call := by
  cases stage with
  | bound | dialing => exact hhandled
  | answered => exact hhandled.1
  | queued | cleared | dropped | done => simp [Stage.link?] at hlink

theorem late_of_startRefresh {issued : Session} {link : LinkId} {entries : List String}
    (hidle : ∀ task ∈ session.tasks, task.live = false) (hnow : issued.now ≤ session.now) :
    ∀ task ∈ (session.startRefresh link entries).tasks, task.live = true →
      issued.now < task.due := by
  intro task hmem hlive
  rcases List.mem_append.mp hmem with hold | hnew
  · rw [hidle task hold] at hlive
    cases hlive
  · simp only [refreshTask?, Option.mem_toList] at hnew
    split_ifs at hnew with hnone
    obtain rfl := Option.some.inj hnew
    simp only [Bool.or_eq_true, beq_iff_eq, not_or] at hnone
    exact Nat.lt_of_le_of_lt hnow (Nat.lt_add_of_pos_right (Nat.pos_of_ne_zero hnone.2))

/-- A turn does not say what it notes of an attempt to bind, so that is a hypothesis here. -/
theorem handled_turn {issued : Session} {next : Call} (hsettles : issued.Settles session)
    (hlast : id + 1 = issued.calls.length) (hcall : session.calls[id]? = some call)
    (hholder : session.holder = some id) (hrequest : call.request = .connect profile)
    (hshut : issued.isShutDown = false) (hnow : issued.now ≤ session.now)
    (hhandled : Handled issued session profile call call.stage)
    (hturn : Turn session id call later)
    (hbinds : call.stage = .cleared → later.network.binds =
      session.network.binds ++ (attemptOf session.network.script profile).terms profile)
    (hnext : later.calls[id]? = some next) :
    Handled issued later profile next next.stage := by
  have hsound := hsettles.sound
  have hnewest := hsettles.not_isOvertaken hlast hcall
  cases hturn with
  | overtaken _ _ hovertaken => simp [hnewest] at hovertaken
  | left _ _ hovertaken => simp [hnewest] at hovertaken
  | refused _ _ _ hrefused => simp [hsettles.isShutDown_eq, hshut] at hrefused
  | ended hother | shutDown hother => simp [hrequest] at hother
  | cleared hstage =>
      rw [hstage] at hhandled
      obtain rfl := Line.eq_of_modify_self hcall hnext
      exact hhandled.of_eq (Network.binds_release _ _) (size_release _ _)
  | hindered hconnect hstage _ hobstacle binds =>
      obtain rfl := Request.connect.inj (hrequest.symm.trans hconnect)
      have hunbound := hsound.owned.unbound id call hcall (by rw [hstage]; rfl)
      have hnone : (attemptOf issued.network.script profile).link? issued.network.links.length =
          none := by
        rw [hsettles.script_eq] at hobstacle
        rw [link?_attemptOf, hobstacle, Option.isSome_some, if_pos rfl]
      rw [hstage] at hhandled
      obtain rfl := Line.eq_of_modify_self hcall hnext
      refine ⟨⟨?_, ?_⟩, hunbound.trans hnone.symm⟩
      · rw [hbinds hstage, hsettles.script_eq, hhandled.binds_eq, Attempt.terms, List.append_nil]
      · rw [hnone]
        exact (size_release _ _).trans hhandled.size_eq
  | bound hconnect hstage _ hobstacle binds =>
      obtain rfl := Request.connect.inj (hrequest.symm.trans hconnect)
      have hsome : (attemptOf issued.network.script profile).link? issued.network.links.length =
          some issued.network.links.length := by
        rw [hsettles.script_eq] at hobstacle
        rw [link?_attemptOf, hobstacle, Option.isSome_none, if_neg Bool.false_ne_true]
      rw [hstage] at hhandled
      have hsize : session.network.links.length = issued.network.links.length := hhandled.size_eq
      obtain rfl := Line.eq_of_modify_self hcall hnext
      refine ⟨⟨?_, ?_⟩, ?_⟩
      · rw [hbinds hstage, hsettles.script_eq, hhandled.binds_eq, Attempt.terms, List.append_nil]
      · rw [hsome]
        refine (Network.agreesOff_resolveEach _ _ _).size.trans ?_
        simp [hsize]
      · rw [hsome, ← hsize]
  | failed hconnect _ hsetback =>
      obtain ⟨link, hworks⟩ := hsetback.exists_link
      obtain rfl := Line.eq_of_modify_self hcall hnext
      exact (hhandled.tried hworks).of_eq (Network.binds_release _ _) (size_release _ _) rfl
  | dialed hconnect hstage =>
      rw [hstage] at hhandled
      obtain rfl := Line.eq_of_modify_self hcall hnext
      exact hhandled.of_eq rfl (Network.agreesOff_record _ _ _).size rfl
  | signedIn hconnect hstage hnew hwake hfailure hopen =>
      rename_i former dial
      rw [hstage] at hhandled
      obtain ⟨record, hrecord, hclosed⟩ := Network.isOpen_eq_true_iff.mp hopen
      obtain rfl := Line.eq_of_modify_self hcall hnext
      refine ⟨hhandled.of_eq (Network.agreesOff_request _ _ _ _).binds ?_ rfl, ?_⟩
      · exact (Network.agreesOff_request _ _ _ _).size.trans (Network.agreesOff_modify _ _ _).size
      · intro hverdict
        obtain ⟨body, hanswer, -⟩ := verdictOn_eq_ok hverdict
        refine Network.isUp_request_of_ok ?_ hanswer
        simp [Network.isUp, Network.link?_modify_self, hrecord, Rehearsal.Link.isUp, hclosed]
  | connected hconnect hstage hnew =>
      rename_i former link
      have hworks : call.stage.link? = some link := by rw [hstage]; rfl
      have hown := hsound.owned.working id call link hcall hworks
      have hbuilds := (hsound.fits_call hcall hholder).builds hworks
      have hidle := hsound.tends.halted hbuilds.task_eq
      rw [hstage] at hhandled
      obtain rfl := Line.eq_of_modify_self hcall hnext
      refine ⟨hhandled.1.of_eq rfl rfl rfl, ?_, ?_, late_of_startRefresh hidle hnow⟩
      · exact hbuilds.link_eq.trans hown.symm
      · intro _ other hother
        obtain rfl : link = other := Option.some.inj (hown.symm.trans hother)
        exact hhandled.2 rfl
  | fell hconnect hstage =>
      have hfits := hsound.fits_call hcall hholder
      rw [hstage] at hhandled hfits
      have hidle := hsound.tends.halted hfits.2.2.2
      obtain rfl := Line.eq_of_modify_self hcall hnext
      refine ⟨hhandled.of_eq rfl rfl rfl, hfits.2.2.1, ?_, ?_⟩
      · intro hok
        cases hok
      · intro task hmem hlive
        rw [hidle task hmem] at hlive
        cases hlive

/-! ## On the way -/

/-- A connect that was issued last, with all other calls at their end.  The end of its dial is
noticed in time or too late, as far as that is allowed. -/
structure Attended (allowed : Bool → Prop) (issued : Session) (profile : Profile) (id : Nat)
    (session : Session) : Prop where
  errand : ∀ call, session.calls[id]? = some call →
    Errand allowed issued profile session call call.stage
  alone : ∀ (other : Nat) call, session.calls[other]? = some call → other ≠ id →
    call.stage.isDone = true
  now_le : issued.now ≤ session.now
  handled : ∀ call, session.calls[id]? = some call →
    Handled issued session profile call call.stage

theorem Handled.of_eq {issued : Session} {stage : Stage}
    (hhandled : Handled issued session profile call stage)
    (hnetwork : later.network = session.network) (hholdings : later.holdings = session.holdings)
    (htasks : later.tasks = session.tasks) : Handled issued later profile call stage := by
  have htried (hformer : Tried issued session profile call) : Tried issued later profile call :=
    hformer.of_eq (by rw [hnetwork]) (by rw [hnetwork]) rfl
  cases stage with
  | queued => exact Attempt.Leaves.of_eq hhandled (by rw [hnetwork]) (by rw [hnetwork])
  | cleared => exact Attempt.Leaves.of_eq hhandled (by rw [hnetwork]) (by rw [hnetwork])
  | bound | dialing | dropped => exact htried hhandled
  | answered link verdict => exact ⟨htried hhandled.1, hnetwork ▸ hhandled.2⟩
  | done result =>
      obtain ⟨hformer, hlink, hup, hlate⟩ := hhandled
      exact ⟨htried hformer, hholdings ▸ hlink, hnetwork ▸ hup, htasks ▸ hlate⟩

theorem QuietDeed.now_le {tasks : Nat} (hdeed : QuietDeed tasks session later) :
    session.now ≤ later.now := by
  cases hdeed with
  | turned _ _ hturn => exact Nat.le_of_eq hturn.now_eq.symm
  | resolved | enrolled => exact Nat.le_refl _
  | waited instant => exact Nat.le_max_left _ _

namespace Attended

variable {allowed : Bool → Prop} {issued : Session} {first : Call}

/-- No other call takes a turn. -/
theorem turning_eq {turning : Nat} {other : Call}
    (hattended : Attended allowed issued profile id session)
    (hother : session.calls[turning]? = some other) (hturn : Turn session turning other later) :
    turning = id := by
  by_contra hne
  have hdone := hattended.alone turning other hother hne
  obtain ⟨next, hnext, -⟩ := hturn.exists_call hother
  have hrank := hturn.rank_lt hother hnext
  cases hstage : other.stage with
  | done result => simp [hstage, Stage.rank] at hrank
  | queued | cleared | bound | dialing | answered | dropped => simp [hstage, Stage.isDone] at hdone

/-- Until it has ended, the connect holds the session. -/
theorem holder (hattended : Attended allowed issued profile id session) (hsound : session.Sound)
    (hcall : session.calls[id]? = some call) (hopen : call.stage.isDone = false) :
    session.holder = some id := by
  cases hholder : session.holder with
  | none => simp [hsound.orderly.isDone_of_free hholder hcall] at hopen
  | some turning =>
      obtain ⟨other, hother, hpending⟩ := hsound.orderly.held hholder
      by_cases hself : turning = id
      · rw [hself]
      · simp [hattended.alone turning other hother hself] at hpending

theorem alone_deed {tasks : Nat} (hattended : Attended allowed issued profile id session)
    (hdeed : QuietDeed tasks session later) :
    ∀ (other : Nat) call, later.calls[other]? = some call → other ≠ id →
      call.stage.isDone = true := by
  intro other call hcall hother
  cases hdeed with
  | turned hturning hholder hturn =>
      obtain rfl := hattended.turning_eq hturning hturn
      rw [hturn.getElem?_of_ne hother] at hcall
      exact hattended.alone other call hcall hother
  | resolved | waited | enrolled => exact hattended.alone other call hcall hother

theorem handled_act {given : Act} (hattended : Attended allowed issued profile id session)
    (hsettles : issued.Settles session) (hlast : id + 1 = issued.calls.length)
    (hfirst : issued.calls[id]? = some first) (hrequest : first.request = .connect profile)
    (hshut : issued.isShutDown = false) (hquiet : given.IsQuiet issued.tasks.length)
    {next : Call} (hnext : (session.act given).calls[id]? = some next) :
    Handled issued (session.act given) profile next next.stage := by
  cases given with
  | advance turning =>
      rcases session.advance_eq_self_or_turn turning with hrest | ⟨call, hcall, hholder, hturn⟩
      · rw [act, hrest] at hnext ⊢
        exact hattended.handled next hnext
      · obtain rfl := hattended.turning_eq hcall hturn
        have hconnect := (hsettles.request_of_call hfirst hcall).trans hrequest
        have hnewest := hsettles.not_isOvertaken hlast hcall
        exact handled_turn hsettles hlast hcall hholder hconnect hshut hattended.now_le
          (hattended.handled call hcall) hturn
          (fun hstage => binds_advance hcall hholder hconnect hstage hnewest) hnext
  | refresh turning =>
      rcases session.runTask_eq_self_or_resolved turning
        with hrest | ⟨task, htask, hlive, -, hlater⟩
      · rw [act, hrest] at hnext ⊢
        exact hattended.handled next hnext
      · rw [act, hlater] at hnext ⊢
        have hqueued := queued_of_resolved hsettles hnext hquiet htask hlive
          (hattended.errand next hnext)
        have hhandled := hattended.handled next hnext
        have hagrees := session.network.agreesOff_resolveEach task.link task.entries
        rw [hqueued] at hhandled ⊢
        exact Attempt.Leaves.of_eq hhandled hagrees.binds hagrees.size
  | wait | listen | unlisten => exact (hattended.handled next hnext).of_eq rfl rfl rfl
  | issue | send | report | cue => exact hquiet.elim

theorem afterAct {given : Act} (hattended : Attended allowed issued profile id session)
    (hsettles : issued.Settles session) (hlast : id + 1 = issued.calls.length)
    (hfirst : issued.calls[id]? = some first) (hrequest : first.request = .connect profile)
    (hshut : issued.isShutDown = false) (hsome : ∃ inTime, allowed inTime)
    (htime : ∀ call dial, session.calls[id]? = some call → call.stage = .dialing dial →
      (dial.wake ≤ session.now → allowed true) ∧
        (session.now < dial.wake → dial.deadline ≤ session.now → allowed false))
    (hquiet : given.IsQuiet issued.tasks.length) :
    Attended allowed issued profile id (session.act given) := by
  have hhandled (next : Call) (hnext : (session.act given).calls[id]? = some next) :=
    hattended.handled_act hsettles hlast hfirst hrequest hshut hquiet hnext
  rcases session.quiet_act hquiet with hsame | hdeed
  · rw [hsame]
    exact hattended
  · have herrand := errand_quietDeed hsettles hlast hfirst hrequest hshut hsome htime
      hattended.errand hdeed
    exact ⟨herrand, hattended.alone_deed hdeed, Nat.le_trans hattended.now_le hdeed.now_le,
      hhandled⟩

end Attended

theorem attended_issue (allowed : Bool → Prop) (session : Session)
    (hdone : ∀ call ∈ session.calls, call.stage.isDone = true) (profile : Profile) :
    Attended allowed (session.issue (.connect profile)) profile session.calls.length
      (session.issue (.connect profile)) where
  errand := by
    intro call hcall
    rw [eq_issued_of_last hcall]
    trivial
  alone := by
    intro other call hcall hother
    rcases Line.getElem?_issue hcall with hold | ⟨hnew, -⟩
    · exact hdone call (List.mem_of_getElem? hold)
    · exact absurd hnew hother
  now_le := Nat.le_refl _
  handled := by
    intro call hcall
    rw [eq_issued_of_last hcall]
    exact Attempt.leaves_none profile session.network

/-- A connect that was issued last, with all other calls at their end. -/
structure Follows (issued : Session) (profile : Profile) (id : Nat) (session : Session) :
    Prop where
  begun : Begun issued id session
  errand : ∀ call, session.calls[id]? = some call →
    Errand (· = true) issued profile session call call.stage
  alone : ∀ (other : Nat) call, session.calls[other]? = some call → other ≠ id →
    call.stage.isDone = true
  now_le : issued.now ≤ session.now
  handled : ∀ call, session.calls[id]? = some call →
    Handled issued session profile call call.stage

namespace Follows

variable {issued : Session} {first : Call}

theorem attended (hfollows : Follows issued profile id session) :
    Attended (· = true) issued profile id session :=
  ⟨hfollows.errand, hfollows.alone, hfollows.now_le, hfollows.handled⟩

/-- A dial that takes no time ends at once, and is never too late. -/
theorem wake_le {dial : Dial} (hfollows : Follows issued profile id session)
    (hdelay : issued.network.script.delay.nanos = 0) (hcall : session.calls[id]? = some call)
    (hstage : call.stage = .dialing dial) : dial.wake ≤ session.now := by
  obtain ⟨start, hstart, hwake⟩ := hfollows.begun call dial hcall hstage
  rw [hwake, hdelay]
  exact hstart

theorem afterAct {given : Act} (hfollows : Follows issued profile id session)
    (hsettles : issued.Settles session) (hlast : id + 1 = issued.calls.length)
    (hfirst : issued.calls[id]? = some first) (hrequest : first.request = .connect profile)
    (hshut : issued.isShutDown = false) (hdelay : issued.network.script.delay.nanos = 0)
    (hquiet : given.IsQuiet issued.tasks.length) :
    Follows issued profile id (session.act given) := by
  have hbegun : Begun issued id (session.act given) := by
    rcases session.quiet_act hquiet with hsame | hdeed
    · rw [hsame]
      exact hfollows.begun
    · exact begun_quietDeed hsettles hlast hfollows.begun hdeed
  have hattended : Attended (· = true) issued profile id (session.act given) := by
    refine hfollows.attended.afterAct hsettles hlast hfirst hrequest hshut ⟨true, rfl⟩ ?_ hquiet
    intro call dial hcall hstage
    refine ⟨fun _ => rfl, fun hbefore _ => ?_⟩
    exact absurd (hfollows.wake_le hdelay hcall hstage) (Nat.not_le.mpr hbefore)
  exact ⟨hbegun, hattended.errand, hattended.alone, hattended.now_le, hattended.handled⟩

end Follows

theorem follows_issue (session : Session)
    (hdone : ∀ call ∈ session.calls, call.stage.isDone = true) (profile : Profile) :
    Follows (session.issue (.connect profile)) profile session.calls.length
      (session.issue (.connect profile)) :=
  have hattended := attended_issue (· = true) session hdone profile
  ⟨begun_issue session (.connect profile), hattended.errand, hattended.alone, hattended.now_le,
    hattended.handled⟩

theorem follows_run (profile : Profile) {acts : List Act} (hsound : session.Sound)
    (hlogged : session.Logged) (hheeds : session.HeedsShutdown)
    (hshut : session.isShutDown = false)
    (hdone : ∀ call ∈ session.calls, call.stage.isDone = true)
    (hdelay : session.network.script.delay.nanos = 0)
    (hquiet : ∀ given ∈ acts, given.IsQuiet session.tasks.length) :
    (session.issue (.connect profile)).Settles ((session.issue (.connect profile)).run acts) ∧
      Follows (session.issue (.connect profile)) profile session.calls.length
        ((session.issue (.connect profile)).run acts) := by
  have hissued : (session.issue (.connect profile)).isShutDown = false := by
    simp [issue, Line.issue, hshut]
  refine along_induction ?_ (settles_issue hsound hlogged hheeds _)
    (follows_issue session hdone profile) hquiet (along_true _ acts)
  intro later given hsettles hgiven _ hfollows
  exact hfollows.afterAct hsettles (session.length_issue_last _) (session.getElem?_issue_last _)
    rfl hissued hdelay hgiven

/-! ## What is left -/

/-- A session that has failed keeps its profile, and nothing else goes on. -/
structure HasFailed (session : Session) (profile : Profile) : Prop where
  phase_eq : session.phase = .failed
  profile_eq : session.holdings.profile = some profile
  link_eq : session.holdings.link = none
  openLinks_eq : session.network.openLinks = []
  task_eq : session.holdings.task = none
  halted : ∀ task ∈ session.tasks, task.live = false

structure IsUpOn (session : Session) (profile : Profile) (link : LinkId) : Prop where
  phase_eq : session.phase = .connected
  profile_eq : session.holdings.profile = some profile
  link_eq : session.holdings.link = some link
  openLinks_eq : session.network.openLinks = [link]
  isUp : session.isUp = true

/-- What a connect leaves of a session by what it has done about a link and how it has ended.  On
the link that it has bound it has resolved all bootstrap entries first. -/
structure Aftermath (session : Session) (profile : Profile) (attempt : Attempt)
    (result : Except Error Unit) (later : Session) : Prop where
  attempted : attempt.Leaves profile session.network later.network
  resolved : attempt = .made → ∃ record,
    later.network.link? session.network.links.length = some record ∧
      profile.bootstrap.map .resolve <+: record.calls
  stands : match result with
    | .error _ => later.HasFailed profile
    | .ok _ => later.IsUpOn profile session.network.links.length

theorem resolutions_of_fate {options : Options} {script : Script} {link : LinkId} {inTime : Bool}
    (hobstacle : obstacle? script profile = none) :
    ∃ rest, (fate options script profile link inTime).calls =
      some (resolutions profile ++ rest) := by
  unfold fate
  rw [hobstacle]
  cases targetOf profile with
  | error error => exact ⟨_, rfl⟩
  | ok target =>
      cases inTime with
      | false => exact ⟨_, congrArg some (List.append_assoc _ _ _)⟩
      | true =>
          simp only [if_true, fateAfterDial]
          cases script.dialFailure with
          | some reason => exact ⟨_, congrArg some (List.append_assoc _ _ _)⟩
          | none =>
              cases verdict script with
              | error fault => exact ⟨_, congrArg some (List.append_assoc _ _ _)⟩
              | ok _ => exact ⟨_, rfl⟩

theorem Sound.hasFailed (hsound : session.Sound) (hfree : session.holder = none)
    (hphase : session.phase = .failed) (hprofile : session.holdings.profile = some profile)
    (hlink : session.holdings.link = none) : session.HasFailed profile := by
  have hstage : session.stage = .queued := by
    simp [Line.stage, Line.held?, hfree]
  have hfits := hsound.fits
  rw [hstage, hphase] at hfits
  have htask : session.holdings.task = none := hfits.2
  have hopenLinks : session.network.openLinks = [] := by
    rw [openLinks_eq_toList hsound.holdsOpen, hlink, Option.toList_none]
  exact ⟨hphase, hprofile, hlink, hopenLinks, htask, hsound.tends.halted htask⟩

/-- What a connect that has ended leaves of the session.  The link that it has come up on is the
one that it has bound. -/
theorem Attended.stands {allowed : Bool → Prop} {issued : Session} {result : Except Error Unit}
    (hattended : Attended allowed issued profile id session) (hsettles : issued.Settles session)
    (hlast : id + 1 = issued.calls.length) (hcall : session.calls[id]? = some call)
    (hstage : call.stage = .done result)
    (hmade : result = .ok () → attemptOf issued.network.script profile = .made) :
    (∀ error, result = .error error → session.HasFailed profile) ∧
      (result = .ok () → session.IsUpOn profile issued.network.links.length) := by
  have herrand := hattended.errand call hcall
  have hhandled := hattended.handled call hcall
  rw [hstage] at herrand hhandled
  obtain ⟨_, -, hmeets, hphase, -⟩ := herrand
  obtain ⟨htried, hended⟩ := hhandled
  have hfree := hsettles.holder_eq_none hlast hcall (by rw [hstage]; rfl)
  constructor
  · rintro error rfl
    exact hsettles.sound.hasFailed hfree hphase hmeets.profile_eq hended.link_eq
  · rintro rfl
    have hown := htried.link_eq
    rw [hmade rfl] at hown
    have hheld : session.holdings.link = some issued.network.links.length :=
      hended.link_eq.trans hown
    refine ⟨hphase, hmeets.profile_eq, hheld, ?_, ?_⟩
    · rw [openLinks_eq_toList hsettles.sound.holdsOpen, hheld, Option.toList_some]
    · have hup := hended.isUp rfl _ hown
      have hconnected : session.phase = .connected := hphase
      simp [isUp, scene, hconnected, hheld, hup]

theorem aftermath_of_follows {issued : Session} {result : Except Error Unit}
    (hfollows : Follows issued profile id later) (hsettles : issued.Settles later)
    (hlast : id + 1 = issued.calls.length) (hresult : later.result? id = some result) :
    Ends issued.network.script profile (attemptOf issued.network.script profile) result ∧
      Aftermath issued profile (attemptOf issued.network.script profile) result later := by
  obtain ⟨call, hcall, hstage⟩ := result?_eq_some hresult
  have herrand := hfollows.errand call hcall
  have hhandled := hfollows.handled call hcall
  rw [hstage] at herrand hhandled
  obtain ⟨_, rfl, hmeets, -, -⟩ := herrand
  obtain ⟨htried, -⟩ := hhandled
  have hends : Ends issued.network.script profile (attemptOf issued.network.script profile)
      result :=
    (ends_iff issued.options _).mpr ⟨rfl, hmeets.result_eq.symm⟩
  refine ⟨hends, htried.leaves, ?_, ?_⟩
  · intro hmade
    have hown := htried.link_eq
    rw [hmade] at hown
    have hobstacle : obstacle? issued.network.script profile = none := by
      have hlink := link?_attemptOf issued.network.script profile issued.network.links.length
      rw [hmade] at hlink
      by_contra hother
      rw [if_pos (Option.isSome_iff_ne_none.mpr hother)] at hlink
      cases hlink
    obtain ⟨rest, hrest⟩ := resolutions_of_fate hobstacle
    have hrecord := hmeets.record
    rw [hrest, hown] at hrecord
    obtain ⟨record, hfound, hcalls⟩ := Option.map_eq_some_iff.mp hrecord.symm
    exact ⟨record, hfound, rest, hcalls.symm⟩
  · have hmade : result = .ok () → attemptOf issued.network.script profile = .made := by
      rintro rfl
      generalize attemptOf issued.network.script profile = attempt at hends
      cases hends
      rfl
    obtain ⟨hfailed, hup⟩ := hfollows.attended.stands hsettles hlast hcall hstage hmade
    cases result with
    | error error => exact hfailed error rfl
    | ok _ => exact hup rfl

/-! ## A connect that is performed -/

/-- Tasks that are due later rest. -/
theorem runTasks_of_late (hlate : ∀ task ∈ session.tasks, task.live = true →
    session.now < task.due) : session.runTasks = session := by
  have hrests (id : Nat) : session.runTask id = session := by
    rcases session.runTask_eq_self_or_resolved id with hrest | ⟨task, htask, hlive, hdue, -⟩
    · exact hrest
    · exact absurd hdue (Nat.not_le.mpr (hlate task (List.mem_of_getElem? htask) hlive))
  unfold runTasks
  induction List.range session.tasks.length with
  | nil => rfl
  | cons id ids ih => rw [List.foldl_cons, hrests, ih]

/-- In an idle session a connect has ended or waits for its dial. -/
theorem Attended.ended_or_dialing {allowed : Bool → Prop} {issued : Session}
    (hattended : Attended allowed issued profile id session) (hsettles : issued.Settles session)
    (hlast : id + 1 = issued.calls.length) (hplain : session.AllPlain) (hidle : session.IsIdle) :
    (∃ result, session.result? id = some result) ∨
      ∃ call dial, session.calls[id]? = some call ∧ session.holder = some id ∧
        call.stage = .dialing dial := by
  have hindex : id < session.calls.length := by
    rw [hsettles.length_eq]
    omega
  have hcall : session.calls[id]? = some session.calls[id] := List.getElem?_eq_getElem hindex
  cases hdone : session.calls[id].stage.isDone with
  | true =>
      left
      cases hstage : session.calls[id].stage with
      | done result => exact ⟨result, result?_of_done hcall hstage⟩
      | queued | cleared | bound | dialing | answered | dropped =>
          simp [hstage, Stage.isDone] at hdone
  | false =>
      right
      have hholder := hattended.holder hsettles.sound hcall hdone
      obtain ⟨-, found, dial, -, hstage⟩ := hidle.dialing hplain hcall hholder hdone
      exact ⟨_, dial, hcall, hholder, hstage⟩

/-- An idle session whose last call connects by a dial that takes no time has nothing more to do. -/
theorem Follows.exists_result {issued : Session} (hfollows : Follows issued profile id session)
    (hsettles : issued.Settles session) (hlast : id + 1 = issued.calls.length)
    (hdelay : issued.network.script.delay.nanos = 0) (hplain : session.AllPlain)
    (hidle : session.IsIdle) : ∃ result, session.result? id = some result := by
  rcases hfollows.attended.ended_or_dialing hsettles hlast hplain hidle
    with hended | ⟨call, dial, hcall, hholder, hstage⟩
  · exact hended
  · -- the dial has ended, so the connect can go on
    have hrests := hidle id
    have hwake := hfollows.wake_le hdelay hcall hstage
    simp [isReady, hcall, hholder, hstage, hwake] at hrests

theorem Follows.late {issued : Session} {result : Except Error Unit}
    (hfollows : Follows issued profile id session) (hresult : session.result? id = some result) :
    ∀ task ∈ session.tasks, task.live = true → issued.now < task.due := by
  obtain ⟨call, hcall, hstage⟩ := result?_eq_some hresult
  have hhandled := hfollows.handled call hcall
  rw [hstage] at hhandled
  exact hhandled.2.late

theorem awaitCall_of_result {moves : Nat} {result : Except Error Unit}
    (hresult : session.result? id = some result) : awaitCall moves session id = session := by
  cases moves with
  | zero => rfl
  | succ moves => rw [awaitCall, if_pos (by rw [hresult, Option.isSome_some])]

/-- To perform a connect is to let it go on until it has ended. -/
theorem perform_comesTo (profile : Profile) (hsound : session.Sound) (hlogged : session.Logged)
    (hheeds : session.HeedsShutdown) (hplain : session.AllPlain)
    (hshut : session.isShutDown = false)
    (hdone : ∀ call ∈ session.calls, call.stage.isDone = true)
    (hdelay : session.network.script.delay.nanos = 0) :
    ∃ acts result, session.ComesTo (.connect profile) acts result ∧
      session.perform (.connect profile) =
        ((session.issue (.connect profile)).run acts, some result) := by
  let issued := session.issue (.connect profile)
  have hissued : issued.AllPlain := allPlain_deed hplain (.issued _)
  obtain ⟨acts, hacts, hrun, hnow⟩ :=
    issued.exists_advances (stageCount * issued.calls.length)
  have hquiet : ∀ given ∈ acts, given.IsQuiet session.tasks.length := by
    intro given hgiven
    obtain ⟨id, rfl⟩ := hacts given hgiven
    trivial
  obtain ⟨hsettles, hfollows⟩ :=
    follows_run profile hsound hlogged hheeds hshut hdone hdelay hquiet
  have hidle := isIdle_settleCalls hissued (remainingTurns_le issued.calls)
  rw [← hrun] at hidle hnow
  obtain ⟨result, hresult⟩ := hfollows.exists_result hsettles (session.length_issue_last _) hdelay
    (allPlain_deeds hissued (issued.deeds_run acts)) hidle
  -- no time has passed, so the task that the connect has started is not due
  have hlate : ∀ task ∈ (issued.run acts).tasks, task.live = true →
      (issued.run acts).now < task.due := by
    rw [hnow]
    exact hfollows.late hresult
  have hsettle : issued.settle = issued.run acts := by
    rw [settle, ← hrun, runTasks_of_late hlate]
  refine ⟨acts, result, ⟨hquiet, hresult⟩, ?_⟩
  show issued.join session.calls.length = _
  rw [join, hsettle, awaitCall_of_result hresult, hresult]

end

/-- A connect to a session that is not shut down and has no other call under way, by a dial that
takes no time, ends as just one row of the table says, and leaves what goes with that row,
whatever the session was before: when it is performed, and wherever else it comes to its end. -/
theorem connect_ends_by_table (options : Options) (before : List Act) (profile : Profile)
    (hopen : Act.issue .shutdown ∉ before)
    (hdone : ∀ call ∈ ((initial options).run before).calls, call.stage.isDone = true)
    (hdelay : ((initial options).run before).network.script.delay.nanos = 0) :
    let session := (initial options).run before
    ∃ attempt result,
      (∀ tried ended, Ends session.network.script profile tried ended ↔
        tried = attempt ∧ ended = result) ∧
      (session.perform (.connect profile)).2 = some result ∧
      Aftermath session profile attempt result (session.perform (.connect profile)).1 ∧
      ∀ acts found, session.ComesTo (.connect profile) acts found →
        found = result ∧ Aftermath session profile attempt result
          ((session.issue (.connect profile)).run acts) := by
  intro session
  have hsound : session.Sound := sound_run options before
  have hlogged : session.Logged := logged_run options before
  have hheeds : session.HeedsShutdown := heedsShutdown_run options before
  have hplain : session.AllPlain := allPlain_run options before
  have hshut : session.isShutDown = false := by
    rw [← Bool.not_eq_true, isShutDown_run]
    simp [initial, Line.initial, hopen]
  obtain ⟨result, hresult⟩ : ∃ result, ∀ tried ended,
      Ends session.network.script profile tried ended ↔
        tried = attemptOf session.network.script profile ∧ ended = result :=
    ⟨_, fun tried ended => ends_iff session.options 0⟩
  have hleaves (acts : List Act) (found : Except Error Unit)
      (hcomes : session.ComesTo (.connect profile) acts found) :
      found = result ∧ Aftermath session profile (attemptOf session.network.script profile) result
        ((session.issue (.connect profile)).run acts) := by
    obtain ⟨hsettles, hfollows⟩ :=
      follows_run profile hsound hlogged hheeds hshut hdone hdelay hcomes.quiet
    obtain ⟨hends, hafter⟩ := aftermath_of_follows hfollows hsettles
      (session.length_issue_last _) hcomes.returned
    obtain ⟨-, rfl⟩ := (hresult _ _).mp hends
    exact ⟨rfl, hafter.attempted, hafter.resolved, hafter.stands⟩
  obtain ⟨acts, found, hcomes, hperform⟩ :=
    perform_comesTo profile hsound hlogged hheeds hplain hshut hdone hdelay
  obtain ⟨rfl, hafter⟩ := hleaves acts found hcomes
  rw [hperform]
  exact ⟨_, found, hresult, rfl, hafter, hleaves⟩

/-- A connected session gives way to a connect that finds no address to dial. -/
theorem addressless_connect_after_connection :
    let before : List Act :=
      .issue (.connect Profile.Sample.direct) :: List.replicate 5 (.advance 0)
    let session := (initial .standard).run before
    let profile := Profile.Sample.unreachable
    (Act.issue .shutdown ∉ before ∧ (∀ call ∈ session.calls, call.stage.isDone = true) ∧
        session.network.script.delay.nanos = 0) ∧
      session.isUp = true ∧
      (session.perform (.connect profile)).2 = some (.error .noAddress) ∧
      Aftermath session profile .made (.error .noAddress)
        (session.perform (.connect profile)).1 := by
  intro before session profile
  have hopen : Act.issue .shutdown ∉ before := by decide
  have hdone : ∀ call ∈ session.calls, call.stage.isDone = true := by decide +kernel
  have hdelay : session.network.script.delay.nanos = 0 := by decide +kernel
  have hup : session.isUp = true := by decide +kernel
  obtain ⟨attempt, result, hrow, hresult, hafter, -⟩ :=
    connect_ends_by_table .standard before profile hopen hdone hdelay
  have hbinds : Binds session.network.script profile := by
    refine ⟨by decide, by decide +kernel, ?_⟩
    intro key hkey
    cases hkey
  obtain ⟨rfl, rfl⟩ := (hrow _ _).mp (.nowhere hbinds rfl)
  exact ⟨⟨hopen, hdone, hdelay⟩, hup, hresult, hafter⟩

end NodeLink.Session
