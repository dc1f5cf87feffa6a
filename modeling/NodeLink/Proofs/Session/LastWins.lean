import Mathlib.Control.Monad.Basic
import NodeLink.Profile.Samples
import NodeLink.Proofs.Session.Alone
/-!
# The last call wins

However many calls a session has seen, and wherever they overtook each other, once
all of them have ended the outcome is that of the last one.  If it disconnects or
shuts down, nothing is left; a connect after a shutdown is refused; and any other
connect ends as it does in a session to which nothing has happened yet.
-/

namespace NodeLink.Session

open NodeLink.Rehearsal (Network LinkId Script)

/-- Calls on a link as they would be recorded on the first link of a network: the
number of a link shows in the name under which it signs in, and nowhere else. -/
def unlabelled (userAgent : String) (profile : Profile) (id : LinkId)
    (calls : List Rehearsal.Call) : List Rehearsal.Call :=
  calls.map fun call =>
    if call = signature userAgent profile id then signature userAgent profile 0 else call

/-- What a connect leaves: its result, the phase and the profile of the session,
and the record of the link that it has bound. -/
structure Outcome where
  result : Option (Except Error Unit)
  phase : Phase
  profile : Option Profile
  calls : Option (List Rehearsal.Call)

def outcome (session : Session) (id : CallId) (profile : Profile) : Outcome :=
  { result := session.result? id
    phase := session.phase
    profile := session.holdings.profile
    calls := (session.calls[id]?.bind (·.link)).bind fun link =>
      (session.network.link? link).map fun record =>
        unlabelled session.options.userAgent profile link record.calls }

def fated (options : Options) (script : Script) (profile : Profile) (inTime : Bool) : Outcome :=
  let fate := fate options script profile 0 inTime
  { result := some fate.result
    phase := phaseAfter fate.result
    profile := some profile
    calls := fate.calls }

/-! ## Fate and outcome -/

theorem unlabelled_append (userAgent : String) (profile : Profile) (id : LinkId)
    (former latter : List Rehearsal.Call) :
    unlabelled userAgent profile id (former ++ latter) =
      unlabelled userAgent profile id former ++ unlabelled userAgent profile id latter :=
  List.map_append

theorem unlabelled_resolutions (userAgent : String) (profile : Profile) (id : LinkId) :
    unlabelled userAgent profile id (resolutions profile) = resolutions profile := by
  simp [unlabelled, resolutions, signature]

theorem unlabelled_dial (userAgent : String) (profile : Profile) (id : LinkId)
    (target : Rehearsal.Target) :
    unlabelled userAgent profile id [.dial target] = [.dial target] := by
  simp [unlabelled, signature]

theorem unlabelled_signed (userAgent : String) (profile : Profile) (id : LinkId)
    (target : Rehearsal.Target) :
    unlabelled userAgent profile id [.dial target, signature userAgent profile id] =
      [.dial target, signature userAgent profile 0] := by
  simp [unlabelled, signature]

theorem unlabelled_close (userAgent : String) (profile : Profile) (id : LinkId) :
    unlabelled userAgent profile id [.close] = [.close] := by
  simp [unlabelled, signature]

theorem fate_unlabelled (options : Options) (script : Script) (profile : Profile) (id : LinkId)
    (inTime : Bool) :
    (fate options script profile id inTime).result =
        (fate options script profile 0 inTime).result ∧
      (fate options script profile id inTime).calls.map
          (unlabelled options.userAgent profile id) =
        (fate options script profile 0 inTime).calls := by
  unfold fate
  cases obstacle? script profile with
  | some error => exact ⟨rfl, rfl⟩
  | none =>
      cases targetOf profile with
      | error error =>
          simp only [Option.map_some, unlabelled_append, unlabelled_resolutions, unlabelled_close,
            and_self]
      | ok target =>
          cases inTime with
          | false =>
              simp only [Bool.false_eq_true, if_false, Option.map_some, unlabelled_append,
                unlabelled_resolutions, unlabelled_dial, unlabelled_close, and_self]
          | true =>
              simp only [if_true, fateAfterDial]
              cases script.dialFailure with
              | some reason =>
                  simp only [Option.map_some, unlabelled_append, unlabelled_resolutions,
                    unlabelled_dial, unlabelled_close, and_self]
              | none =>
                  cases verdict script with
                  | error fault =>
                      simp only [Option.map_some, unlabelled_append, unlabelled_resolutions,
                        unlabelled_signed, unlabelled_close, and_self]
                  | ok _ =>
                      simp only [Option.map_some, unlabelled_append, unlabelled_resolutions,
                        unlabelled_signed, and_self]

theorem fate_ne_superseded (options : Options) (script : Script) (profile : Profile)
    (id : LinkId) (inTime : Bool) :
    (fate options script profile id inTime).result ≠ .error .superseded := by
  unfold fate
  cases hobstacle : obstacle? script profile with
  | some error =>
      have hother := obstacle?_ne_superseded hobstacle
      simpa using hother
  | none =>
      cases htarget : targetOf profile with
      | error error =>
          have hother := targetOf_ne_superseded htarget
          simpa using hother
      | ok target =>
          cases inTime with
          | false => simp
          | true =>
              simp only [if_true, fateAfterDial]
              cases script.dialFailure with
              | some reason => simp
              | none =>
                  cases verdict script with
                  | error fault => simp
                  | ok _ => simp

theorem outcome_eq_fated {allowed : Bool → Prop} {issued session : Session} {profile : Profile}
    {id : Nat} {call : Call} {result : Except Error Unit}
    (hoptions : session.options = issued.options) (hcall : session.calls[id]? = some call)
    (hstage : call.stage = .done result)
    (herrand : Errand allowed issued profile session call call.stage) :
    ∃ inTime, allowed inTime ∧
      session.outcome id profile =
        fated issued.options issued.network.script profile inTime := by
  rw [hstage] at herrand
  obtain ⟨inTime, hallowed, hmeets, hphase, -⟩ := herrand
  obtain ⟨hsame, hcalls⟩ := fate_unlabelled issued.options issued.network.script profile
    (call.link.getD 0) inTime
  have hresult : result = (fate issued.options issued.network.script profile 0 inTime).result :=
    hmeets.result_eq.symm.trans hsame
  refine ⟨inTime, hallowed, ?_⟩
  have hrecord : session.outcome id profile =
      { result := some result
        phase := phaseAfter result
        profile := some profile
        calls := (fate issued.options issued.network.script profile 0 inTime).calls } := by
    rw [← hcalls, hmeets.record]
    simp only [outcome, result?_of_done hcall hstage, hphase, hmeets.profile_eq, hcall,
      Option.bind_some, hoptions, Outcome.mk.injEq, true_and]
    cases call.link with
    | none => rfl
    | some link => simp [Option.map_map, Function.comp_def]
  rw [hrecord, hresult]
  rfl

theorem result_of_fated {options : Options} {script : Script} {session : Session}
    {profile : Profile} {id : Nat} {inTime : Bool} {result : Except Error Unit}
    (hresult : session.result? id = some result)
    (houtcome : session.outcome id profile = fated options script profile inTime) :
    result = (fate options script profile 0 inTime).result :=
  Option.some.inj (hresult.symm.trans (congrArg Outcome.result houtcome))

/-! ## Calls that come to a result -/

/-- A request that is the last one asked of a session comes to a result by acts
that are quiet. -/
structure ComesTo (session : Session) (request : Request) (acts : List Act)
    (result : Except Error Unit) : Prop where
  quiet : ∀ given ∈ acts, given.IsQuiet session.tasks.length
  returned : ((session.issue request).run acts).result? session.calls.length = some result

section

variable {session : Session} {request : Request} {acts : List Act} {result : Except Error Unit}
  {profile : Profile}

theorem settles_issue (hsound : session.Sound) (hlogged : session.Logged)
    (hheeds : session.HeedsShutdown) (request : Request) :
    (session.issue request).Settles (session.issue request) :=
  .refl (hsound.afterDeed (.issued request)) (hlogged.afterDeed hsound (.issued request))
    (heedsShutdown_deed hsound hheeds (.issued request))

theorem getElem?_issue_last (session : Session) (request : Request) :
    (session.issue request).calls[session.calls.length]? = some (session.toLine.issued request) :=
  Line.getElem?_issue_self session.toLine request

theorem length_issue_last (session : Session) (request : Request) :
    session.calls.length + 1 = (session.issue request).calls.length :=
  (Line.length_issue session.toLine request).symm

theorem eq_issued_of_last {call : Call}
    (hcall : (session.issue request).calls[session.calls.length]? = some call) :
    call = session.toLine.issued request :=
  Option.some.inj (hcall.symm.trans (session.getElem?_issue_last request))

theorem begun_issue (session : Session) (request : Request) :
    Begun (session.issue request) session.calls.length (session.issue request) := by
  intro call dial hcall hstage
  rw [eq_issued_of_last hcall] at hstage
  cases hstage

theorem timely_issue (session : Session) (request : Request) :
    Timely (session.issue request) session.calls.length (session.issue request) := by
  constructor
  · intro call link deadline hcall hstage
    rw [eq_issued_of_last hcall] at hstage
    cases hstage
  · intro call dial hcall hstage
    rw [eq_issued_of_last hcall] at hstage
    cases hstage

theorem all_done (hsound : session.Sound) (hlogged : session.Logged)
    (hheeds : session.HeedsShutdown) (hcomes : session.ComesTo request acts result) :
    ∀ call ∈ ((session.issue request).run acts).calls, call.stage.isDone = true := by
  obtain ⟨hsettles, -⟩ := quiet_induction (motive := fun _ => True) (fun _ _ _ _ _ => trivial)
    (settles_issue hsound hlogged hheeds request) trivial hcomes.quiet
  obtain ⟨last, hlast, hstage⟩ := result?_eq_some hcomes.returned
  have hfree := hsettles.holder_eq_none (session.length_issue_last request) hlast
    (by rw [hstage]; rfl)
  intro call hmem
  obtain ⟨id, hcall⟩ := List.mem_iff_getElem?.mp hmem
  exact hsettles.sound.orderly.isDone_of_free hfree hcall

/-- A connect that was not refused leaves an outcome that its fate says.  What the
acts that happen keep decides whether the end of its dial is noticed in time. -/
theorem exists_fated_of_along {admits : Session → Act → Prop} {allowed : Bool → Prop}
    {Keeps : Session → Prop} (hsound : session.Sound) (hlogged : session.Logged)
    (hheeds : session.HeedsShutdown) (hshut : session.isShutDown = false)
    (hcomes : session.ComesTo (.connect profile) acts result)
    (halong : Along admits (session.issue (.connect profile)) acts)
    (hsome : ∃ inTime, allowed inTime) (hbase : Keeps (session.issue (.connect profile)))
    (hact : ∀ (later : Session) (given : Act),
      (session.issue (.connect profile)).Settles later → given.IsQuiet session.tasks.length →
      admits later given → Keeps later → Keeps (later.act given))
    (htime : ∀ later : Session, Keeps later → ∀ call dial,
      later.calls[session.calls.length]? = some call → call.stage = .dialing dial →
      (dial.wake ≤ later.now → allowed true) ∧
        (later.now < dial.wake → dial.deadline ≤ later.now → allowed false)) :
    ∃ inTime, allowed inTime ∧
      ((session.issue (.connect profile)).run acts).outcome session.calls.length profile =
        fated session.options session.network.script profile inTime := by
  let issued := session.issue (.connect profile)
  let Errs (later : Session) : Prop := ∀ call, later.calls[session.calls.length]? = some call →
    Errand allowed issued profile later call call.stage
  have hissued : issued.isShutDown = false := by
    simp [issued, issue, Line.issue, hshut]
  have herrs : Errs issued := by
    intro call hcall
    rw [eq_issued_of_last hcall]
    trivial
  have hstep : ∀ (later : Session) (given : Act), issued.Settles later →
      given.IsQuiet issued.tasks.length → admits later given → Errs later ∧ Keeps later →
      Errs (later.act given) ∧ Keeps (later.act given) := by
    rintro later given hsettles hquiet hadmits ⟨hformer, hkeeps⟩
    refine ⟨?_, hact later given hsettles hquiet hadmits hkeeps⟩
    rcases later.quiet_act hquiet with hsame | hdeed
    · rw [hsame]
      exact hformer
    · exact errand_quietDeed hsettles (session.length_issue_last _)
        (session.getElem?_issue_last _) rfl hissued hsome (htime later hkeeps) hformer hdeed
  obtain ⟨hsettles, hended, -⟩ := along_induction hstep
    (settles_issue hsound hlogged hheeds _) ⟨herrs, hbase⟩ hcomes.quiet halong
  obtain ⟨call, hcall, hstage⟩ := result?_eq_some hcomes.returned
  have houtcome := outcome_eq_fated hsettles.options_eq hcall hstage (hended call hcall)
  exact houtcome

theorem outcome_of_comesTo (hsound : session.Sound) (hlogged : session.Logged)
    (hheeds : session.HeedsShutdown) (hshut : session.isShutDown = false)
    (hcomes : session.ComesTo (.connect profile) acts result) :
    ∃ inTime, (inTime = false → 0 < session.network.script.delay.nanos) ∧
      ((session.issue (.connect profile)).run acts).outcome session.calls.length profile =
        fated session.options session.network.script profile inTime := by
  refine exists_fated_of_along hsound hlogged hheeds hshut hcomes (along_true _ _)
    ⟨true, by simp⟩ (begun_issue session _) ?_ ?_
  · intro later given hsettles hquiet _ hbegun
    rcases later.quiet_act hquiet with hsame | hdeed
    · rw [hsame]
      exact hbegun
    · exact begun_quietDeed hsettles (session.length_issue_last _) hbegun hdeed
  · intro later hbegun call dial hcall hstage
    refine ⟨by simp, ?_⟩
    intro hbefore _ _
    obtain ⟨start, hstart, hwake⟩ := hbegun call dial hcall hstage
    rw [hwake] at hbefore
    exact Nat.pos_of_lt_add_right (Nat.lt_of_le_of_lt hstart hbefore)

theorem outcome_of_punctual (hsound : session.Sound) (hlogged : session.Logged)
    (hheeds : session.HeedsShutdown) (hshut : session.isShutDown = false)
    (hcomes : session.ComesTo (.connect profile) acts result)
    (halong : Along Punctual (session.issue (.connect profile)) acts) :
    ((session.issue (.connect profile)).run acts).outcome session.calls.length profile =
      fated session.options session.network.script profile
        (isTimely session.options session.network.script) := by
  have hsome : ∃ inTime, inTime = isTimely session.options session.network.script := ⟨_, rfl⟩
  have hfated := exists_fated_of_along hsound hlogged hheeds hshut hcomes halong hsome
    (timely_issue session _) ?_ ?_
  · obtain ⟨inTime, rfl, houtcome⟩ := hfated
    exact houtcome
  · intro later given hsettles hquiet hpunctual htimely
    exact timely_act hsettles (session.length_issue_last _) hquiet hpunctual htimely
  · intro later htimely call dial hcall hstage
    exact htimely.notices hcall hstage

theorem exists_fated (hsound : session.Sound) (hlogged : session.Logged)
    (hheeds : session.HeedsShutdown) (hshut : session.isShutDown = false)
    (hcomes : session.ComesTo (.connect profile) acts result) :
    ∃ inTime, (inTime = false → 0 < session.network.script.delay.nanos) ∧
      (Along Punctual (session.issue (.connect profile)) acts →
        inTime = isTimely session.options session.network.script) ∧
      ((session.issue (.connect profile)).run acts).outcome session.calls.length profile =
        fated session.options session.network.script profile inTime := by
  by_cases halong : Along Punctual (session.issue (.connect profile)) acts
  · refine ⟨isTimely session.options session.network.script, ?_, fun _ => rfl,
      outcome_of_punctual hsound hlogged hheeds hshut hcomes halong⟩
    intro hlate
    exact Nat.lt_of_le_of_lt (Nat.zero_le _) (Nat.not_le.mp (of_decide_eq_false hlate))
  · obtain ⟨inTime, hdelay, houtcome⟩ := outcome_of_comesTo hsound hlogged hheeds hshut hcomes
    exact ⟨inTime, hdelay, fun hafter => absurd hafter halong, houtcome⟩

theorem exists_comesTo (options : Options) (script : Script) (profile : Profile) (inTime : Bool)
    (hdelay : inTime = false → 0 < script.delay.nanos) :
    ∃ acts result, (facing options script).ComesTo (.connect profile) acts result ∧
      (inTime = isTimely options script →
        Along Punctual ((facing options script).issue (.connect profile)) acts) ∧
      (((facing options script).issue (.connect profile)).run acts).outcome 0 profile =
        fated options script profile inTime := by
  let issued := (facing options script).issue (.connect profile)
  have hfirst := (facing options script).getElem?_issue_last (.connect profile)
  have happroaches : Approaches issued profile 0 inTime issued
      ((facing options script).toLine.issued (.connect profile)) :=
    { settles := settles_issue (facing_sound options script) (facing_logged options script)
        (facing_heedsShutdown options script) _
      call_eq := hfirst
      holder := fun _ => rfl
      errand := trivial
      late := fun _ dial hstage => by cases hstage
      timely := fun _ => timely_issue _ _ }
  obtain ⟨acts, hquiet, halong, last, result, hstage, hended⟩ :=
    happroaches.exists_end rfl hfirst rfl rfl hdelay 0
  obtain ⟨_, rfl, houtcome⟩ :=
    outcome_eq_fated hended.settles.options_eq hended.call_eq hstage hended.errand
  exact ⟨acts, result, ⟨hquiet, result?_of_done hended.call_eq hstage⟩, halong, houtcome⟩

theorem eq_true_of_delay_eq_zero {script : Script} {inTime : Bool}
    (hnone : script.delay.nanos = 0) (hdelay : inTime = false → 0 < script.delay.nanos) :
    inTime = true := by
  by_contra hlate
  have hpositive := hdelay (Bool.eq_false_iff.mpr hlate)
  omega

/-! ## The last call wins -/

/-- Whatever calls a session has seen, and whatever else happened to it, the last
call decides once it has ended, and then all calls have ended.  If it disconnects
or shuts down, the session is down.  If it connects after a shutdown, it is refused
and the session is down.  Any other connect is not superseded, and its outcome is
one that it has in a session to which nothing else has happened; it is the only
one under a punctual clock, or if the dial takes no time. -/
theorem last_call_wins (options : Options) (before after : List Act) (request : Request)
    (result : Except Error Unit)
    (hcomes : ((initial options).run before).ComesTo request after result) :
    let session := (initial options).run before
    let last := (session.issue request).run after
    (∀ call ∈ last.calls, call.stage.isDone = true) ∧
      match request with
      | .disconnect => last.IsDown
      | .shutdown => last.IsDown
      | .connect profile =>
        (Act.issue .shutdown ∈ before → result = .error (.setup .shutDown) ∧ last.IsDown) ∧
          (Act.issue .shutdown ∉ before →
            result ≠ .error .superseded ∧
              let fresh := facing options session.network.script
              (∃ acts, fresh.ComesTo request acts result ∧
                (Along Punctual (session.issue request) after →
                  Along Punctual (fresh.issue request) acts) ∧
                last.outcome session.calls.length profile =
                  ((fresh.issue request).run acts).outcome 0 profile) ∧
              ∀ acts found, fresh.ComesTo request acts found →
                session.network.script.delay.nanos = 0 ∨
                    Along Punctual (session.issue request) after ∧
                      Along Punctual (fresh.issue request) acts →
                last.outcome session.calls.length profile =
                  ((fresh.issue request).run acts).outcome 0 profile) := by
  intro session last
  have hsound : session.Sound := sound_run options before
  have hlogged : session.Logged := logged_run options before
  have hheeds : session.HeedsShutdown := heedsShutdown_run options before
  have hoptions : session.options = options := options_run options before
  have hissued := session.getElem?_issue_last request
  have hlast := session.length_issue_last request
  have hsettles := settles_issue hsound hlogged hheeds request
  have hqueued : ∀ call, (session.issue request).calls[session.calls.length]? = some call →
      call.stage = .queued := by
    intro call hcall
    rw [eq_issued_of_last hcall]
    rfl
  refine ⟨all_done hsound hlogged hheeds hcomes, ?_⟩
  cases request with
  | disconnect =>
      exact isDown_of_ending hsettles hlast hissued (.inl rfl) hqueued hcomes.quiet
        hcomes.returned
  | shutdown =>
      exact isDown_of_ending hsettles hlast hissued (.inr rfl) hqueued hcomes.quiet
        hcomes.returned
  | connect profile =>
      constructor
      · intro hbefore
        have hshut : (session.issue (.connect profile)).isShutDown = true := by
          have hformer : session.isShutDown = true :=
            (isShutDown_run (initial options) before).mpr (.inr hbefore)
          simp [issue, Line.issue, hformer]
        exact isDown_of_refused hsettles hlast hissued rfl hshut hqueued hcomes.quiet
          hcomes.returned
      · intro hbefore
        have hshut : session.isShutDown = false := by
          rw [← Bool.not_eq_true, isShutDown_run]
          simp [initial, Line.initial, hbefore]
        obtain ⟨inTime, hdelay, hpunctual, houtcome⟩ :=
          exists_fated hsound hlogged hheeds hshut hcomes
        rw [hoptions] at hpunctual houtcome
        have hresult := result_of_fated hcomes.returned houtcome
        refine ⟨hresult ▸ fate_ne_superseded _ _ _ _ _, ?_, ?_⟩
        · obtain ⟨acts, found, hfresh, halong, hsame⟩ :=
            exists_comesTo options session.network.script profile inTime hdelay
          obtain rfl : result = found :=
            hresult.trans (result_of_fated hfresh.returned hsame).symm
          exact ⟨acts, hfresh, fun hafter => halong (hpunctual hafter),
            houtcome.trans hsame.symm⟩
        · intro acts found hfresh hclock
          obtain ⟨freshInTime, hfreshDelay, hfreshPunctual, hsame⟩ :=
            exists_fated (facing_sound options session.network.script)
              (facing_logged options session.network.script)
              (facing_heedsShutdown options session.network.script) rfl hfresh
          have htime : inTime = freshInTime := by
            rcases hclock with hnone | ⟨hafter, halong⟩
            · rw [eq_true_of_delay_eq_zero hnone hdelay,
                eq_true_of_delay_eq_zero hnone hfreshDelay]
            · exact (hpunctual hafter).trans (hfreshPunctual halong).symm
          rw [houtcome, htime]
          exact hsame.symm

theorem overtaking_connect_wins :
    let request : Request := .connect Profile.Sample.direct
    let before : List Act := [.issue request, .advance 0, .advance 0, .advance 0]
    let after : List Act :=
      [.advance 0, .advance 1, .advance 1, .advance 1, .advance 1, .advance 1]
    let session := (initial .standard).run before
    let fresh := facing .standard session.network.script
    session.ComesTo request after (.ok ()) ∧
      ∃ acts, fresh.ComesTo request acts (.ok ()) ∧
        ((session.issue request).run after).outcome 1 Profile.Sample.direct =
          ((fresh.issue request).run acts).outcome 0 Profile.Sample.direct := by
  intro request before after session fresh
  have hcomes : session.ComesTo request after (.ok ()) :=
    ⟨by simp [after, Act.IsQuiet], by decide +kernel⟩
  obtain ⟨-, -, hwins⟩ := last_call_wins .standard before after request (.ok ()) hcomes
  obtain ⟨-, ⟨acts, hfresh, -, hsame⟩, -⟩ := hwins (by decide)
  exact ⟨hcomes, acts, hfresh, hsame⟩

end

end NodeLink.Session
