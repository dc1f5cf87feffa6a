import NodeLink.Proofs.Session.LastCall
/-!
# The fate of a connect

How a connect ends that is not overtaken and not refused.  Nothing but the options
of the session, the script of the network and the profile decides that, and
whether the end of the dial is noticed before the time of the connect has run
out.  So the fate of a connect is a table, and a connect that was issued last
meets it whatever the session was before.
-/

namespace NodeLink.Session

open NodeLink.Rehearsal (Network LinkId Script Target)

/-- How a connect ends, and what stands on the record of the link that it has
bound. -/
structure Fate where
  result : Except Error Unit
  calls : Option (List Rehearsal.Call)

def verdict (script : Script) : Except HandshakeFault Unit :=
  verdictOn (script.replyTo Service.auth.protocol).result

def fateAfterDial (userAgent : String) (script : Script) (profile : Profile) (id : LinkId)
    (target : Target) : Fate :=
  let dialed := resolutions profile ++ [.dial target]
  let signed := resolutions profile ++ [.dial target, signature userAgent profile id]
  match script.dialFailure with
  | some reason =>
    { result := .error (.handshake (.link (.dialFailed reason)))
      calls := some (dialed ++ [.close]) }
  | none =>
    match verdict script with
    | .error fault => { result := .error (.handshake fault), calls := some (signed ++ [.close]) }
    | .ok () => { result := .ok (), calls := some signed }

/-- The fate of a connect that binds a link under a number, by whether the end of
its dial is noticed in time. -/
def fate (options : Options) (script : Script) (profile : Profile) (id : LinkId)
    (inTime : Bool) : Fate :=
  match obstacle? script profile with
  | some error => { result := .error error, calls := none }
  | none =>
    match targetOf profile with
    | .error error => { result := .error error, calls := some (resolutions profile ++ [.close]) }
    | .ok target =>
      if inTime then fateAfterDial options.userAgent script profile id target
      else
        { result := .error (.handshake (.timedOut options.connectTimeout))
          calls := some (resolutions profile ++ [.dial target] ++ [.close]) }

def phaseAfter : Except Error Unit → Phase
  | .ok _ => .connected
  | .error _ => .failed

structure Meets (issued : Session) (profile : Profile) (inTime : Bool) (session : Session)
    (call : Call) (result : Except Error Unit) : Prop where
  result_eq : (fate issued.options issued.network.script profile (call.link.getD 0)
    inTime).result = result
  record : (fate issued.options issued.network.script profile (call.link.getD 0) inTime).calls =
    call.link.bind fun link => (session.network.link? link).map (·.calls)
  profile_eq : session.holdings.profile = some profile

/-- What a connect that was issued last knows of its fate, by its stage.  The end
of its dial may be noticed in time or too late, as far as that is allowed. -/
def Errand (allowed : Bool → Prop) (issued : Session) (profile : Profile) (session : Session)
    (call : Call) : Stage → Prop
  | .queued => True
  | .cleared => True
  | .bound _ _ => obstacle? issued.network.script profile = none
  | .dialing dial => obstacle? issued.network.script profile = none ∧
      dial.failure = issued.network.script.dialFailure
  | .answered _ reply => obstacle? issued.network.script profile = none ∧ allowed true ∧
      issued.network.script.dialFailure = none ∧ reply = verdict issued.network.script
  | .dropped error => ∃ inTime, allowed inTime ∧
      Meets issued profile inTime session call (.error error)
  | .done result => ∃ inTime, allowed inTime ∧ Meets issued profile inTime session call result ∧
      session.phase = phaseAfter result ∧
      ∀ task : Nat, session.holdings.task = some task → issued.tasks.length ≤ task

section

variable {allowed : Bool → Prop} {issued session later : Session} {profile : Profile}
  {id : Nat} {call next : Call} {link : LinkId} {error : Error}

theorem meets_giveUp {inTime : Bool} {record : Rehearsal.Link}
    (hcall : session.calls[id]? = some call) (hown : call.link = some link)
    (hheld : session.holdings.link = some link)
    (hprofile : session.holdings.profile = some profile)
    (hrecord : session.network.link? link = some record) (hopen : record.closed = false)
    (hresult : (fate issued.options issued.network.script profile link inTime).result =
      .error error)
    (hcalls : (fate issued.options issued.network.script profile link inTime).calls =
      some (record.calls ++ [.close]))
    (hnext : (session.giveUp id error).calls[id]? = some next) :
    next.stage = .dropped error ∧
      Meets issued profile inTime (session.giveUp id error) next (.error error) := by
  obtain rfl := Line.eq_of_modify_self hcall hnext
  refine ⟨rfl, ?_, ?_, hprofile⟩
  · simp only [hown, Option.getD_some, hresult]
  · have hclosed : (session.giveUp id error).network.link? link =
        some { record.record .close with closed := true } := by
      show (session.network.release session.holdings.link).link? link = _
      rw [hheld]
      exact Network.link?_close_self hrecord hopen
    simp only [hown, Option.getD_some, hcalls, Option.bind_some, hclosed, Option.map_some]
    rfl

theorem fate_of_setback {stage : Stage} {record : Rehearsal.Link}
    (hoptions : session.options = issued.options)
    (hopen : session.network.isOpen link = true) (hlink : stage.link? = some link)
    (hstands : Stands session.options.userAgent profile link record stage)
    (hsome : ∃ inTime, allowed inTime)
    (htime : ∀ dial, stage = .dialing dial → (dial.wake ≤ session.now → allowed true) ∧
      (session.now < dial.wake → dial.deadline ≤ session.now → allowed false))
    (herrand : Errand allowed issued profile session call stage)
    (hsetback : Setback session profile stage error) :
    ∃ inTime, allowed inTime ∧
      (fate issued.options issued.network.script profile link inTime).result = .error error ∧
      (fate issued.options issued.network.script profile link inTime).calls =
        some (record.calls ++ [.close]) := by
  rw [hoptions] at hstands
  cases hsetback with
  | noTarget htarget =>
      obtain ⟨inTime, hallowed⟩ := hsome
      have hobstacle : obstacle? issued.network.script profile = none := herrand
      exact ⟨inTime, hallowed, by simp [fate, hobstacle, htarget],
        by simp [fate, hobstacle, htarget, hstands.1]⟩
  | closed hwake hclosed =>
      rename_i dial
      obtain rfl : dial.link = link := Option.some.inj hlink
      simp [hopen] at hclosed
  | dialFailed hwake _ hfailure =>
      obtain ⟨hobstacle, hscript⟩ := herrand
      obtain ⟨target, htarget, hcalls, -⟩ := hstands
      rw [hfailure] at hscript
      exact ⟨true, (htime _ rfl).1 hwake,
        by simp [fate, fateAfterDial, hobstacle, htarget, ← hscript],
        by simp [fate, fateAfterDial, hobstacle, htarget, ← hscript, hcalls]⟩
  | timedOut hwake hdeadline =>
      obtain ⟨hobstacle, -⟩ := herrand
      obtain ⟨target, htarget, hcalls, -⟩ := hstands
      exact ⟨false, (htime _ rfl).2 hwake hdeadline,
        by simp [fate, hobstacle, htarget, hoptions],
        by simp [fate, hobstacle, htarget, hcalls]⟩
  | turnedDown =>
      obtain ⟨hobstacle, hallowed, hscript, hverdict⟩ := herrand
      obtain ⟨target, reply, htarget, hcalls, -⟩ := hstands
      exact ⟨true, hallowed,
        by simp [fate, fateAfterDial, hobstacle, htarget, hscript, ← hverdict],
        by simp [fate, fateAfterDial, hobstacle, htarget, hscript, ← hverdict, hcalls]⟩

theorem le_of_startRefresh {entries : List String} {task : Nat}
    (htask : (session.startRefresh link entries).holdings.task = some task) :
    session.tasks.length ≤ task := by
  simp only [startRefresh, Option.map_eq_some_iff] at htask
  obtain ⟨started, -, rfl⟩ := htask
  exact Nat.le_refl _

/-- A node that is asked to accept a session on a link that was just dialed answers
what the script says. -/
theorem verdict_of_signIn {network : Network} {record : Rehearsal.Link}
    (hrecord : network.link? link = some record) (hopen : record.closed = false)
    (hprotocols : record.protocols = Service.protocols) (payload : List UInt8) :
    verdictOn ((network.modify link fun link => { link with dialed := true, lost := false }).request
      link Service.auth.protocol payload).2 = verdict network.script := by
  have hdialed : (network.modify link fun link =>
      { link with dialed := true, lost := false }).link? link =
        some { record with dialed := true, lost := false } := by
    rw [Network.link?_modify_self, hrecord, Option.map_some]
  have hup : Rehearsal.Link.isUp { record with dialed := true, lost := false } = true := by
    simp [Rehearsal.Link.isUp, hopen]
  have hprotocol : Service.auth.protocol ∈ record.protocols := by
    rw [hprotocols]
    decide
  rw [Network.request_result hdialed hprotocol hup]
  rfl

theorem errand_turn (hsettles : issued.Settles session) (hlast : id + 1 = issued.calls.length)
    (hcall : session.calls[id]? = some call) (hholder : session.holder = some id)
    (hrequest : call.request = .connect profile) (hshut : issued.isShutDown = false)
    (hsome : ∃ inTime, allowed inTime)
    (htime : ∀ dial, call.stage = .dialing dial → (dial.wake ≤ session.now → allowed true) ∧
      (session.now < dial.wake → dial.deadline ≤ session.now → allowed false))
    (herrand : Errand allowed issued profile session call call.stage)
    (hturn : Turn session id call later) (hnext : later.calls[id]? = some next) :
    Errand allowed issued profile later next next.stage := by
  have hsound := hsettles.sound
  have hnewest := hsettles.not_isOvertaken hlast hcall
  cases hturn with
  | overtaken _ _ hovertaken => simp [hnewest] at hovertaken
  | left _ _ hovertaken => simp [hnewest] at hovertaken
  | refused _ _ _ hrefused => simp [hsettles.isShutDown_eq, hshut] at hrefused
  | ended hother | shutDown hother => simp [hrequest] at hother
  | cleared =>
      obtain rfl := Line.eq_of_modify_self hcall hnext
      trivial
  | hindered hconnect hstage _ hobstacle binds =>
      obtain rfl := Request.connect.inj (hrequest.symm.trans hconnect)
      obtain ⟨inTime, hallowed⟩ := hsome
      have hunbound := hsound.owned.unbound id call hcall (by rw [hstage]; rfl)
      obtain rfl := Line.eq_of_modify_self hcall hnext
      rw [hsettles.script_eq] at hobstacle
      exact ⟨inTime, hallowed, by simp [fate, hobstacle], by simp [fate, hobstacle, hunbound], rfl⟩
  | bound hconnect hstage _ hobstacle binds =>
      obtain rfl := Request.connect.inj (hrequest.symm.trans hconnect)
      obtain rfl := Line.eq_of_modify_self hcall hnext
      rw [hsettles.script_eq] at hobstacle
      exact hobstacle
  | failed hconnect _ hsetback =>
      obtain rfl := Request.connect.inj (hrequest.symm.trans hconnect)
      obtain ⟨link, hworks⟩ := hsetback.exists_link
      obtain ⟨record, hrecord, hopen, hstands⟩ :=
        hsettles.logged.record_of_works hsound hcall hholder hrequest hworks
      have hbuilds := (hsound.fits_call hcall hholder).builds hworks
      obtain ⟨inTime, hallowed, hresult, hcalls⟩ := fate_of_setback hsettles.options_eq
        (hsound.holdsOpen.isOpen hbuilds.link_eq) hworks hstands hsome htime herrand hsetback
      obtain ⟨hdropped, hmeets⟩ := meets_giveUp hcall
        (hsound.owned.working id call link hcall hworks) hbuilds.link_eq
        (hsound.profile_of_works hcall hholder hrequest hworks) hrecord hopen hresult hcalls hnext
      rw [hdropped]
      exact ⟨inTime, hallowed, hmeets⟩
  | dialed hconnect hstage _ htarget =>
      rw [hstage] at herrand
      obtain rfl := Line.eq_of_modify_self hcall hnext
      exact ⟨herrand, congrArg Script.dialFailure hsettles.script_eq⟩
  | signedIn hconnect hstage hnew hwake hfailure hopen =>
      rename_i former dial
      have hworks : call.stage.link? = some dial.link := by rw [hstage]; rfl
      obtain ⟨record, hrecord, hclosed, hstands⟩ :=
        hsettles.logged.record_of_works hsound hcall hholder hrequest hworks
      rw [hstage] at hstands herrand
      obtain ⟨hobstacle, hscript⟩ := herrand
      obtain ⟨target, -, -, -, hprotocols⟩ := hstands
      obtain rfl := Line.eq_of_modify_self hcall hnext
      refine ⟨hobstacle, (htime dial hstage).1 hwake, hscript.symm.trans hfailure, ?_⟩
      rw [← hsettles.script_eq]
      exact verdict_of_signIn hrecord hclosed hprotocols _
  | connected hconnect hstage hnew =>
      rename_i former link
      obtain rfl := Request.connect.inj (hrequest.symm.trans hconnect)
      have hworks : call.stage.link? = some link := by rw [hstage]; rfl
      have hown := hsound.owned.working id call link hcall hworks
      have hprofile := hsound.profile_of_works hcall hholder hrequest hworks
      obtain ⟨record, hrecord, hclosed, hstands⟩ :=
        hsettles.logged.record_of_works hsound hcall hholder hrequest hworks
      rw [hstage] at hstands herrand
      obtain ⟨hobstacle, hallowed, hscript, hverdict⟩ := herrand
      obtain ⟨target, reply, htarget, hcalls, -⟩ := hstands
      obtain rfl := Line.eq_of_modify_self hcall hnext
      refine ⟨true, hallowed, ⟨?_, ?_, hprofile⟩, phase_moveTo _ _, ?_⟩
      · simp [fate, fateAfterDial, hobstacle, htarget, hscript, ← hverdict]
      · have hkept : (((session.startRefresh link profile.bootstrap).moveTo .connected).finish id
            (.ok ())).network.link? link = some record := hrecord
        simp [fate, fateAfterDial, hobstacle, htarget, hscript, ← hverdict, hown, hkept, hcalls,
          hsettles.options_eq]
      · intro task htask
        exact Nat.le_trans hsettles.tasks_le (le_of_startRefresh htask)
  | fell hconnect hstage =>
      rw [hstage] at herrand
      obtain ⟨inTime, hallowed, hmeets⟩ := herrand
      have hfits := hsound.fits_call hcall hholder
      rw [hstage] at hfits
      obtain rfl := Line.eq_of_modify_self hcall hnext
      refine ⟨inTime, hallowed, ⟨hmeets.result_eq, hmeets.record, hmeets.profile_eq⟩,
        phase_moveTo _ _, ?_⟩
      intro task htask
      have htask' : session.holdings.task = some task := htask
      simp [hfits.2.2.2] at htask'

/-! ## On the way -/

theorem Errand.of_eq {stage : Stage} (herrand : Errand allowed issued profile session call stage)
    (hnetwork : later.network = session.network) (hholdings : later.holdings = session.holdings)
    (hphase : later.phase = session.phase) : Errand allowed issued profile later call stage := by
  have hmeets : ∀ inTime result, Meets issued profile inTime session call result →
      Meets issued profile inTime later call result := by
    intro inTime result hmeets
    refine ⟨hmeets.result_eq, ?_, ?_⟩
    · rw [hnetwork]
      exact hmeets.record
    · rw [hholdings]
      exact hmeets.profile_eq
  cases stage with
  | queued | cleared | bound | dialing | answered => exact herrand
  | dropped error =>
      obtain ⟨inTime, hallowed, hformer⟩ := herrand
      exact ⟨inTime, hallowed, hmeets inTime _ hformer⟩
  | done result =>
      obtain ⟨inTime, hallowed, hformer, hended, htask⟩ := herrand
      refine ⟨inTime, hallowed, hmeets inTime _ hformer, hphase.trans hended, ?_⟩
      rw [hholdings]
      exact htask

/-- The tasks that were started before do nothing once the last call has begun. -/
theorem queued_of_resolved {task : Task} {turning : Nat} (hsettles : issued.Settles session)
    (hcall : session.calls[id]? = some call) (hearly : turning < issued.tasks.length)
    (htask : session.tasks[turning]? = some task) (hlive : task.live = true)
    (herrand : Errand allowed issued profile session call call.stage) : call.stage = .queued := by
  have hheld := hsettles.sound.tends.only turning task htask hlive
  obtain ⟨hphase, found, held, hfound, -, hlink, -⟩ := hsettles.sound.tends.live turning hheld
  -- a live task belongs to a connected session, which no call is changing
  have hstage := hsettles.sound.stage_of_connected hphase hlink
  by_contra hbegun
  cases hdone : call.stage.isDone with
  | true =>
      cases hended : call.stage with
      | done result =>
          rw [hended] at herrand
          obtain ⟨inTime, -, -, -, hlate⟩ := herrand
          have hle := hlate turning hheld
          omega
      | queued | cleared | bound | dialing | answered | dropped =>
          simp [hended, Stage.isDone] at hdone
  | false =>
      have hholder := hsettles.sound.orderly.holder_of_begun hcall hbegun hdone
      have heq : session.stage = call.stage := Line.stage_eq hholder hcall
      exact hbegun (heq.symm.trans hstage)

theorem errand_quietDeed {first : Call} (hsettles : issued.Settles session)
    (hlast : id + 1 = issued.calls.length) (hfirst : issued.calls[id]? = some first)
    (hrequest : first.request = .connect profile) (hshut : issued.isShutDown = false)
    (hsome : ∃ inTime, allowed inTime)
    (htime : ∀ call dial, session.calls[id]? = some call → call.stage = .dialing dial →
      (dial.wake ≤ session.now → allowed true) ∧
        (session.now < dial.wake → dial.deadline ≤ session.now → allowed false))
    (herrand : ∀ call, session.calls[id]? = some call →
      Errand allowed issued profile session call call.stage)
    (hdeed : QuietDeed issued.tasks.length session later) :
    ∀ next, later.calls[id]? = some next →
      Errand allowed issued profile later next next.stage := by
  intro next hnext
  cases hdeed with
  | turned hother hholder hturn =>
      rename_i turning other
      obtain ⟨former, hformer, hsame⟩ := hsettles.request_eq id first hfirst
      rcases hsettles.turn_cases hlast hformer hholder hturn with rfl | ⟨hstage, hkept⟩
      · obtain rfl : former = other := Option.some.inj (hformer.symm.trans hother)
        exact errand_turn hsettles hlast hformer hholder (hsame.trans hrequest) hshut hsome
          (fun dial hdialing => htime former dial hformer hdialing) (herrand former hformer)
          hturn hnext
      · obtain rfl : former = next := Option.some.inj (hkept.symm.trans hnext)
        rw [hstage]
        trivial
  | resolved hearly htask hlive hdue =>
      have hqueued := queued_of_resolved hsettles hnext hearly htask hlive (herrand next hnext)
      rw [hqueued]
      trivial
  | waited | enrolled => exact (herrand next hnext).of_eq rfl rfl rfl

end

end NodeLink.Session
