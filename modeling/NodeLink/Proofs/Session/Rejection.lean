import NodeLink.Proofs.Exchange.Calls
import NodeLink.Proofs.Session.Deadline
/-!
# Rejections that are wrapped

A connect and a call take the same errors from the answer of a node, with one exception: only a
call looks into what the answer wraps.  A node that wraps its rejection has accepted the session,
and the session comes up.
-/

namespace NodeLink.Session

open NodeLink.Exchange (Signals Wraps Inquiry IsAnswered ask interpret interpretValue
  interpretValue_eq_error_iff isAnswered_sampleSession isCanonical_of_readBytes sampleSession
  signalled?_eq_none_iff signalled?_eq_some_iff)
open NodeLink.Rehearsal (LinkId Script)

/-! ## Two readers of one body -/

/-- What a connect makes of the body with which it is answered. -/
def signedIn (body : List UInt8) : Except Error Unit :=
  (acceptance body).mapError .handshake

/-- A value that signals no error itself wraps one that signals an error. -/
def Hides (value : Json.Value) (message : String) : Prop :=
  (∀ other, ¬ Signals value other) ∧ ∃ inner, Wraps value inner ∧ Signals inner message

section

variable {body : List UInt8} {value : Json.Value} {message : String}

theorem signedIn_of_read (hread : Json.readBytes body = .ok value) :
    signedIn body =
      match Exchange.signalled? value with
      | some message => .error (.handshake (.rejected message))
      | none => .ok () := by
  simp only [signedIn, acceptance, hread]
  cases Exchange.signalled? value with
  | none => rfl
  | some message => rfl

/-- What a connect finds wrong with a body is what the body signals itself. -/
theorem signedIn_eq_rejected_iff (hread : Json.readBytes body = .ok value) :
    signedIn body = .error (.handshake (.rejected message)) ↔ Signals value message := by
  rw [signedIn_of_read hread, ← signalled?_eq_some_iff (isCanonical_of_readBytes hread)]
  cases Exchange.signalled? value with
  | none => simp
  | some found => simp

theorem signedIn_eq_ok_iff (hread : Json.readBytes body = .ok value) :
    signedIn body = .ok () ↔ ∀ message, ¬ Signals value message := by
  rw [signedIn_of_read hread, ← signalled?_eq_none_iff (isCanonical_of_readBytes hread)]
  cases Exchange.signalled? value with
  | none => simp
  | some found => simp

theorem signedIn_ne_timedOut (body : List UInt8) (after : Duration) :
    signedIn body ≠ .error (.handshake (.timedOut after)) := by
  unfold signedIn acceptance
  split
  next => simp [Except.mapError]
  next => split <;> simp [Except.mapError]

/-- A call looks into what the body wraps as well. -/
theorem ask_eq_remote_iff {called : Session} {inquiry : Inquiry}
    (hread : Json.readBytes body = .ok value) (hanswered : IsAnswered called inquiry body) :
    (ask called inquiry).2 = .error (.remote message) ↔
      Signals value message ∨ Hides value message := by
  have hinterpret : interpret body = interpretValue value := by rw [interpret, hread]
  rw [hanswered.ask_eq, hinterpret, Hides,
    ← interpretValue_eq_error_iff (isCanonical_of_readBytes hread)]
  cases interpretValue value with
  | error found => simp
  | ok reply? => simp

end

/-! ## Connects that are answered -/

/-- A network takes a connect as far as its sign-in, and the node answers that with a body. -/
structure Answers (script : Script) (profile : Profile) (body : List UInt8) : Prop where
  binds : Binds script profile
  target : HasTarget profile
  dials : script.dialFailure = none
  reply : script.replyTo Service.auth.protocol = .body body

theorem Answers.fate_eq {script : Script} {profile : Profile} {body : List UInt8}
    (hanswers : Answers script profile body) (options : Options) (link : LinkId) :
    (fate options script profile link true).result = signedIn body := by
  have hverdict : verdictOn (script.replyTo Service.auth.protocol).result = acceptance body := by
    rw [hanswers.reply]
    rfl
  have hends : Ends script profile .made (signedIn body) := by
    unfold signedIn
    cases haccept : acceptance body with
    | error fault =>
        exact .rejected hanswers.binds hanswers.target hanswers.dials
          (verdictOn_eq_error_iff.mp (hverdict.trans haccept))
    | ok =>
        exact .up hanswers.binds hanswers.target hanswers.dials
          (verdictOn_eq_ok_iff.mp (hverdict.trans haccept))
  exact ((ends_iff options link).mp hends).2.symm

/-- A connect that is issued last ends by acts that are quiet, and not because its time is over. -/
structure EndsInTime (session : Session) (profile : Profile) (acts : List Act)
    (result : Except Error Unit) : Prop where
  comes : session.ComesTo (.connect profile) acts result
  inTime : result ≠ .error (.handshake (.timedOut session.options.connectTimeout))

section

variable {session : Session} {profile : Profile} {body : List UInt8} {acts : List Act}
  {result : Except Error Unit}

/-- A connect that ends in time ends with what it makes of its answer. -/
theorem EndsInTime.result_eq (hends : session.EndsInTime profile acts result)
    (hsound : session.Sound) (hlogged : session.Logged) (hheeds : session.HeedsShutdown)
    (hshut : session.isShutDown = false) (hanswers : Answers session.network.script profile body) :
    result = signedIn body ∧
      ((session.issue (.connect profile)).run acts).phase = phaseAfter result := by
  obtain ⟨inTime, -, -, houtcome⟩ := exists_fated hsound hlogged hheeds hshut hends.comes
  have hresult := result_of_fated hends.comes.returned houtcome
  have hphase := congrArg Outcome.phase houtcome
  cases inTime with
  | false =>
      obtain ⟨target, htarget⟩ := hanswers.target.exists_target
      simp only [fate, hanswers.binds.obstacle?_eq_none, htarget, Bool.false_eq_true,
        if_false] at hresult
      exact absurd hresult hends.inTime
  | true =>
      rw [hanswers.fate_eq] at hresult
      refine ⟨hresult, hphase.trans ?_⟩
      rw [hresult]
      exact congrArg phaseAfter (hanswers.fate_eq _ _)

/-- A session at rest performs a connect in time whose dial does not take too long. -/
theorem AtRest.exists_endsInTime (hrest : session.AtRest)
    (hanswers : Answers session.network.script profile body)
    (htime : session.network.script.delay.nanos ≤ session.options.connectTimeout.nanos) :
    ∃ acts result, session.EndsInTime profile acts result ∧
      session.perform (.connect profile) =
        ((session.issue (.connect profile)).run acts, some result) := by
  obtain ⟨acts, result, hcomes, halong, -, hperform⟩ :=
    hrest.perform_comesTo hanswers.binds hanswers.target
  obtain ⟨hresult, -⟩ := hrest.concludes hanswers.binds hanswers.target hcomes halong
  have htimely : isTimely session.options session.network.script = true := decide_eq_true htime
  rw [dialFate, htimely, hanswers.fate_eq] at hresult
  refine ⟨acts, result, ⟨hcomes, ?_⟩, hperform⟩
  rw [hresult]
  exact signedIn_ne_timedOut _ _

end

theorem answers_direct (body : List UInt8) :
    Answers ((initial .standard).run
      [.cue (.reply Service.auth.protocol (.body body))]).network.script
      Profile.Sample.direct body := by
  refine ⟨binds_direct rfl, hasTarget_direct, rfl, ?_⟩
  show (Script.setReply _ _ _).replyTo Service.auth.protocol = .body body
  simp [Script.setReply, Script.replyTo]

/-- A connect and a call that are answered with the same body, which can be read, fail alike: if
the connect is rejected, the call fails with that error, and the two agree on all errors if the
body hides none.  If it does, the call fails with that error, and the connect comes up. -/
theorem sign_in_misses_just_wrapped_errors (options : Options) (before : List Act)
    (profile : Profile) (body : List UInt8) (value : Json.Value)
    (hread : Json.readBytes body = .ok value) (hopen : Act.issue .shutdown ∉ before)
    (hanswers : Answers ((initial options).run before).network.script profile body) :
    let session := (initial options).run before
    (∀ acts result, session.EndsInTime profile acts result →
      ∀ called inquiry, IsAnswered called inquiry body →
        let rejected (message : String) := result = .error (.handshake (.rejected message))
        let reported (message : String) := (ask called inquiry).2 = .error (.remote message)
        (∀ message, rejected message → reported message) ∧
          ((∀ message, rejected message ↔ reported message) ↔ ∀ message, ¬ Hides value message) ∧
          ∀ message, Hides value message → reported message ∧ result = .ok () ∧
            ((session.issue (.connect profile)).run acts).phase = .connected) ∧
      ((∀ call ∈ session.calls, call.stage.isDone = true) →
        session.network.script.delay.nanos ≤ options.connectTimeout.nanos →
        ∃ acts result, session.EndsInTime profile acts result ∧
          session.perform (.connect profile) =
            ((session.issue (.connect profile)).run acts, some result)) := by
  intro session
  constructor
  · intro acts result hends called inquiry hanswered rejected reported
    obtain ⟨hresult, hphase⟩ := hends.result_eq (sound_run options before)
      (logged_run options before) (heedsShutdown_run options before)
      (isShutDown_eq_false_of_run hopen) hanswers
    have hrejected (message : String) : rejected message ↔ Signals value message := by
      rw [← signedIn_eq_rejected_iff hread, ← hresult]
    have hreported (message : String) :
        reported message ↔ Signals value message ∨ Hides value message :=
      ask_eq_remote_iff hread hanswered
    refine ⟨?_, ?_, ?_⟩
    · intro message hsignals
      exact (hreported message).mpr (.inl ((hrejected message).mp hsignals))
    · simp only [hrejected, hreported]
      constructor
      · intro hagree message hhides
        exact hhides.1 message ((hagree message).mpr (.inr hhides))
      · intro hopenly message
        simp [hopenly message]
    · intro message hhides
      have hok : result = .ok () := hresult.trans ((signedIn_eq_ok_iff hread).mpr hhides.1)
      refine ⟨(hreported message).mpr (.inr hhides), hok, ?_⟩
      rw [hphase, hok]
      rfl
  · intro hdone htime
    have hrest : session.AtRest := atRest_run hopen hdone
    have hoptions : session.options = options := options_run options before
    exact hrest.exists_endsInTime hanswers (hoptions.symm ▸ htime)

/-- A rejection that is wrapped in nothing makes a connect and a call fail. -/
theorem plain_rejection_is_seen_by_both :
    let body := Text.Utf8.bytesOf "\x7b\"error\":\"denied\"\x7d"
    let session := (initial .standard).run [.cue (.reply Service.auth.protocol (.body body))]
    let called := sampleSession.cue (.reply Service.timeline.protocol (.body body))
    (session.perform (.connect Profile.Sample.direct)).2 =
        some (.error (.handshake (.rejected "denied"))) ∧
      (ask called (.feed 20)).2 = .error (.remote "denied") := by
  intro body session called
  have hreads : (Json.readBytes body).toOption.isSome = true := by decide +kernel
  obtain ⟨value, hread⟩ : ∃ value, Json.readBytes body = .ok value := by
    cases hread : Json.readBytes body with
    | error fault => simp [hread, Except.toOption] at hreads
    | ok value => exact ⟨value, rfl⟩
  have hsignals : Signals value "denied" :=
    (signedIn_eq_rejected_iff hread).mp (by decide +kernel)
  have hopenly (message : String) : ¬ Hides value message := fun hhides => hhides.1 _ hsignals
  have hanswered : IsAnswered called (.feed 20) body := isAnswered_sampleSession _ _
  obtain ⟨halike, hperforms⟩ := sign_in_misses_just_wrapped_errors .standard
    [.cue (.reply Service.auth.protocol (.body body))] Profile.Sample.direct body value hread
    (by simp) (answers_direct body)
  obtain ⟨acts, result, hends, hperform⟩ := hperforms (by decide) (Nat.zero_le _)
  obtain ⟨-, hagree, -⟩ := halike acts result hends called (.feed 20) hanswered
  have hreported : (ask called (.feed 20)).2 = .error (.remote "denied") :=
    (ask_eq_remote_iff hread hanswered).mpr (.inl hsignals)
  have hrejected := (hagree.mpr hopenly "denied").mpr hreported
  refine ⟨?_, hreported⟩
  show (session.perform (.connect Profile.Sample.direct)).2 = _
  rw [hperform, hrejected]

/-- A rejection in an envelope makes a call fail, and a connect comes up on it. -/
theorem wrapped_rejection_comes_up :
    let body := Text.Utf8.bytesOf "\x7b\"data\":\x7b\"error\":\"denied\"\x7d\x7d"
    let session := (initial .standard).run [.cue (.reply Service.auth.protocol (.body body))]
    let called := sampleSession.cue (.reply Service.timeline.protocol (.body body))
    let performed := session.perform (.connect Profile.Sample.direct)
    performed.2 = some (.ok ()) ∧ performed.1.phase = .connected ∧
      (ask called (.feed 20)).2 = .error (.remote "denied") := by
  intro body session called performed
  have hrest : session.AtRest := atRest_run (by simp) (by decide)
  obtain ⟨acts, result, hends, hperform⟩ :=
    hrest.exists_endsInTime (answers_direct body) (Nat.zero_le _)
  obtain ⟨hresult, hphase⟩ :=
    hends.result_eq hrest.sound hrest.logged hrest.heeds hrest.isOpen (answers_direct body)
  have hok : result = .ok () := hresult.trans (by decide +kernel)
  have hreported : (ask called (.feed 20)).2 = .error (.remote "denied") := by decide +kernel
  refine ⟨?_, ?_, hreported⟩
  · rw [show performed = _ from hperform, hok]
  · rw [show performed = _ from hperform, hphase, hok]
    rfl

end NodeLink.Session
