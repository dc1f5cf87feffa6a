import Mathlib.Data.List.Forall2
import NodeLink.Exchange.Calls
import NodeLink.Profile.Samples
import NodeLink.Proofs.Session.Veil
/-!
# Secrets stay secret

Two runs in which the same happens, but with profiles of different secrets, look
the same: every call ends the same way, the same phases are announced, and the
network records the same, but for the payload of what is sent to sign in and for
the bytes of the keys that links are bound with.
-/

namespace NodeLink.Session

open NodeLink.Rehearsal (Network LinkId)

/-- Two sessions differ in secrets only. -/
def Alike (session other : Session) : Prop := other.veiled = session.veiled

theorem Request.alike_cases {request other : Request} (halike : other.veiled = request.veiled) :
    (∃ profile otherProfile, request = .connect profile ∧ other = .connect otherProfile ∧
        otherProfile.veiled = profile.veiled) ∨ other = request := by
  cases request with
  | connect profile =>
      cases other with
      | connect otherProfile =>
          exact .inl ⟨profile, otherProfile, rfl, rfl, Request.connect.inj halike⟩
      | disconnect | shutdown => cases halike
  | disconnect =>
      cases other with
      | disconnect => exact .inr rfl
      | connect | shutdown => cases halike
  | shutdown =>
      cases other with
      | shutdown => exact .inr rfl
      | connect | disconnect => cases halike

namespace Alike

variable {session other : Session} {profile otherProfile : Profile} {id : CallId}

theorem withNetwork {network otherNetwork : Network} (halike : session.Alike other)
    (hnetwork : otherNetwork.veiled = network.veiled) :
    { session with network }.Alike { other with network := otherNetwork } := by
  show { other.veiled with network := otherNetwork.veiled } =
    { session.veiled with network := network.veiled }
  rw [halike, hnetwork]

theorem network_eq (halike : session.Alike other) :
    other.network.veiled = session.network.veiled := congrArg Session.network halike

theorem now_eq (halike : session.Alike other) : other.now = session.now := by
  show other.veiled.now = session.veiled.now
  rw [halike]

theorem options_eq (halike : session.Alike other) : other.options = session.options := by
  show other.veiled.options = session.veiled.options
  rw [halike]

theorem holder_eq (halike : session.Alike other) : other.holder = session.holder := by
  show other.veiled.holder = session.veiled.holder
  rw [halike]

theorem isOvertaken_eq {call otherCall : Call} (halike : session.Alike other)
    (hcall : otherCall.veiled = call.veiled) :
    other.isOvertaken otherCall = session.isOvertaken call := by
  show other.veiled.isOvertaken otherCall.veiled = session.veiled.isOvertaken call.veiled
  rw [halike, hcall]

theorem giveUp (halike : session.Alike other) (error : Error) :
    (session.giveUp id error).Alike (other.giveUp id error) := by
  unfold Alike
  rw [giveUp_veiled, giveUp_veiled, halike]

theorem finish (halike : session.Alike other) (result : Except Error Unit) :
    (session.finish id result).Alike (other.finish id result) := by
  unfold Alike
  rw [finish_veiled, finish_veiled, halike]

/-- Whatever is sent to sign in, the answer is the same. -/
theorem signIn (halike : session.Alike other) (link : LinkId) :
    (session.signIn id profile link).Alike (other.signIn id otherProfile link) := by
  have hpayload := fun payload => session.network.request_auth_veiled link payload
  have hotherPayload := fun payload => other.network.request_auth_veiled link payload
  rw [halike.network_eq] at hotherPayload
  obtain ⟨hnetwork, hanswer⟩ := Prod.mk.inj ((hotherPayload _).symm.trans (hpayload _))
  unfold Alike Session.signIn
  dsimp only
  rw [hanswer, setStage_veiled, setStage_veiled, halike.withNetwork hnetwork]

theorem endDial (halike : session.Alike other) (dial : Dial) :
    (session.endDial id profile dial).Alike (other.endDial id otherProfile dial) := by
  have hend := session.network.endDial_veiled dial.link dial.failure
  have hotherEnd := other.network.endDial_veiled dial.link dial.failure
  rw [halike.network_eq] at hotherEnd
  obtain ⟨hnetwork, hresult⟩ := Prod.mk.inj (hotherEnd.symm.trans hend)
  have hcomes (instant : Instant) : instant ≤ other.now ↔ instant ≤ session.now := by
    rw [halike.now_eq]
  unfold Session.endDial
  by_cases hwake : dial.wake ≤ session.now
  · rw [if_pos hwake, if_pos ((hcomes _).mpr hwake)]
    revert hnetwork hresult
    rcases session.network.endDial dial.link dial.failure with ⟨network, result⟩
    rcases other.network.endDial dial.link dial.failure with ⟨otherNetwork, otherResult⟩
    rintro hnetwork ⟨⟩
    have hmoved := halike.withNetwork hnetwork
    cases result with
    | error error => exact hmoved.giveUp _
    | ok _ => exact hmoved.signIn _
  · rw [if_neg hwake, if_neg (mt (hcomes _).mp hwake)]
    by_cases hdeadline : dial.deadline ≤ session.now
    · rw [if_pos hdeadline, if_pos ((hcomes _).mpr hdeadline), halike.options_eq]
      exact halike.giveUp _
    · rw [if_neg hdeadline, if_neg (mt (hcomes _).mp hdeadline)]
      exact halike

theorem advanceConnect {call otherCall : Call} (halike : session.Alike other)
    (hcall : otherCall.veiled = call.veiled)
    (hprofile : otherProfile.veiled = profile.veiled) :
    (session.advanceConnect id call profile).Alike
      (other.advanceConnect id otherCall otherProfile) := by
  have hovertaken := halike.isOvertaken_eq hcall
  have hstage : otherCall.stage = call.stage := by
    show otherCall.veiled.stage = call.veiled.stage
    rw [hcall]
  unfold Session.advanceConnect
  rw [hstage]
  cases call.stage with
  | queued =>
      unfold Alike
      rw [beginConnect_veiled, beginConnect_veiled, halike, hcall]
  | cleared =>
      have hstarted : (session.startOver profile).Alike (other.startOver otherProfile) := by
        unfold Alike
        rw [startOver_veiled, startOver_veiled, halike, hprofile]
      dsimp only
      rw [hstarted.isOvertaken_eq hcall]
      split_ifs
      · exact hstarted.finish _
      · unfold Alike
        rw [setUp_veiled, setUp_veiled, hstarted, hprofile]
  | bound link deadline =>
      dsimp only
      rw [hovertaken]
      split_ifs
      · exact halike.finish _
      · unfold Alike
        rw [startDial_veiled, startDial_veiled, halike, hprofile]
  | dialing dial =>
      dsimp only
      rw [hovertaken]
      split_ifs
      · exact halike.finish _
      · exact halike.endDial dial
  | answered link verdict =>
      dsimp only
      rw [hovertaken]
      split_ifs
      · exact halike.finish _
      · unfold Alike
        rw [conclude_veiled, conclude_veiled, halike, hprofile]
  | dropped error =>
      unfold Alike
      rw [finish_veiled, finish_veiled, moveTo_veiled, moveTo_veiled, halike]
  | done result => exact halike

theorem advance (halike : session.Alike other) (id : CallId) :
    (session.advance id).Alike (other.advance id) := by
  have hcalls : other.calls[id]?.map Call.veiled = session.calls[id]?.map Call.veiled := by
    rw [← List.getElem?_map, ← List.getElem?_map]
    show other.veiled.calls[id]? = session.veiled.calls[id]?
    rw [halike]
  unfold Session.advance
  rw [halike.holder_eq]
  revert hcalls
  rcases session.calls[id]? with _ | call <;> rcases other.calls[id]? with _ | otherCall
  · exact fun _ => halike
  · intro hcalls
    cases hcalls
  · intro hcalls
    cases hcalls
  · intro hcalls
    have hcall := Option.some.inj hcalls
    have hrequest : otherCall.request.veiled = call.request.veiled := congrArg Call.request hcall
    dsimp only
    split_ifs
    · obtain ⟨profile, otherProfile, hfirst, hsecond, hprofile⟩ | hsame :=
        Request.alike_cases hrequest
      · rw [hfirst, hsecond]
        exact halike.advanceConnect hcall hprofile
      · rw [hsame]
        cases call.request with
        | connect profile => exact halike.advanceConnect hcall rfl
        | disconnect =>
            unfold Alike
            rw [advanceDisconnect_veiled, advanceDisconnect_veiled, halike, hcall]
        | shutdown =>
            unfold Alike
            rw [advanceShutdown_veiled, advanceShutdown_veiled, halike, hcall]
    · exact halike

end Alike

/-! ## Runs -/

/-- Two acts differ at most in the secrets of a profile. -/
inductive Act.Alike : Act → Act → Prop
  | same (act : Act) : Alike act act
  | connect {profile other : Profile} (halike : profile.Alike other) :
      Alike (.issue (.connect profile)) (.issue (.connect other))

theorem Alike.issue {session other : Session} {request otherRequest : Request}
    (halike : session.Alike other) (hrequest : otherRequest.veiled = request.veiled) :
    (session.issue request).Alike (other.issue otherRequest) := by
  unfold Alike
  rw [issue_veiled, issue_veiled, halike, hrequest]

theorem Alike.send {session other : Session} (halike : session.Alike other) (service : Service)
    (payload : List UInt8) :
    (session.send service payload).1.Alike (other.send service payload).1 ∧
      (other.send service payload).2 = (session.send service payload).2 := by
  have hsend := session.send_veiled service payload
  have hotherSend := other.send_veiled service payload
  rw [halike] at hotherSend
  exact Prod.mk.inj (hotherSend.symm.trans hsend)

theorem Alike.act {session other : Session} {act otherAct : Act} (halike : session.Alike other)
    (hact : act.Alike otherAct) : (session.act act).Alike (other.act otherAct) := by
  cases hact with
  | connect hprofile => exact halike.issue (congrArg Request.connect hprofile.veiled_eq)
  | same act =>
      cases act with
      | issue request => exact halike.issue rfl
      | advance id => exact halike.advance id
      | send service payload => exact (halike.send service payload).1
      | report link =>
          unfold Alike
          show (other.noteLoss link).veiled = (session.noteLoss link).veiled
          rw [noteLoss_veiled, noteLoss_veiled, halike]
      | refresh task =>
          show (other.runTask task).veiled = (session.runTask task).veiled
          rw [runTask_veiled, runTask_veiled, halike]
      | wait instant =>
          show other.veiled.wait instant = session.veiled.wait instant
          rw [halike]
      | cue cue =>
          show (other.cue cue).veiled = (session.cue cue).veiled
          rw [cue_veiled, cue_veiled, halike]
      | listen listener =>
          show other.veiled.listen listener = session.veiled.listen listener
          rw [halike]
      | unlisten name =>
          show other.veiled.unlisten name = session.veiled.unlisten name
          rw [halike]

theorem Alike.run {session other : Session} {acts otherActs : List Act}
    (halike : session.Alike other) (hacts : List.Forall₂ Act.Alike acts otherActs) :
    (session.run acts).Alike (other.run otherActs) := by
  induction hacts generalizing session other with
  | nil => exact halike
  | cons hact _ ih => exact ih (halike.act hact)

/-! ## What is seen -/

/-- Two sessions cannot be told apart from outside: by what calls come to, by what
requests are answered, by what is announced, noted and printed, by when something
can happen next, or by what the network records, the payloads of requests to sign
in and the bytes of keys apart. -/
structure LooksLike (session other : Session) : Prop where
  results : ∀ id, other.result? id = session.result? id
  replies : ∀ service payload, (other.send service payload).2 = (session.send service payload).2
  answers : ∀ inquiry, (Exchange.ask other inquiry).2 = (Exchange.ask session inquiry).2
  announced : other.announced = session.announced
  phase : other.phase = session.phase
  latest : other.latest = session.latest
  isUp : other.isUp = session.isUp
  link : other.holdings.link = session.holdings.link
  events : other.events.map Event.veiled = session.events.map Event.veiled
  texts : other.holdings.profile.map Profile.redacted =
    session.holdings.profile.map Profile.redacted
  binds : other.network.binds.map Link.Terms.veiled = session.network.binds.map Link.Terms.veiled
  bindTexts : other.network.binds.map Link.Terms.redacted =
    session.network.binds.map Link.Terms.redacted
  calls : other.network.links.map (·.calls.map Rehearsal.Call.veiled) =
    session.network.links.map (·.calls.map Rehearsal.Call.veiled)
  ready : other.readyCall? = session.readyCall?
  timer : other.nextTimer? = session.nextTimer?

/-- A call on the node is answered from the reply to one request. -/
theorem ask_congr {session other : Session} {inquiry : Exchange.Inquiry}
    (hreply : (other.send inquiry.service inquiry.payload).2 =
      (session.send inquiry.service inquiry.payload).2) :
    (Exchange.ask other inquiry).2 = (Exchange.ask session inquiry).2 := by
  unfold Exchange.ask
  revert hreply
  rcases session.send inquiry.service inquiry.payload with ⟨later, reply⟩
  rcases other.send inquiry.service inquiry.payload with ⟨otherLater, otherReply⟩
  rintro ⟨⟩
  cases reply with
  | error error => rfl
  | ok body =>
      dsimp only
      cases Exchange.interpret body <;> rfl

theorem Alike.looksLike {session other : Session} (halike : session.Alike other) :
    session.LooksLike other where
  results id := by rw [← result?_veiled, halike, result?_veiled]
  replies service payload := (halike.send service payload).2
  answers inquiry := ask_congr (halike.send _ _).2
  announced := by rw [← announced_veiled, halike, announced_veiled]
  phase := congrArg (·.toBoard.phase) halike
  latest := congrArg (·.toBoard.latest) halike
  isUp := by rw [← isUp_veiled, halike, isUp_veiled]
  link := congrArg (·.holdings.link) halike
  events := congrArg (·.toBoard.events) halike
  texts := by
    have hprofile : other.holdings.profile.map Profile.veiled =
        session.holdings.profile.map Profile.veiled := congrArg (·.holdings.profile) halike
    have htexts := congrArg (·.map Profile.redacted) hprofile
    simpa [Function.comp_def, Profile.redacted_veiled] using htexts
  binds := congrArg Network.binds halike.network_eq
  bindTexts := by
    have htexts := congrArg (·.binds.map Link.Terms.redacted) halike.network_eq
    simpa [Network.veiled, Function.comp_def, Link.Terms.redacted_veiled] using htexts
  calls := by
    have hcalls := congrArg (·.links.map Rehearsal.Link.calls) halike.network_eq
    simpa [Network.veiled, Function.comp_def, Rehearsal.Link.veiled] using hcalls
  ready := by rw [← readyCall?_veiled, halike, readyCall?_veiled]
  timer := by rw [← nextTimer?_veiled, halike, nextTimer?_veiled]

/-- Runs in which the same happens with profiles of different secrets look the
same at every moment, and nothing that is printed of a profile tells its secrets. -/
theorem secrets_stay_secret (options : Options) {acts otherActs : List Act}
    (hacts : List.Forall₂ Act.Alike acts otherActs) :
    (∀ count, ((initial options).run (acts.take count)).LooksLike
        ((initial options).run (otherActs.take count))) ∧
      ∀ profile other : Profile, profile.Alike other → other.redacted = profile.redacted := by
  refine ⟨fun count => ?_, fun _ _ => Profile.Alike.redacted_eq⟩
  have halike : (initial options).Alike (initial options) := rfl
  exact (halike.run (List.forall₂_take count hacts)).looksLike

/-- Another token and another key of the same size. -/
def disguised : Profile :=
  { Profile.Sample.full with token := "a token of its own", key := some ⟨List.replicate 32 7⟩ }

theorem disguised_connect_looks_alike :
    let goOn : List Act := [.advance 0, .advance 0, .advance 0, .advance 0, .advance 0]
    let acts : List Act := .issue (.connect Profile.Sample.full) :: goOn
    let otherActs : List Act := .issue (.connect disguised) :: goOn
    List.Forall₂ Act.Alike acts otherActs ∧
      ((initial .standard).run acts).result? 0 = some (.ok ()) ∧
      ((initial .standard).run otherActs).result? 0 = some (.ok ()) ∧
      ((initial .standard).run otherActs).network.links ≠
        ((initial .standard).run acts).network.links ∧
      ((initial .standard).run acts).LooksLike ((initial .standard).run otherActs) := by
  intro goOn acts otherActs
  have hprofile : Profile.Sample.full.Alike disguised := ⟨rfl, by decide, by decide⟩
  have hacts : List.Forall₂ Act.Alike acts otherActs :=
    .cons (.connect hprofile) (List.forall₂_same.mpr fun act _ => .same act)
  have hlooks := (secrets_stay_secret .standard hacts).1 6
  have hresult : ((initial .standard).run acts).result? 0 = some (.ok ()) := by decide +kernel
  exact ⟨hacts, hresult, (hlooks.results 0).trans hresult, by decide +kernel, hlooks⟩

end NodeLink.Session
