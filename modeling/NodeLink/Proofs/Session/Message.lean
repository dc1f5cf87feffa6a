import NodeLink.Proofs.Session.Loss
/-!
# Messages

A message goes out as one request on the link that a connected session rests on, and its
sender gets what the request brings.  All else stays as it is, unless the request finds
that the connection is gone.
-/

namespace NodeLink.Session

open NodeLink.Rehearsal (Network LinkId)

section

variable {session : Session} {id : Nat} {call : Call} {link : LinkId}

/-! ## Every link carries every service -/

theorem registered_turn {later : Session} (hturn : Turn session id call later) :
    later.network.registered = session.network.registered ∨
      later.network.registered = session.network.registered ++ [Service.protocols] := by
  cases hturn with
  | overtaken | refused | left | connected | fell | ended | shutDown => exact .inl rfl
  | cleared | failed => exact .inl (Network.registered_release _ _)
  | hindered => exact .inl (Network.registered_release _ _)
  | bound =>
      right
      refine (Network.registered_resolveEach _ _ _).trans ?_
      simp [Network.registered, Rehearsal.Link.bound]
  | dialed => exact .inl (Network.registered_record _ _ _)
  | signedIn =>
      left
      refine (Network.registered_request _ _ _ _).trans ?_
      exact Network.registered_modify _ _ fun _ => rfl

/-- Links are bound with the protocols of all services. -/
def BindsServices (session : Session) : Prop :=
  ∀ protocols ∈ session.network.registered, protocols = Service.protocols

theorem BindsServices.afterDeed {later : Session} (hbinds : session.BindsServices)
    (hdeed : session.Deed later) : later.BindsServices := by
  have hkept (hsame : later.network.registered = session.network.registered) :
      later.BindsServices := by
    unfold BindsServices
    rw [hsame]
    exact hbinds
  cases hdeed with
  | issued | lost | waited | enrolled => exact hbinds
  | turned hcall hholder hturn =>
      rcases registered_turn hturn with hsame | hgrown
      · exact hkept hsame
      · intro protocols hmem
        rw [hgrown] at hmem
        rcases List.mem_append.mp hmem with hold | hnew
        · exact hbinds protocols hold
        · exact List.mem_singleton.mp hnew
  | sent hphase hlink service payload => exact hkept (Network.registered_request _ _ _ _)
  | resolved => exact hkept (Network.registered_resolveEach _ _ _)
  | cued cue => exact hkept (Network.registered_cue _ cue)

theorem bindsServices_run (options : Options) (acts : List Act) :
    ((initial options).run acts).BindsServices := by
  apply run_induction
  · intro session later _ hdeed hbinds
    exact hbinds.afterDeed hdeed
  · intro protocols hmem
    cases hmem

theorem BindsServices.mem_protocols {record : Rehearsal.Link} (hbinds : session.BindsServices)
    (hrecord : session.network.link? link = some record) (service : Service) :
    service.protocol ∈ record.protocols := by
  have hregistered : record.protocols ∈ session.network.registered :=
    List.mem_map_of_mem (List.mem_of_getElem? hrecord)
  rw [hbinds _ hregistered]
  cases service with
  | auth | timeline | post | notifications | messages =>
      simp [Service.protocols, Service.all]

/-! ## What a request brings -/

/-- What the node has to say to a request, if the connection is still there. -/
def answerOn (session : Session) (record : Rehearsal.Link) (service : Service) :
    Except Link.Error (List UInt8) :=
  if record.lost then .error (.connectionLost Network.lossReason)
  else (session.network.script.replyTo service.protocol).result

theorem request_eq_answerOn {record : Rehearsal.Link} (hbinds : session.BindsServices)
    (hrecord : session.network.link? link = some record) (hdialed : record.dialed = true)
    (hopen : record.closed = false) (service : Service) (payload : List UInt8) :
    (session.network.request link service.protocol payload).2 =
      session.answerOn record service := by
  have hprotocol := hbinds.mem_protocols hrecord service
  unfold answerOn
  cases hlost : record.lost with
  | false =>
      have hup : record.isUp = true := by simp [Rehearsal.Link.isUp, hdialed, hlost, hopen]
      exact Network.request_result hrecord hprotocol hup payload
  | true =>
      have hnoted : (session.network.record link (.request service.protocol payload)).link? link =
          some (record.record (.request service.protocol payload)) := by
        rw [Network.link?_record_self, hrecord, Option.map_some]
      simp [Network.request, Network.reply, hnoted, Rehearsal.Link.record, hprotocol, hdialed,
        hopen, hlost]

/-! ## What a message does -/

/-- What sending a message on a link does, where the transport has this answer to it. -/
structure Conveys (session : Session) (link : LinkId) (service : Service) (payload : List UInt8)
    (answer : Except Link.Error (List UInt8)) (sent : Session × Except Error (List UInt8)) :
    Prop where
  recorded : ∃ record lost, session.network.link? link = some record ∧
    sent.1.network.link? link = some { record with
      calls := record.calls ++ [.request service.protocol payload]
      replies := record.replies ++ [answer.toOption]
      lost }
  elsewhere : session.network.AgreesOff link sent.1.network
  answered : ∀ body, answer = .ok body → sent.2 = .ok body
  dropped : ∀ error, answer = .error error → sent.2 = .error (.dropped error) ∧
    (Error.dropped error).message = "transport dropped: " ++ error.message
  kept : answer ≠ .error .notConnected → (∀ reason, answer ≠ .error (.connectionLost reason)) →
    sent.1 = { session with network := sent.1.network }
  lost : (answer = .error .notConnected ∨ ∃ reason, answer = .error (.connectionLost reason)) →
    { session with network := sent.1.network }.HasLost sent.1

theorem endsConnection_eq_true_iff {error : Link.Error} :
    error.endsConnection = true ↔
      error = .notConnected ∨ ∃ reason, error = .connectionLost reason := by
  cases error <;> simp [Link.Error.endsConnection]

theorem conveys_send (hsound : session.Sound) (hconsistent : session.Consistent)
    (hphase : session.phase = .connected) (hlink : session.holdings.link = some link)
    (service : Service) (payload : List UInt8) :
    session.Conveys link service payload
      (session.network.request link service.protocol payload).2
      (session.send service payload) := by
  obtain ⟨record, hrecord, -⟩ :=
    Network.isOpen_eq_true_iff.mp (hsound.holdsOpen.isOpen hlink)
  obtain ⟨lost, hafter⟩ := Network.link?_request_self hrecord service.protocol payload
  have hnetwork := network_send hphase hlink service payload
  have hsend := send_of_held hphase hlink service payload
  refine ⟨⟨record, lost, hrecord, ?_⟩, ?_, ?_, ?_, ?_, ?_⟩
  · rw [hnetwork]
    exact hafter
  · rw [hnetwork]
    exact session.network.agreesOff_request link service.protocol payload
  · intro body hanswer
    rw [hsend, hanswer]
  · intro error hanswer
    rw [hsend, hanswer]
    exact ⟨rfl, rfl⟩
  · intro hthere hholds
    rw [hnetwork, hsend]
    cases hanswer : (session.network.request link service.protocol payload).2 with
    | ok body => rfl
    | error error =>
        have hends : ¬ error.endsConnection = true := by
          rw [endsConnection_eq_true_iff]
          rintro (rfl | ⟨reason, rfl⟩)
          · exact hthere hanswer
          · exact hholds reason hanswer
        simp only [if_neg hends]
        rfl
  · intro hlost
    have herror : ∃ error, (session.network.request link service.protocol payload).2 =
        .error error ∧ error.endsConnection = true := by
      rcases hlost with hanswer | ⟨reason, hanswer⟩
      · exact ⟨_, hanswer, rfl⟩
      · exact ⟨_, hanswer, rfl⟩
    obtain ⟨error, hanswer, hends⟩ := herror
    rw [hnetwork, send_of_lost hlink hphase hanswer hends]
    exact hasLost_noteLoss (hsound.afterDeed (.sent hphase hlink service payload)) hconsistent
      hlink hphase

end

/-- A message that is sent while the session is not connected, or while its link is being
taken down, is refused, and nothing happens.  Otherwise it goes out once, on the link that
was dialed and accepted for the profile of the session, and the sender gets what the node
replies or learns why there is no reply.  The session is changed only by the loss of its
connection. -/
theorem message_is_one_request (options : Options) (acts : List Act) (service : Service)
    (payload : List UInt8) :
    let session := (initial options).run acts
    let sent := session.send service payload
    (session.phase ≠ .connected ∨ session.holdings.link = none →
      sent = (session, .error .notConnected)) ∧
    ∀ link, session.phase = .connected → session.holdings.link = some link →
      ∃ profile record, session.holdings.profile = some profile ∧
        session.network.openLinks = [link] ∧ session.network.link? link = some record ∧
        Serves options.userAgent profile link record ∧
        session.Conveys link service payload (session.answerOn record service) sent := by
  intro session sent
  have hsound : session.Sound := sound_run options acts
  have hlogged : session.Logged := logged_run options acts
  have hconsistent : session.Consistent :=
    Board.initial_consistent.afterSteps (steps_run (initial_sound options) acts)
  refine ⟨?_, ?_⟩
  · rintro (hphase | hlink)
    · exact send_of_not_connected hphase service payload
    · simp only [sent, send, hlink, ite_self]
  · intro link hphase hlink
    obtain ⟨profile, hprofile⟩ :=
      Option.isSome_iff_exists.mp (hsound.rests_of_connected hphase hlink)
    obtain ⟨record, hrecord, hopen⟩ :=
      Network.isOpen_eq_true_iff.mp (hsound.holdsOpen.isOpen hlink)
    have hserves := hlogged.serves link profile record hphase hlink hprofile hrecord
    have hanswer := request_eq_answerOn (bindsServices_run options acts) hrecord hserves.dialed
      hopen service payload
    have hconveys := conveys_send hsound hconsistent hphase hlink service payload
    rw [hanswer] at hconveys
    have hoptions : session.options = options := options_run options acts
    rw [hoptions] at hserves
    refine ⟨profile, record, hprofile, ?_, hrecord, hserves, hconveys⟩
    rw [openLinks_eq_toList hsound.holdsOpen, hlink, Option.toList_some]

end NodeLink.Session
