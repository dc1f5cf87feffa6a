import NodeLink.Exchange.Calls
import NodeLink.Profile.Samples
import NodeLink.Proofs.Exchange.Reply
import NodeLink.Proofs.Session.Turn
/-!
# Calls fail only by errors that are reported

A call that a node has answered fails just if the answer reports an error, and with
that error.  Whatever else the answer holds, or fails to hold, is a good answer, and
the session knows nothing of either.
-/

namespace NodeLink.Exchange

open NodeLink.Rehearsal (LinkId)

section

variable {session : Session} {inquiry : Inquiry} {link : LinkId} {body : List UInt8}

theorem ask_of_answered (hphase : session.phase = .connected)
    (hlink : session.holdings.link = some link)
    (hanswer : (session.network.request link inquiry.service.protocol inquiry.payload).2 =
      .ok body) :
    ask session inquiry =
      (session.sent link inquiry.service inquiry.payload,
        match interpret body with
        | .error message => .error (.remote message)
        | .ok reply? => .ok (inquiry.read reply?)) := by
  simp only [ask, Session.send_of_held hphase hlink, hanswer]
  cases interpret body with
  | error message => rfl
  | ok reply? => rfl

/-- The session is connected, and the node answers a call on it with a body. -/
def IsAnswered (session : Session) (inquiry : Inquiry) (body : List UInt8) : Prop :=
  session.phase = .connected ∧ ∃ link, session.holdings.link = some link ∧
    (session.network.request link inquiry.service.protocol inquiry.payload).2 = .ok body

/-- What comes of an answered call depends on nothing but the body. -/
theorem IsAnswered.ask_eq (hanswered : IsAnswered session inquiry body) :
    (ask session inquiry).2 =
      match interpret body with
      | .error message => .error (.remote message)
      | .ok reply? => .ok (inquiry.read reply?) := by
  obtain ⟨hphase, link, hlink, hanswer⟩ := hanswered
  rw [ask_of_answered hphase hlink hanswer]

/-- A connected session is answered as the script says. -/
theorem isAnswered_cue (inquiry : Inquiry) {record : Rehearsal.Link}
    (hphase : session.phase = .connected) (hlink : session.holdings.link = some link)
    (hrecord : session.network.link? link = some record)
    (hprotocol : inquiry.service.protocol ∈ record.protocols) (hup : record.isUp = true)
    (body : List UInt8) :
    IsAnswered (session.cue (.reply inquiry.service.protocol (.body body))) inquiry body := by
  let network := session.network.cue (.reply inquiry.service.protocol (.body body))
  have hscript : network.script.replyTo inquiry.service.protocol = .body body := by
    simp [network, Rehearsal.Network.cue, Rehearsal.Script.cue, Rehearsal.Script.setReply,
      Rehearsal.Script.replyTo]
  have hfound : network.link? link = some record := hrecord
  refine ⟨hphase, link, hlink, ?_⟩
  show (network.request link inquiry.service.protocol inquiry.payload).2 = .ok body
  rw [Rehearsal.Network.request_result hfound hprotocol hup, hscript]
  rfl

end

/-- A session that has come up, for a profile with a direct address. -/
def sampleSession : Session :=
  (Session.initial .standard).run
    [.issue (.connect Profile.Sample.direct), .advance 0, .advance 0, .advance 0, .advance 0,
      .advance 0]

theorem isAnswered_sampleSession (inquiry : Inquiry) (body : List UInt8) :
    IsAnswered (sampleSession.cue (.reply inquiry.service.protocol (.body body))) inquiry body := by
  have hphase : sampleSession.phase = .connected := by decide +kernel
  have hlink : sampleSession.holdings.link = some 0 := by decide +kernel
  have hbound : (sampleSession.network.link? 0).isSome = true := by decide +kernel
  obtain ⟨record, hrecord⟩ := Option.isSome_iff_exists.mp hbound
  have hserves : (sampleSession.network.link? 0).all fun record =>
      record.isUp && Service.all.all (record.protocols.contains ·.protocol) := by decide +kernel
  rw [hrecord, Option.all_some, Bool.and_eq_true, List.all_eq_true] at hserves
  have hprotocol := hserves.2 inquiry.service (by cases inquiry <;> simp [Inquiry.service, Service.all])
  rw [List.contains_iff_mem] at hprotocol
  exact isAnswered_cue inquiry hphase hlink hrecord hprotocol hserves.1 body

/-- A call that a node has answered fails with an error just if the answer reports that
error, and it succeeds if the answer reports none.  Nothing but the network has changed
in either case. -/
theorem answered_call_fails_as_reported (session : Session) (inquiry : Inquiry) (link : LinkId)
    (body : List UInt8) (hphase : session.phase = .connected)
    (hlink : session.holdings.link = some link)
    (hanswer : (session.network.request link inquiry.service.protocol inquiry.payload).2 =
      .ok body) :
    let asked := ask session inquiry
    (∀ message, asked.2 = .error (.remote message) ↔ Reports body message) ∧
      ((∀ message, ¬ Reports body message) → ∃ answer, asked.2 = .ok answer) ∧
      asked.1 = { session with network := asked.1.network } := by
  intro asked
  have hasked := ask_of_answered hphase hlink hanswer
  refine ⟨?_, ?_, ?_⟩
  · intro message
    simp only [asked, hasked, ← interpret_eq_error_iff]
    cases interpret body with
    | error found => simp
    | ok reply? => simp
  · intro hsilent
    simp only [asked, hasked]
    cases hread : interpret body with
    | error message => exact absurd (interpret_eq_error_iff.mp hread) (hsilent message)
    | ok reply? => exact ⟨_, rfl⟩
  · simp only [asked, hasked, Session.sent]

/-- An envelope that packs an error, which is not a text, as JSON text. -/
theorem packed_error_is_reported :
    let body := Text.Utf8.bytesOf "\x7b\"data\":\"\x7b\\\"error\\\":\x7b\\\"code\\\":3\x7d\x7d\"\x7d"
    let session := (Session.initial .standard).run
      [.cue (.reply Service.timeline.protocol (.body body)),
        .issue (.connect Profile.Sample.direct), .advance 0, .advance 0, .advance 0, .advance 0,
        .advance 0]
    session.phase = .connected ∧ session.holdings.link = some 0 ∧
      (session.network.request 0 Service.timeline.protocol (Inquiry.feed 20).payload).2 =
        .ok body ∧
      (ask session (.feed 20)).2 = .error (.remote "\x7b\"code\":3\x7d") ∧
      Reports body "\x7b\"code\":3\x7d" := by
  intro body session
  have hphase : session.phase = .connected := by decide +kernel
  have hlink : session.holdings.link = some 0 := by decide +kernel
  have hanswer : (session.network.request 0 Service.timeline.protocol
      (Inquiry.feed 20).payload).2 = .ok body := by decide +kernel
  have hfails : (ask session (.feed 20)).2 = .error (.remote "\x7b\"code\":3\x7d") := by
    decide +kernel
  obtain ⟨hreports, -, -⟩ :=
    answered_call_fails_as_reported session (.feed 20) 0 body hphase hlink hanswer
  exact ⟨hphase, hlink, hanswer, hfails, (hreports _).mp hfails⟩

end NodeLink.Exchange
