import Mathlib.Order.Nat
import NodeLink.Proofs.Rehearsal.History
import NodeLink.Rehearsal.Drill
/-!
# What overlapping calls can rely on

Cues, dials, requests, resolutions and closings may come in any order on the links of a
rehearsed network, and anything may happen while a dial is under way.  A link is up once a dial
on it has succeeded, until its connection is lost or it is closed; a loss lasts until a dial
succeeds, a closing for good.  A request brings what the script says just if its link is up.
-/

namespace NodeLink.Rehearsal.Interplay

/-- Whatever reply is given for a protocol, a request brings just that one.  A single result does
not tell: what a lost link reports is also what a request reports on which a link gets lost. -/
def FollowsScript (network : Network) (id : LinkId) (protocol : String) : Prop :=
  ∀ reply payload,
    ((network.cue (.reply protocol reply)).request id protocol payload).2 = reply.result

def Move.callOn? (id : LinkId) : Move → Option Call
  | .call link made => if link = id then some made else none
  | _ => none

/-- How a dial ends, as the script said when it began, unless its link is closed. -/
def Dial.outcome (dial : Dial) : Except Link.Error Unit :=
  match dial.failure with
  | some reason => .error (.dialFailed reason)
  | none => .ok ()

/-- How a dial under way would end now. -/
structure Ends (interplay : Interplay) (dial : Dial) (result : Except Link.Error Unit) :
    Prop where
  closed : .called dial.link .close ∈ interplay.past → result = .error .notConnected
  asScripted : .called dial.link .close ∉ interplay.past → result = dial.outcome

/-- What a request on a registered protocol would bring now. -/
structure Brings (interplay : Interplay) (id : LinkId) (protocol : String)
    (result : Except Link.Error (List UInt8)) : Prop where
  up : interplay.network.isUp id = true →
    result = (currentReply interplay.past protocol).result
  unconnected : .called id .close ∈ interplay.past ∨ .dialed id (.ok ()) ∉ interplay.past →
    result = .error .notConnected
  lost : .called id .close ∉ interplay.past → .dialed id (.ok ()) ∈ interplay.past →
    IsLost interplay.past id → result = .error (.connectionLost Network.lossReason)
  onlyUp : currentReply interplay.past protocol ≠ .lost →
    (result = (currentReply interplay.past protocol).result ↔ interplay.network.isUp id = true)

/-- What holds at each moment.  Dials on a closed link fail, and so do requests; a request on a
registered protocol brings the current reply just if its link is up; every call is recorded when
it is made, but closings only once, and those links are open that have recorded none. -/
structure KeepsLaws (interplay : Interplay) : Prop where
  made : ∀ move id, callsOn (interplay.perform move).past id =
    callsOn interplay.past id ++
      (if id ∈ boundLinks interplay.past then (move.callOn? id).toList else [])
  up : ∀ id, interplay.network.isUp id = true ↔
    .dialed id (.ok ()) ∈ interplay.past ∧ ¬ IsLost interplay.past id ∧
      .called id .close ∉ interplay.past
  dials : ∀ number dial, interplay.dials[number]? = some dial → ∃ result,
    interplay.Ends dial result ∧
      (interplay.perform (.endDial number)).past =
        interplay.past ++ [.dialed dial.link result]
  requests : ∀ id protocol payload, IsRegistered interplay.past id protocol → ∃ result,
    interplay.Brings id protocol result ∧
      (interplay.perform (.call id (.request protocol payload))).past =
        interplay.past ++
          [.called id (.request protocol payload), .answered id protocol result]
  scripted : ∀ id protocol, IsRegistered interplay.past id protocol →
    (FollowsScript interplay.network id protocol ↔ interplay.network.isUp id = true)
  recorded : ∀ id,
    interplay.network.recorded id = Call.firstClose (callsOn interplay.past id)
  closings : ∀ id, (interplay.network.recorded id).count .close ≤ 1
  openLinks : interplay.network.openLinks =
    (boundLinks interplay.past).filter fun id => .close ∉ interplay.network.recorded id

/-! ## Runs -/

/-- What happened accounts for the network, and dials are under way on bound links only. -/
structure Faithful (interplay : Interplay) : Prop where
  accounts : AccountsFor interplay.past interplay.network
  dials : ∀ dial ∈ interplay.dials, dial.link < interplay.network.links.length

theorem faithful_initial : initial.Faithful where
  accounts := accountsFor_initial
  dials := fun _ hmem => absurd hmem List.not_mem_nil

namespace Faithful

variable {interplay : Interplay} (hfaithful : interplay.Faithful)

include hfaithful

theorem note {events : List Event} {later : Network}
    (haccounts : AccountsFor (interplay.past ++ events) later)
    (hsize : interplay.network.links.length ≤ later.links.length) :
    (interplay.note events later).Faithful :=
  ⟨haccounts, fun dial hmem => Nat.lt_of_lt_of_le (hfaithful.dials dial hmem) hsize⟩

theorem make {id : LinkId} (hlt : id < interplay.network.links.length) (call : Call) :
    (interplay.make id call).Faithful := by
  have haccounts := hfaithful.accounts
  have hsize (call : Call) := (interplay.network.agreesOff_record id call).size
  cases call with
  | resolve entry =>
      have hresolved := (haccounts.called hlt (.resolve entry) nofun).resolved
        ((hsize _).symm ▸ hlt) entry (interplay.network.resolve id entry).2
      rw [List.append_assoc] at hresolved
      exact hfaithful.note hresolved (hsize _).ge
  | dial target =>
      have hnoted := hfaithful.note (haccounts.called hlt (.dial target) nofun) (hsize _).ge
      refine ⟨hnoted.accounts, fun dial hmem => ?_⟩
      rcases List.mem_append.mp hmem with hold | hnew
      · exact hnoted.dials dial hold
      · rw [List.mem_singleton.mp hnew]
        exact (hsize _).symm ▸ hlt
  | request protocol payload =>
      have hanswered := (haccounts.called hlt (.request protocol payload) nofun).answered
        ((hsize _).symm ▸ hlt) protocol
      rw [List.append_assoc] at hanswered
      exact hfaithful.note hanswered
        (interplay.network.agreesOff_request id protocol payload).size.ge
  | close =>
      exact hfaithful.note (haccounts.closed hlt) (interplay.network.agreesOff_close id).size.ge

theorem endDial (number : Nat) : (interplay.endDial number).Faithful := by
  unfold Interplay.endDial
  cases hdial : interplay.dials[number]? with
  | none => exact hfaithful
  | some dial =>
      have hlt := hfaithful.dials dial (List.mem_of_getElem? hdial)
      have hnoted := hfaithful.note (hfaithful.accounts.dialed hlt dial.failure)
        (interplay.network.agreesOff_endDial dial.link dial.failure).size.ge
      exact ⟨hnoted.accounts, fun other hmem =>
        hnoted.dials other (List.mem_of_mem_eraseIdx hmem)⟩

theorem perform (move : Move) : (interplay.perform move).Faithful := by
  cases move with
  | cue given =>
      exact hfaithful.note (hfaithful.accounts.cued given) (interplay.network.size_cue given).ge
  | bind terms =>
      exact hfaithful.note (hfaithful.accounts.bound_link terms)
        (interplay.network.size_le_bind terms)
  | call id call =>
      simp only [Interplay.perform]
      split
      next hlt => exact hfaithful.make hlt call
      next => exact hfaithful
  | endDial number => exact hfaithful.endDial number

theorem run (moves : List Move) : (moves.foldl Interplay.perform interplay).Faithful := by
  induction moves generalizing interplay with
  | nil => exact hfaithful
  | cons move moves ih => exact ih (hfaithful.perform move)

/-! ### The laws -/

theorem ends {dial : Dial} (hdial : dial ∈ interplay.dials) :
    interplay.Ends dial (interplay.network.endDial dial.link dial.failure).2 := by
  have hopen := hfaithful.accounts.isOpen_iff (hfaithful.dials dial hdial)
  unfold Network.endDial
  constructor
  · intro hclosed
    rw [if_neg fun hisOpen => hopen.mp hisOpen hclosed]
  · intro hnone
    rw [if_pos (hopen.mpr hnone), Dial.outcome]
    cases dial.failure <;> rfl

theorem exists_ends {number : Nat} {dial : Dial} (hdial : interplay.dials[number]? = some dial) :
    ∃ result, interplay.Ends dial result ∧
      (interplay.perform (.endDial number)).past =
        interplay.past ++ [.dialed dial.link result] := by
  refine ⟨_, hfaithful.ends (List.mem_of_getElem? hdial), ?_⟩
  simp only [Interplay.perform, Interplay.endDial, hdial]
  rfl

theorem brings {id : LinkId} {protocol : String} (payload : List UInt8)
    (hregistered : IsRegistered interplay.past id protocol) :
    interplay.Brings id protocol (interplay.network.request id protocol payload).2 := by
  obtain ⟨link, hlink, hprotocol⟩ := hfaithful.accounts.exists_registered hregistered
  have hstands := hfaithful.accounts.links id link hlink
  have hisUp : interplay.network.isUp id = link.isUp := by simp [Network.isUp, hlink]
  have hup (hlinkUp : link.isUp = true) :
      (interplay.network.request id protocol payload).2 =
        (currentReply interplay.past protocol).result := by
    rw [Network.request_result hlink hprotocol hlinkUp, hfaithful.accounts.replies]
  have hdown (hlinkDown : link.isUp = false) :=
    Network.request_result_of_down hlink hprotocol hlinkDown payload
  constructor
  · rw [hisUp]
    exact hup
  · rw [← hstands.closed, ← hstands.dialed]
    intro hunconnected
    have hlinkDown : link.isUp = false := by
      rcases hunconnected with hclosed | hdialed
      · simp [Link.isUp, hclosed]
      · simp [Link.isUp, hdialed]
    rw [hdown hlinkDown]
    exact if_pos (by simpa using hunconnected)
  · rw [← hstands.closed, ← hstands.dialed]
    intro hopen hdialed hlost
    rw [← hstands.lost hdialed] at hlost
    rw [hdown (by simp [Link.isUp, hlost])]
    exact if_neg (by simp [hopen, hdialed])
  · rw [hisUp]
    refine fun hreply => ⟨fun hsame => ?_, hup⟩
    by_contra hnotUp
    rw [hdown (Bool.not_eq_true _ ▸ hnotUp)] at hsame
    -- neither of the two errors is what such a reply comes to
    cases hcurrent : currentReply interplay.past protocol with
    | lost => exact hreply hcurrent
    | body | timeout | reset =>
        rw [hcurrent] at hsame
        split at hsame <;> cases hsame

theorem exists_brings {id : LinkId} {protocol : String} (payload : List UInt8)
    (hregistered : IsRegistered interplay.past id protocol) :
    ∃ result, interplay.Brings id protocol result ∧
      (interplay.perform (.call id (.request protocol payload))).past =
        interplay.past ++
          [.called id (.request protocol payload), .answered id protocol result] := by
  obtain ⟨link, hlink, -⟩ := hfaithful.accounts.exists_registered hregistered
  have hlt : id < interplay.network.links.length := (List.getElem?_eq_some_iff.mp hlink).1
  refine ⟨_, hfaithful.brings payload hregistered, ?_⟩
  simp only [Interplay.perform, if_pos hlt]
  rfl

theorem followsScript_iff {id : LinkId} {protocol : String}
    (hregistered : IsRegistered interplay.past id protocol) :
    FollowsScript interplay.network id protocol ↔ interplay.network.isUp id = true := by
  obtain ⟨link, hlink, hprotocol⟩ := hfaithful.accounts.exists_registered hregistered
  have hcued (reply : Reply) :
      (interplay.network.cue (.reply protocol reply)).link? id = some link := hlink
  have hup : interplay.network.isUp id = link.isUp := by simp [Network.isUp, hlink]
  rw [hup]
  constructor
  · intro hfollows
    by_contra hdown
    rw [Bool.not_eq_true] at hdown
    -- a link that is down never says that time is up
    have htimeout := hfollows .timeout []
    rw [Network.request_result_of_down (hcued .timeout) hprotocol hdown] at htimeout
    split at htimeout <;> cases htimeout
  · intro hup reply payload
    rw [Network.request_result (hcued reply) hprotocol hup]
    simp [Network.cue, Script.cue, Script.setReply, Script.replyTo]

theorem callsOn_perform (move : Move) (id : LinkId) :
    callsOn (interplay.perform move).past id = callsOn interplay.past id ++
      if id ∈ boundLinks interplay.past then (move.callOn? id).toList else [] := by
  have hnoted (events : List Event) : callsOn (interplay.past ++ events) id =
      callsOn interplay.past id ++ callsOn events id := List.filterMap_append
  simp only [hfaithful.accounts.bound, List.mem_range]
  cases move with
  | cue given => exact (hnoted _).trans (by simp [callsOn, Event.callOn?, Move.callOn?])
  | bind terms => exact (hnoted _).trans (by simp [callsOn, Event.callOn?, Move.callOn?])
  | endDial number =>
      simp only [Interplay.perform, Interplay.endDial]
      cases interplay.dials[number]? with
      | none => simp [Move.callOn?]
      | some dial => exact (hnoted _).trans (by simp [callsOn, Event.callOn?, Move.callOn?])
  | call link call =>
      simp only [Interplay.perform]
      by_cases hlink : link = id
      · subst link
        split
        next =>
          cases call <;> exact (hnoted _).trans (by simp [callsOn, Event.callOn?, Move.callOn?])
        next => rw [List.append_nil]
      · have hother : (Move.call link call).callOn? id = none := if_neg hlink
        rw [hother, Option.toList_none, ite_self, List.append_nil]
        split
        next => cases call <;> exact (hnoted _).trans (by simp [callsOn, Event.callOn?, hlink])
        next => rfl

theorem keepsLaws : KeepsLaws interplay where
  made := hfaithful.callsOn_perform
  up := fun _ => hfaithful.accounts.isUp_iff
  dials := fun _ _ hdial => hfaithful.exists_ends hdial
  requests := fun _ _ payload hregistered => hfaithful.exists_brings payload hregistered
  scripted := fun _ _ hregistered => hfaithful.followsScript_iff hregistered
  recorded := fun _ => hfaithful.accounts.recorded_eq
  closings := fun _ => by
    rw [hfaithful.accounts.recorded_eq]
    exact Call.count_firstClose_le _
  openLinks := hfaithful.accounts.openLinks_eq

end Faithful

theorem faithful_run (moves : List Move) : (run moves).Faithful :=
  faithful_initial.run moves

theorem past_perform (interplay : Interplay) (move : Move) :
    interplay.past <+: (interplay.perform move).past := by
  cases move with
  | cue | bind => exact List.prefix_append _ _
  | call id call =>
      simp only [perform]
      split
      next => cases call <;> exact List.prefix_append _ _
      next => exact List.prefix_rfl
  | endDial number =>
      simp only [perform, endDial]
      cases interplay.dials[number]? with
      | none => exact List.prefix_rfl
      | some dial => exact List.prefix_append _ _

theorem past_foldl_perform (interplay : Interplay) (moves : List Move) :
    interplay.past <+: (moves.foldl perform interplay).past := by
  induction moves generalizing interplay with
  | nil => exact List.prefix_rfl
  | cons move moves ih => exact (interplay.past_perform move).trans (ih _)

/-- However calls overlap, the links of a rehearsed network keep the laws at each moment; what
has happened stays so, and a link that was closed once is never up again. -/
theorem overlapping_calls_keep_laws (moves latter : List Move) :
    KeepsLaws (run moves) ∧
      (run moves).past <+: (run (moves ++ latter)).past ∧
      ∀ id, .called id .close ∈ (run moves).past →
        (run (moves ++ latter)).network.isUp id = false := by
  have hpast : (run moves).past <+: (run (moves ++ latter)).past := by
    rw [run, run, List.foldl_append]
    exact past_foldl_perform _ latter
  refine ⟨(faithful_run moves).keepsLaws, hpast, fun id hclosed => ?_⟩
  rw [← Bool.not_eq_true, (faithful_run _).accounts.isUp_iff]
  exact fun hup => hup.2.2 (hpast.mem hclosed)

/-- While a second dial is under way the connection is lost, and when that dial ends it is there
again; a third one is under way while the link is closed. -/
example :
    let target : Target := ⟨"node", .host ['a'] 80 .any, none⟩
    let ask : Move := .call 0 (.request "/feed" [])
    (run [.bind ⟨none, ["/feed"]⟩, .call 0 (.dial target), .endDial 0,
      .cue (.delayDial (some (.ofMillis 5))), .call 0 (.dial target), .cue .cut, ask, .endDial 0,
      ask, .call 0 (.dial target), .call 0 .close, .endDial 0, ask]).past =
    let dial : Event := .called 0 (.dial target)
    let asked : Event := .called 0 (.request "/feed" [])
    [.bound ⟨none, ["/feed"]⟩ (.ok 0), dial, .dialed 0 (.ok ()),
      .cued (.delayDial (some (.ofMillis 5))), dial, .cued .cut,
      asked, .answered 0 "/feed" (.error (.connectionLost Network.lossReason)),
      .dialed 0 (.ok ()), asked, .answered 0 "/feed" (.ok [0x7B, 0x7D]), dial, .called 0 .close,
      .dialed 0 (.error .notConnected), asked, .answered 0 "/feed" (.error .notConnected)] := by
  rfl

/-! ## Drills -/

/-- Some moves lead from a network to another one, and no dial is under way before or after. -/
def Leads (network later : Network) : Prop :=
  ∀ past, ∃ moves : List Move, ∃ after,
    moves.foldl perform ⟨network, [], past⟩ = ⟨later, [], after⟩

theorem Leads.refl (network : Network) : Leads network network :=
  fun past => ⟨[], past, rfl⟩

theorem Leads.trans {network later last : Network} (hfirst : Leads network later)
    (hsecond : Leads later last) : Leads network last := by
  intro past
  obtain ⟨former, between, hformer⟩ := hfirst past
  obtain ⟨latter, after, hlatter⟩ := hsecond between
  exact ⟨former ++ latter, after, by rw [List.foldl_append, hformer, hlatter]⟩

/-- A step of a drill; its dial ends before anything else happens. -/
theorem leads_drill (network : Network) (step : Drill.Step) :
    Leads network (Drill.run network step).1 := by
  cases step with
  | cue given => exact fun past => ⟨[.cue given], _, rfl⟩
  | bind terms => exact fun past => ⟨[.bind terms], _, rfl⟩
  | status id => exact .refl network
  | resolve id entry =>
      by_cases hlt : id < network.links.length
      · exact fun past => ⟨[.call id (.resolve entry)], _, if_pos hlt⟩
      · simp only [Drill.run, Network.resolve, Network.record, Network.modify_of_unbound hlt]
        exact .refl network
  | request id protocol payload =>
      by_cases hlt : id < network.links.length
      · exact fun past => ⟨[.call id (.request protocol payload)], _, if_pos hlt⟩
      · simp only [Drill.run, Network.request, Network.reply, Network.record,
          Network.modify_of_unbound hlt, Network.link?_of_unbound hlt]
        exact .refl network
  | close id =>
      by_cases hlt : id < network.links.length
      · exact fun past => ⟨[.call id .close], _, if_pos hlt⟩
      · simp only [Drill.run, Network.close, Network.isOpen, Network.link?_of_unbound hlt]
        exact .refl network
  | dial id peer address =>
      simp only [Drill.run, Drill.dial]
      cases Address.read address with
      | error error => exact .refl network
      | ok address =>
          by_cases hlt : id < network.links.length
          · exact fun past => ⟨[.call id (.dial ⟨peer, address⟩), .endDial 0], _,
              congrArg (fun interplay => endDial interplay 0) (if_pos hlt)⟩
          · simp only [Network.startDial, Network.endDial, Network.record, Network.isOpen,
              Network.modify_of_unbound hlt, Network.link?_of_unbound hlt]
            exact .refl network

/-- All that a drill comes to can come of an interplay. -/
theorem exists_run_of_drill (steps : List Drill.Step) :
    ∃ moves, (run moves).network =
      steps.foldl (fun network step => (Drill.run network step).1) Network.initial := by
  have hleads (network : Network) :
      Leads network (steps.foldl (fun network step => (Drill.run network step).1) network) := by
    induction steps generalizing network with
    | nil => exact .refl network
    | cons step steps ih => exact (leads_drill network step).trans (ih _)
  obtain ⟨moves, after, hmoves⟩ := hleads Network.initial []
  exact ⟨moves, congrArg Interplay.network hmoves⟩

end NodeLink.Rehearsal.Interplay
