import NodeLink.Proofs.Session.Footing
/-!
# One live link

At any moment, and whenever a phase is announced, the links that are open are the
one that the session rests on.  A connect binds its link in the middle of its
life and may be left there by failure, by the end of its time or by a newer call;
but the next call that goes on closes that link before anything else, and until
then the session holds it.
-/

namespace NodeLink.Session

open NodeLink.Rehearsal (Network LinkId)

/-- The holdings that are shown with an announcement go with the phase that is
announced, and the link among them is the one that is open. -/
structure Announcement.Sound (announcement : Announcement) : Prop where
  rests : Rests announcement.phase announcement.scene.holdings
  fresh : announcement.phase = .connecting → announcement.scene.holdings.link = none
  openLinks_eq : announcement.scene.openLinks = announcement.scene.holdings.link.toList

def Truthful (session : Session) : Prop :=
  ∀ announcement ∈ session.announcements, announcement.Sound

theorem openLinks_eq_toList {network : Network} {holdings : Holdings}
    (hopen : HoldsOpen network holdings) :
    network.openLinks = holdings.link.toList := by
  have hnodup : network.openLinks.Nodup := List.nodup_range.filter _
  cases hlink : holdings.link with
  | none =>
      rw [Option.toList_none, List.eq_nil_iff_forall_not_mem]
      intro link hmem
      rw [Network.mem_openLinks_iff, hopen, hlink] at hmem
      cases hmem
  | some held =>
      have hperm : network.openLinks.Perm [held] := by
        rw [List.perm_ext_iff_of_nodup hnodup (by simp)]
        intro link
        rw [Network.mem_openLinks_iff, hopen, hlink, List.mem_singleton, Option.some.injEq]
        exact eq_comm
      exact List.perm_singleton.mp hperm

/-! ## Announcements -/

section

variable {session : Session}

theorem truthful_moveTo {phase : Phase}
    (htruthful : session.Truthful)
    (hopen : HoldsOpen session.network session.holdings)
    (hrests : Rests phase session.holdings)
    (hfresh : phase = .connecting → session.holdings.link = none) :
    (session.moveTo phase).Truthful := by
  rcases session.toBoard.announcements_moveTo session.scene phase with hsame | hgrown
  · intro announcement hmem
    exact htruthful announcement (hsame ▸ hmem)
  · intro announcement hmem
    rcases List.mem_append.mp (hgrown ▸ hmem) with hold | hnew
    · exact htruthful announcement hold
    · obtain rfl := List.mem_singleton.mp hnew
      exact ⟨hrests, hfresh, openLinks_eq_toList hopen⟩

theorem truthful_startOver {profile : Profile}
    (htruthful : session.Truthful)
    (hopen : HoldsOpen session.network session.holdings)
    (hlink : session.holdings.link = none) (htask : session.holdings.task = none) :
    (session.startOver profile).Truthful := by
  have hdown : (session.setProfile none).comeDown.Truthful := by
    unfold comeDown Board.comeDown
    simp only
    split
    next =>
      have hnone : (session.setProfile none).holdings = .none := by
        simp [setProfile, hlink, htask, Holdings.none]
      exact truthful_moveTo htruthful hopen hnone fun hconnecting => by cases hconnecting
    next => exact htruthful
  exact truthful_moveTo hdown hopen ⟨rfl, htask⟩ fun _ => hlink

theorem truthful_endSession {id : Nat}
    (htruthful : session.Truthful)
    (hopen : HoldsOpen session.network session.holdings)
    (hlink : session.holdings.link = none) (htask : session.holdings.task = none) :
    (session.endSession id).Truthful := by
  have hnone : (session.setProfile none).holdings = .none := by
    simp [setProfile, hlink, htask, Holdings.none]
  exact truthful_moveTo htruthful hopen hnone fun hconnecting => by cases hconnecting

theorem truthful_turn {later : Session} {id : Nat} {call : Call} (hsound : session.Sound)
    (hcall : session.calls[id]? = some call) (hholder : session.holder = some id)
    (hturn : Turn session id call later)
    (htruthful : session.Truthful) :
    later.Truthful := by
  have hfits := hsound.fits_call hcall hholder
  cases hturn with
  | overtaken | refused | cleared | failed | dialed | signedIn => exact htruthful
  | left hrequest hstage hovertaken =>
      rw [hstage] at hfits
      exact truthful_startOver htruthful hsound.holdsOpen hfits.1 hfits.2.1
  | hindered hrequest hstage hnewest hobstacle binds =>
      rw [hstage] at hfits
      exact truthful_startOver htruthful hsound.holdsOpen hfits.1 hfits.2.1
  | bound hrequest hstage hnewest hobstacle binds =>
      rw [hstage] at hfits
      exact truthful_startOver htruthful hsound.holdsOpen hfits.1 hfits.2.1
  | connected hrequest hstage hnewest =>
      rw [hstage] at hfits
      refine truthful_moveTo htruthful hsound.holdsOpen ⟨hfits.profile, ?_⟩ (fun hconnecting => by
        cases hconnecting)
      exact Option.isSome_of_eq_some hfits.link_eq
  | fell hrequest hstage =>
      rw [hstage] at hfits
      refine truthful_moveTo htruthful hsound.holdsOpen ⟨hfits.2.1, hfits.2.2.2⟩ ?_
      intro hconnecting
      cases hconnecting
  | ended hrequest hstage =>
      rw [hstage] at hfits
      exact truthful_endSession htruthful hsound.holdsOpen hfits.1 hfits.2.1
  | shutDown hrequest hstage =>
      rw [hstage] at hfits
      exact truthful_endSession htruthful hsound.holdsOpen hfits.1 hfits.2.1

theorem truthful_deed {later : Session} (hsound : session.Sound) (hdeed : session.Deed later)
    (htruthful : session.Truthful) :
    later.Truthful := by
  cases hdeed with
  | turned hcall hholder hturn => exact truthful_turn hsound hcall hholder hturn htruthful
  | lost hphase hlink =>
      have hprofile := hsound.rests_of_connected hphase hlink
      have hopen : HoldsOpen session.stopRefresh.network session.stopRefresh.holdings :=
        hsound.holdsOpen
      exact truthful_moveTo htruthful hopen ⟨hprofile, rfl⟩ fun hconnecting => by cases hconnecting
  | issued | sent | resolved | waited | cued | enrolled => exact htruthful

theorem truthful_run (options : Options) (acts : List Act) :
    ((initial options).run acts).Truthful := by
  apply run_induction
  · intro session later hsound hdeed htruthful
    exact truthful_deed hsound hdeed htruthful
  · simp [Truthful, initial, Board.initial]

/-! ## Binding -/

theorem size_touches {network : Network} {id : Nat} {call : Call} (hsound : session.Sound)
    (hcall : session.calls[id]? = some call) (hholder : session.holder = some id)
    (htouches : Touches session call network) :
    network.links.length = session.network.links.length ∨
      network.links.length = session.network.links.length + 1 ∧
        session.holdings.link = none := by
  cases htouches with
  | nothing => exact .inl rfl
  | released => exact .inl (size_release _ _)
  | worked _ _ hagrees => exact .inl hagrees.size
  | bound hstage binds entries =>
      have hfits := hsound.fits_call hcall hholder
      rw [hstage] at hfits
      refine .inr ⟨?_, hfits.1⟩
      rw [(Network.agreesOff_resolveEach _ _ entries).size]
      simp

theorem network_noteLoss (session : Session) (link : LinkId) :
    (session.noteLoss link).network = session.network := by
  unfold noteLoss
  split
  next => rfl
  next => rfl

/-- Whatever comes of a request, and even if it finds the link lost, it was put on record. -/
theorem network_send {link : LinkId} (hphase : session.phase = .connected)
    (hlink : session.holdings.link = some link) (service : Service) (payload : List UInt8) :
    (session.send service payload).1.network =
      (session.network.request link service.protocol payload).1 := by
  rw [send_of_held hphase hlink]
  cases (session.network.request link service.protocol payload).2 with
  | ok body => rfl
  | error error =>
      simp only
      split
      next => exact network_noteLoss _ link
      next => rfl

theorem Sending.size_eq {later : Session} {service : Service} {payload : List UInt8}
    (hsending : Sending session service payload later) :
    later.network.links.length = session.network.links.length := by
  cases hsending with
  | refused => rfl
  | asked => exact (Network.agreesOff_request _ _ _ _).size
  | foundLost =>
      rw [network_noteLoss]
      exact (Network.agreesOff_request _ _ _ _).size

theorem size_act (hsound : session.Sound) (given : Act) :
    (session.act given).network.links.length = session.network.links.length ∨
      (session.act given).network.links.length = session.network.links.length + 1 ∧
        session.holdings.link = none := by
  cases given with
  | advance id =>
      rcases session.advance_eq_self_or_turn id with hrest | ⟨call, hcall, hholder, hturn⟩
      · exact .inl (congrArg (·.network.links.length) hrest)
      · exact size_touches hsound hcall hholder hturn.touches
  | send service payload => exact .inl (session.sending service payload).size_eq
  | report link => exact .inl (by rw [act, network_noteLoss])
  | refresh id =>
      left
      rcases session.runTask_eq_self_or_resolved id with hrest | ⟨task, -, -, -, hlater⟩
      · rw [act, hrest]
      · rw [act, hlater]
        exact (session.network.agreesOff_resolveEach task.link task.entries).size
  | cue cue => exact .inl (session.network.size_cue cue)
  | issue | wait | listen | unlisten => exact .inl rfl

end

/-! ## One live link -/

theorem held_or_closed {session : Session} (hsound : session.Sound) (given : Act) {link : LinkId}
    (hlink : session.holdings.link = some link) :
    (session.act given).holdings.link = some link ∨
      ∃ record, (session.act given).network.link? link = some record ∧
        record.closed = true := by
  have hlater := hsound.afterAct given
  have hlt := Network.lt_length_of_isOpen (hsound.holdsOpen.isOpen hlink)
  have hbound : link < (session.act given).network.links.length := by
    rcases size_act hsound given with hsame | ⟨hgrown, -⟩
    · rw [hsame]
      exact hlt
    · rw [hgrown]
      exact Nat.lt_succ_of_lt hlt
  by_cases hheld : (session.act given).holdings.link = some link
  · exact .inl hheld
  · right
    have hrecord : (session.act given).network.link? link =
        some (session.act given).network.links[link] := List.getElem?_eq_getElem hbound
    refine ⟨_, hrecord, ?_⟩
    rw [← hlater.holdsOpen, Network.isOpen_eq_true_iff] at hheld
    by_contra hopen
    exact hheld ⟨_, hrecord, Bool.not_eq_true _ ▸ hopen⟩

/-- In every state of every run, and whenever a phase is announced, the open links
are the one that the session holds.  A link leaves the session only to be closed,
and a link is bound only while none is open. -/
theorem one_live_link (options : Options) (acts : List Act) :
    let session := (initial options).run acts
    session.network.openLinks = session.holdings.link.toList ∧
      (∀ announcement ∈ session.announcements,
        announcement.scene.openLinks = announcement.scene.holdings.link.toList) ∧
      ∀ given : Act,
        (∀ link : LinkId, session.holdings.link = some link →
          (session.act given).holdings.link = some link ∨
            ∃ record, (session.act given).network.link? link = some record ∧
              record.closed = true) ∧
        ((session.act given).network.links.length ≠ session.network.links.length →
          session.network.openLinks = []) := by
  intro session
  have hsound : session.Sound := sound_run options acts
  have hopenLinks := openLinks_eq_toList hsound.holdsOpen
  refine ⟨hopenLinks, ?_, ?_⟩
  · intro announcement hmem
    exact (truthful_run options acts announcement hmem).openLinks_eq
  · intro given
    refine ⟨fun link hlink => held_or_closed hsound given hlink, ?_⟩
    intro hgrown
    rcases size_act hsound given with hsame | ⟨-, hnone⟩
    · exact absurd hsame hgrown
    · rw [hopenLinks, hnone, Option.toList_none]

end NodeLink.Session
