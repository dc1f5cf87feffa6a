import NodeLink.Profile.Samples
import NodeLink.Proofs.Session.Grounds
import NodeLink.Proofs.Session.Path
/-!
# Stale losses

A request may find its connection lost long after the session has gone on to another
link, has ended or has failed.  Only the link that a connected session rests on can be
lost to it, and it is lost once: the session fails then, and no session rests again on
a link that has been given up.  So a loss that is reported late concerns nobody.
-/

namespace NodeLink.Session

open NodeLink.Rehearsal (Network LinkId)

/-! ## What a loss does -/

/-- A session that was connected has failed.  It announces that once, stops the task that
refreshes discovery and holds on to the rest. -/
structure HasLost (session later : Session) : Prop where
  phase : later.phase = .failed
  latest : later.latest = .failed
  announcements : ∃ scene, later.announcements = session.announcements ++ [⟨.failed, scene⟩]
  heard : ∀ id ∈ session.roster.ids, later.heard id = session.heard id ++ [.failed]
  halted : ∀ task ∈ later.tasks, task.live = false
  holdings : later.holdings = { session.holdings with task := none }
  line : later.toLine = session.toLine
  network : later.network = session.network

section

variable {session later : Session} {id : Nat} {call : Call} {link : LinkId}

theorem noteLoss_of_held (hlink : session.holdings.link = some link)
    (hphase : session.phase = .connected) :
    session.noteLoss link = session.stopRefresh.moveTo .failed :=
  if_pos ⟨hlink, hphase⟩

theorem hasLost_noteLoss (hsound : session.Sound) (hconsistent : session.Consistent)
    (hlink : session.holdings.link = some link) (hphase : session.phase = .connected) :
    session.HasLost (session.noteLoss link) := by
  have hother : session.stopRefresh.phase ≠ .failed := by
    show session.phase ≠ .failed
    simp [hphase]
  have hlater := hsound.afterDeed (.lost hphase hlink)
  have hannounced : (session.stopRefresh.moveTo .failed).toBoard =
      { session.toBoard with phase := .failed }.announce session.stopRefresh.scene .failed :=
    if_neg hother
  rw [noteLoss_of_held hlink hphase]
  refine ⟨phase_moveTo _ _, ?_, ⟨session.stopRefresh.scene, ?_⟩, ?_, hlater.tends.halted rfl,
    rfl, rfl, rfl⟩
  · rw [hannounced, Board.latest_announce]
  · rw [hannounced, Board.announcements_announce]
  · intro id hid
    have hheard := Board.heard_announce { session.toBoard with phase := .failed }
      session.stopRefresh.scene .failed id hconsistent.wellFormed
    rw [hannounced, hheard, if_pos hid]
    rfl

theorem noteLoss_ne_self_iff :
    session.noteLoss link ≠ session ↔
      session.holdings.link = some link ∧ session.phase = .connected := by
  constructor
  · intro hchanged
    by_contra hother
    exact hchanged (if_neg hother)
  · rintro ⟨hlink, hphase⟩ hsame
    have hfailed : (session.noteLoss link).phase = .failed := by
      rw [noteLoss_of_held hlink hphase]
      exact phase_moveTo _ _
    rw [hsame, hphase] at hfailed
    cases hfailed

/-- A request that finds its connection lost leaves the session to note that. -/
theorem send_of_lost {service : Service} {payload : List UInt8} {error : Link.Error}
    (hlink : session.holdings.link = some link) (hphase : session.phase = .connected)
    (hanswer : (session.network.request link service.protocol payload).2 = .error error)
    (hends : error.endsConnection = true) :
    session.send service payload =
      ((session.sent link service payload).noteLoss link, .error (.dropped error)) := by
  rw [send_of_held hphase hlink, hanswer]
  simp only [hends, if_true]

/-! ## Spent links -/

/-- A link that was bound and on which no session is connected any more. -/
def IsSpent (session : Session) (link : LinkId) : Prop :=
  link < session.network.links.length ∧
    (session.holdings.link = some link → session.phase = .failed)

theorem IsSpent.noteLoss (hspent : session.IsSpent link) : session.noteLoss link = session := by
  apply if_neg
  rintro ⟨hlink, hphase⟩
  simp [hspent.2 hlink] at hphase

/-- A turn drops the link that a session holds, puts one in its place that it has just
bound, or keeps it and leaves the phase, unless the session was on its way up. -/
theorem Turn.link_cases (hturn : Turn session id call later) (hsound : session.Sound)
    (hcall : session.calls[id]? = some call) (hholder : session.holder = some id) :
    later.holdings.link = none ∨ later.holdings.link = some session.network.links.length ∨
      later.holdings.link = session.holdings.link ∧
        (later.phase = session.phase ∨ session.phase = .connecting) := by
  have hfits := hsound.fits_call hcall hholder
  cases hturn with
  | overtaken | refused | dialed | signedIn => exact .inr (.inr ⟨rfl, .inl rfl⟩)
  | cleared | hindered | failed => exact .inl rfl
  | left hrequest hstage | ended hrequest hstage | shutDown hrequest hstage =>
      rw [hstage] at hfits
      exact .inl hfits.1
  | bound => exact .inr (.inl rfl)
  | connected hrequest hstage =>
      rw [hstage] at hfits
      exact .inr (.inr ⟨rfl, .inr hfits.phase_eq⟩)
  | fell hrequest hstage =>
      rw [hstage] at hfits
      exact .inl hfits.2.2.1

theorem IsSpent.afterTurn (hspent : session.IsSpent link) (hsound : session.Sound)
    (hcall : session.calls[id]? = some call) (hholder : session.holder = some id)
    (hturn : Turn session id call later) : later.IsSpent link := by
  obtain ⟨hlt, hfailed⟩ := hspent
  constructor
  · rcases size_touches hsound hcall hholder hturn.touches with hsize | ⟨hsize, -⟩
    · rwa [hsize]
    · rw [hsize]
      exact Nat.lt_succ_of_lt hlt
  · intro hheld
    rcases hturn.link_cases hsound hcall hholder with hnone | hnew | ⟨hsame, hphase⟩
    · simp [hnone] at hheld
    · rw [hnew, Option.some.injEq] at hheld
      exact absurd hlt (Nat.not_lt.mpr (Nat.le_of_eq hheld))
    · have hformer := hfailed (hsame ▸ hheld)
      rcases hphase with hkept | hconnecting
      · exact hkept.trans hformer
      · simp [hformer] at hconnecting

theorem IsSpent.afterDeed (hspent : session.IsSpent link) (hsound : session.Sound)
    (hdeed : session.Deed later) : later.IsSpent link := by
  cases hdeed with
  | turned hcall hholder hturn => exact hspent.afterTurn hsound hcall hholder hturn
  | sent hphase hlink service payload =>
      rename_i held
      have hsize := (session.network.agreesOff_request held service.protocol payload).size
      exact ⟨hsize ▸ hspent.1, hspent.2⟩
  | lost => exact ⟨hspent.1, fun _ => phase_moveTo _ _⟩
  | resolved htask hlive hdue =>
      rename_i id task
      have hsize := (session.network.agreesOff_resolveEach task.link task.entries).size
      exact ⟨hsize ▸ hspent.1, hspent.2⟩
  | cued cue => exact ⟨session.network.size_cue cue ▸ hspent.1, hspent.2⟩
  | issued | waited | enrolled => exact hspent

theorem IsSpent.afterDeeds (hspent : session.IsSpent link) (hsound : session.Sound)
    (hdeeds : session.Deeds later) : later.IsSpent link := by
  apply deeds_induction (motive := (IsSpent · link)) ?_ hsound hdeeds hspent
  intro former later hformer hdeed hspent
  exact hspent.afterDeed hformer hdeed

/-! ## Losses that are announced -/

/-- An announcement that a link is lost: a connect that fails has dropped its link. -/
def Announcement.tellsLoss (announcement : Announcement) (link : LinkId) : Bool :=
  announcement.phase = .failed && announcement.scene.holdings.link = some link

def losses (session : Session) (link : LinkId) : Nat :=
  session.announcements.countP (·.tellsLoss link)

/-- A link whose loss was announced is spent by that. -/
structure LostOnce (session : Session) (link : LinkId) : Prop where
  losses_le : session.losses link ≤ 1
  spent : session.losses link ≠ 0 → session.IsSpent link

theorem not_tellsLoss_of_isGrounded {announcement : Announcement}
    (hgrounded : session.IsGrounded (.advance id) announcement) (link : LinkId) :
    announcement.tellsLoss link = false := by
  obtain ⟨phase, scene⟩ := announcement
  simp only [IsGrounded] at hgrounded
  cases hholdings : scene.holdings with
  | mk profile held task =>
      rw [hholdings] at hgrounded
      cases hgrounded with
      | down | setsOut | arrives | fails => simp [Announcement.tellsLoss, hholdings]
      | loses hloss => cases hloss

theorem losses_turn (hsound : session.Sound) (hlogged : session.Logged)
    (hattributed : session.Attributed) (hcall : session.calls[id]? = some call)
    (hholder : session.holder = some id) (hturn : Turn session id call later) (link : LinkId) :
    later.losses link = session.losses link := by
  obtain ⟨news, hnews, hgrounded⟩ :=
    adds_turn hsound hlogged hattributed hcall hholder hturn
  have hnone : news.countP (·.tellsLoss link) = 0 := by
    rw [List.countP_eq_zero]
    intro announcement hmem
    rw [not_tellsLoss_of_isGrounded (hgrounded announcement hmem)]
    exact Bool.false_ne_true
  simp only [losses, hnews, List.countP_append, hnone, Nat.add_zero]

theorem losses_lost {held : LinkId} (hlink : session.holdings.link = some held)
    (hphase : session.phase = .connected) (link : LinkId) :
    (session.stopRefresh.moveTo .failed).losses link =
      session.losses link + if held = link then 1 else 0 := by
  have hother : session.stopRefresh.phase ≠ .failed := by
    show session.phase ≠ .failed
    simp [hphase]
  have hgrown : (session.stopRefresh.moveTo .failed).announcements =
      session.announcements ++ [⟨.failed, session.stopRefresh.scene⟩] :=
    Board.announcements_moveTo_of_ne session.stopRefresh.scene hother
  have htells : Announcement.tellsLoss ⟨.failed, session.stopRefresh.scene⟩ link =
      decide (held = link) := by
    simp [Announcement.tellsLoss, scene, stopRefresh, hlink]
  simp only [losses, hgrown, List.countP_append, List.countP_singleton, htells,
    decide_eq_true_eq]

theorem LostOnce.afterDeed (honce : session.LostOnce link) (hsound : session.Sound)
    (hlogged : session.Logged) (hattributed : session.Attributed)
    (hdeed : session.Deed later) : later.LostOnce link := by
  have hkept (hsame : later.losses link = session.losses link) : later.LostOnce link := by
    refine ⟨hsame ▸ honce.losses_le, fun hlosses => ?_⟩
    exact (honce.spent (hsame ▸ hlosses)).afterDeed hsound hdeed
  cases hdeed with
  | turned hcall hholder hturn =>
      exact hkept (losses_turn hsound hlogged hattributed hcall hholder hturn link)
  | lost hphase hlink =>
      rename_i held
      have hgrown := losses_lost hlink hphase link
      by_cases hself : held = link
      · subst hself
        -- a connected session does not rest on a spent link
        have hzero : session.losses held = 0 := by
          by_contra hlosses
          have hfailed := (honce.spent hlosses).2 hlink
          simp [hfailed] at hphase
        rw [if_pos rfl, hzero, Nat.zero_add] at hgrown
        refine ⟨Nat.le_of_eq hgrown, fun _ => ⟨?_, fun _ => phase_moveTo _ _⟩⟩
        exact Network.lt_length_of_isOpen (hsound.holdsOpen.isOpen hlink)
      · rw [if_neg hself, Nat.add_zero] at hgrown
        exact hkept hgrown
  | issued | sent | resolved | waited | cued | enrolled => exact hkept rfl

theorem lostOnce_run (options : Options) (acts : List Act) (link : LinkId) :
    ((initial options).run acts).LostOnce link := by
  have hall : ((initial options).run acts).Logged ∧ ((initial options).run acts).Attributed ∧
      ((initial options).run acts).LostOnce link := by
    apply run_induction
      (motive := fun session =>
        session.Logged ∧ session.Attributed ∧ session.LostOnce link)
    · rintro session later hsound hdeed ⟨hlogged, hattributed, honce⟩
      exact ⟨hlogged.afterDeed hsound hdeed, hattributed.afterDeed hsound hdeed,
        honce.afterDeed hsound hlogged hattributed hdeed⟩
    · refine ⟨initial_logged options, initial_attributed options, Nat.zero_le 1, ?_⟩
      intro hlosses
      exact absurd rfl hlosses
  exact hall.2.2

end

/-- The loss of a link changes a session if and only if the session is connected and
rests on that link.  Then it fails, announces that once, stops its task and keeps the
rest, and so it does when a request finds the loss out.  The loss of a link is announced
once at most, however many requests report it; and from then on, or once the session
has let go of the link, it never changes the session again. -/
theorem only_the_held_link_is_lost (options : Options) (acts : List Act) (link : LinkId) :
    let session := (initial options).run acts
    (session.noteLoss link ≠ session ↔
        session.holdings.link = some link ∧ session.phase = .connected) ∧
      (session.holdings.link = some link → session.phase = .connected →
        session.HasLost (session.noteLoss link) ∧
          ∀ service payload error,
            (session.network.request link service.protocol payload).2 = .error error →
            error.endsConnection = true →
            (session.sent link service payload).HasLost (session.send service payload).1 ∧
              (session.send service payload).2 = .error (.dropped error)) ∧
      session.losses link ≤ 1 ∧
      (session.losses link ≠ 0 ∨
          link < session.network.links.length ∧ session.holdings.link ≠ some link →
        ∀ after, (session.run after).noteLoss link = session.run after) := by
  intro session
  have hsound : session.Sound := sound_run options acts
  have hconsistent : session.Consistent :=
    Board.initial_consistent.afterSteps (steps_run (initial_sound options) acts)
  have honce : session.LostOnce link := lostOnce_run options acts link
  refine ⟨noteLoss_ne_self_iff, ?_, honce.losses_le, ?_⟩
  · intro hlink hphase
    refine ⟨hasLost_noteLoss hsound hconsistent hlink hphase, ?_⟩
    intro service payload error hanswer hends
    have hsent := hsound.afterDeed (.sent hphase hlink service payload)
    rw [send_of_lost hlink hphase hanswer hends]
    exact ⟨hasLost_noteLoss hsent hconsistent hlink hphase, rfl⟩
  · intro hover after
    have hspent : session.IsSpent link := by
      rcases hover with hlosses | ⟨hlt, hgone⟩
      · exact honce.spent hlosses
      · exact ⟨hlt, fun hlink => absurd hlink hgone⟩
    exact (hspent.afterDeeds hsound (session.deeds_run after)).noteLoss

/-- A session that lost its first link and is connected on another one: a request that
is still under way on the first link reports the loss once more. -/
theorem late_report_is_ignored :
    let connect : List Act := [.issue (.connect Profile.Sample.direct)]
    let acts : List Act :=
      connect ++ List.replicate 5 (.advance 0) ++ .report 0 :: connect ++
        List.replicate 5 (.advance 1)
    let session := (initial .standard).run acts
    session.phase = .connected ∧ session.holdings.link = some 1 ∧ session.losses 0 = 1 ∧
      session.noteLoss 1 ≠ session ∧
      ∀ after, (session.run after).noteLoss 0 = session.run after := by
  intro connect acts session
  have hphase : session.phase = .connected := by decide +kernel
  have hlink : session.holdings.link = some 1 := by decide +kernel
  have hlosses : session.losses 0 = 1 := by decide +kernel
  obtain ⟨hchanges, -⟩ := only_the_held_link_is_lost .standard acts 1
  obtain ⟨-, -, -, hspent⟩ := only_the_held_link_is_lost .standard acts 0
  refine ⟨hphase, hlink, hlosses, hchanges.mpr ⟨hlink, hphase⟩, hspent (.inl ?_)⟩
  show session.losses 0 ≠ 0
  simp [hlosses]

end NodeLink.Session
