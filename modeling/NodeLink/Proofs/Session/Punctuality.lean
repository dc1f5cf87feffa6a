import NodeLink.Proofs.Session.LastCall
/-!
# Punctual clocks

A clock is punctual if time passes only while no call can go on, and never beyond
the next timer.  Under such a clock a connect begins to dial at the instant at
which it has bound its link, and neither the end of the dial nor the end of the
connect's time goes by unnoticed.  Under any clock, a dial that takes no time is
over as soon as it has begun.
-/

namespace NodeLink.Session

open NodeLink.Rehearsal (LinkId)

/-- A punctual clock lets an act happen. -/
def Punctual (session : Session) : Act → Prop
  | .wait instant => (∀ id : Nat, session.isReady id = false) ∧
      ∀ timer : Nat, session.nextTimer? = some timer → instant ≤ timer
  | _ => True

section

variable {issued session later : Session} {tasks id : Nat} {call next : Call} {dial : Dial}
  {link : LinkId} {deadline : Instant}

theorem Turn.now_eq (hturn : Turn session id call later) : later.now = session.now := by
  cases hturn with
  | overtaken | refused | cleared | left | hindered | bound | failed | dialed | signedIn
  | connected | fell | ended | shutDown => rfl

theorem Turn.dialing (hturn : Turn session id call later)
    (hcall : session.calls[id]? = some call) (hnext : later.calls[id]? = some next)
    (hstage : next.stage = .dialing dial) :
    call.stage = .bound dial.link dial.deadline ∧
      dial.wake = session.now + session.network.script.delay.nanos := by
  cases hturn with
  | dialed hrequest hbound =>
      obtain rfl := Line.eq_of_modify_self hcall hnext
      obtain rfl := Stage.dialing.inj hstage
      exact ⟨hbound, rfl⟩
  | overtaken | refused | cleared | left | hindered | bound | failed | signedIn | connected
  | fell | ended | shutDown =>
      obtain rfl := Line.eq_of_modify_self hcall hnext
      cases hstage

theorem Turn.bound_deadline (hturn : Turn session id call later)
    (hcall : session.calls[id]? = some call) (hnext : later.calls[id]? = some next)
    (hstage : next.stage = .bound link deadline) :
    deadline = session.now + session.options.connectTimeout.nanos := by
  cases hturn with
  | bound =>
      obtain rfl := Line.eq_of_modify_self hcall hnext
      exact (Stage.bound.inj hstage).2.symm
  | overtaken | refused | cleared | left | hindered | dialed | failed | signedIn | connected
  | fell | ended | shutDown =>
      obtain rfl := Line.eq_of_modify_self hcall hnext
      cases hstage

/-! ## Dials that take time -/

def Begun (issued : Session) (id : Nat) (session : Session) : Prop :=
  ∀ call dial, session.calls[id]? = some call → call.stage = .dialing dial →
    ∃ start : Nat, start ≤ session.now ∧
      dial.wake = start + issued.network.script.delay.nanos

theorem begun_quietDeed (hsettles : issued.Settles session)
    (hlast : id + 1 = issued.calls.length) (hbegun : Begun issued id session)
    (hdeed : QuietDeed tasks session later) : Begun issued id later := by
  intro next dial hnext hstage
  cases hdeed with
  | turned hother hholder hturn =>
      rename_i turning other
      have hindex : id < session.calls.length := by
        rw [hsettles.length_eq]
        omega
      obtain ⟨call, hcall⟩ : ∃ call, session.calls[id]? = some call :=
        ⟨_, List.getElem?_eq_getElem hindex⟩
      rcases hsettles.turn_cases hlast hcall hholder hturn with rfl | ⟨hqueued, hkept⟩
      · obtain ⟨-, hwake⟩ := hturn.dialing hother hnext hstage
        rw [hsettles.script_eq] at hwake
        exact ⟨session.now, Nat.le_of_eq hturn.now_eq.symm, hwake⟩
      · obtain rfl : call = next := Option.some.inj (hkept.symm.trans hnext)
        simp [hqueued] at hstage
  | waited instant =>
      obtain ⟨start, hstart, hwake⟩ := hbegun next dial hnext hstage
      exact ⟨start, Nat.le_trans hstart (Nat.le_max_left _ _), hwake⟩
  | resolved | enrolled => exact hbegun next dial hnext hstage

/-! ## Calls under a punctual clock -/

/-- No timer of a call has gone by. -/
structure Timely (issued : Session) (id : Nat) (session : Session) : Prop where
  bound : ∀ (call : Call) link (deadline : Nat), session.calls[id]? = some call →
    call.stage = .bound link deadline →
    deadline = session.now + issued.options.connectTimeout.nanos
  dialing : ∀ call dial, session.calls[id]? = some call → call.stage = .dialing dial →
    ∃ start : Nat, dial.wake = start + issued.network.script.delay.nanos ∧
      dial.deadline = start + issued.options.connectTimeout.nanos ∧
      session.now ≤ dial.wake ∧ session.now ≤ dial.deadline

/-- The next timer comes no later than any timer that lies ahead. -/
theorem nextTimer?_le {timer : Nat}
    (hmem : timer ∈ session.calls.filterMap callTimer? ++ session.tasks.filterMap taskTimer?)
    (hahead : session.now < timer) :
    ∃ next : Nat, session.nextTimer? = some next ∧ next ≤ timer := by
  have hfiltered : timer ∈ (session.calls.filterMap callTimer? ++
      session.tasks.filterMap taskTimer?).filter (session.now < ·) :=
    List.mem_filter.mpr ⟨hmem, decide_eq_true hahead⟩
  unfold nextTimer?
  cases hmin : ((session.calls.filterMap callTimer? ++
      session.tasks.filterMap taskTimer?).filter (session.now < ·)).min? with
  | none =>
      rw [List.min?_eq_none_iff] at hmin
      rw [hmin] at hfiltered
      cases hfiltered
  | some next => exact ⟨next, rfl, (List.min?_eq_some_iff.mp hmin).2 timer hfiltered⟩

theorem exists_nextTimer (hcall : session.calls[id]? = some call)
    (hstage : call.stage = .dialing dial) (hwake : session.now < dial.wake)
    (hdeadline : session.now < dial.deadline) :
    ∃ timer : Nat, session.nextTimer? = some timer ∧ timer ≤ dial.wake ∧
      timer ≤ dial.deadline := by
  have hmem : min dial.wake dial.deadline ∈ session.calls.filterMap callTimer? := by
    refine List.mem_filterMap.mpr ⟨call, List.mem_of_getElem? hcall, ?_⟩
    simp only [callTimer?, hstage]
  obtain ⟨timer, htimer, hle⟩ :=
    nextTimer?_le (List.mem_append_left _ hmem) (Nat.lt_min.mpr ⟨hwake, hdeadline⟩)
  exact ⟨timer, htimer, Nat.le_trans hle (Nat.min_le_left _ _),
    Nat.le_trans hle (Nat.min_le_right _ _)⟩

theorem Timely.wait {instant : Nat} (hsound : session.Sound)
    (hpunctual : session.Punctual (.wait instant)) (htimely : Timely issued id session) :
    Timely issued id (session.wait instant) := by
  obtain ⟨hidle, hbefore⟩ := hpunctual
  have hholder : ∀ call link, session.calls[id]? = some call → call.stage.link? = some link →
      session.holder = some id := by
    intro call link hcall hlink
    apply hsound.orderly.holder_of_begun hcall
    · intro hqueued
      simp [hqueued, Stage.link?] at hlink
    · cases hstage : call.stage with
      | done result => simp [hstage, Stage.link?] at hlink
      | queued | cleared | bound | dialing | answered | dropped => rfl
  constructor
  · intro call link deadline hcall hstage
    have hready := hidle id
    have hheld := hholder call link hcall (by rw [hstage]; rfl)
    have hfound : session.calls[id]? = some call := hcall
    simp [isReady, hfound, hheld, hstage] at hready
  · intro call dial hcall hstage
    obtain ⟨start, hwake, hdeadline, -⟩ := htimely.dialing call dial hcall hstage
    have hready := hidle id
    have hheld := hholder call dial.link hcall (by rw [hstage]; rfl)
    have hfound : session.calls[id]? = some call := hcall
    simp only [isReady, hfound, hheld, hstage, decide_true, Bool.true_and, Bool.or_eq_false_iff,
      decide_eq_false_iff_not, Nat.not_le] at hready
    obtain ⟨timer, htimer, hle, hle'⟩ :=
      exists_nextTimer hfound hstage hready.1.2 hready.2
    have hinstant := hbefore timer htimer
    refine ⟨start, hwake, hdeadline, ?_, ?_⟩
    · exact Nat.max_le.mpr ⟨Nat.le_of_lt hready.1.2, Nat.le_trans hinstant hle⟩
    · exact Nat.max_le.mpr ⟨Nat.le_of_lt hready.2, Nat.le_trans hinstant hle'⟩

theorem Timely.afterTurn {turning : Nat} {other : Call} (hsettles : issued.Settles session)
    (hlast : id + 1 = issued.calls.length) (hother : session.calls[turning]? = some other)
    (hholder : session.holder = some turning) (hturn : Turn session turning other later)
    (htimely : Timely issued id session) : Timely issued id later := by
  have hindex : id < session.calls.length := by
    rw [hsettles.length_eq]
    omega
  have hcall := List.getElem?_eq_getElem hindex
  rcases hsettles.turn_cases hlast hcall hholder hturn with rfl | ⟨hqueued, hkept⟩
  · constructor
    · intro next link deadline hnext hstage
      rw [hturn.bound_deadline hother hnext hstage, hturn.now_eq, hsettles.options_eq]
    · intro next dial hnext hstage
      obtain ⟨hbound, hwake⟩ := hturn.dialing hother hnext hstage
      have hdeadline := htimely.bound other dial.link dial.deadline hother hbound
      rw [hsettles.script_eq] at hwake
      refine ⟨session.now, hwake, hdeadline, ?_, ?_⟩
      · rw [hturn.now_eq, hwake]
        exact Nat.le_add_right _ _
      · rw [hturn.now_eq, hdeadline]
        exact Nat.le_add_right _ _
  · constructor
    · intro next link deadline hnext hstage
      obtain rfl := Option.some.inj (hkept.symm.trans hnext)
      simp [hqueued] at hstage
    · intro next dial hnext hstage
      obtain rfl := Option.some.inj (hkept.symm.trans hnext)
      simp [hqueued] at hstage

theorem timely_act (hsettles : issued.Settles session) (hlast : id + 1 = issued.calls.length)
    {given : Act} (hquiet : given.IsQuiet tasks) (hpunctual : session.Punctual given)
    (htimely : Timely issued id session) : Timely issued id (session.act given) := by
  cases given with
  | advance other =>
      rcases session.advance_eq_self_or_turn other with hrest | ⟨call, hcall, hholder, hturn⟩
      · show Timely issued id (session.advance other)
        rw [hrest]
        exact htimely
      · exact htimely.afterTurn hsettles hlast hcall hholder hturn
  | refresh task =>
      rcases session.runTask_eq_self_or_resolved task with hrest | ⟨found, -, -, -, hlater⟩
      · rw [act, hrest]
        exact htimely
      · rw [act, hlater]
        exact ⟨htimely.bound, htimely.dialing⟩
  | wait instant => exact htimely.wait hsettles.sound hpunctual
  | listen | unlisten => exact ⟨htimely.bound, htimely.dialing⟩
  | issue | send | report | cue => exact hquiet.elim

end

end NodeLink.Session
