import NodeLink.Proofs.Session.Fate
import NodeLink.Proofs.Session.Punctuality
/-!
# A connect on its own

A connect that was issued last and holds the session can always go on to its end.
Every turn it takes brings it nearer, and a dial has to be waited for, which a
punctual clock allows.  Unless the dial takes no time, the connect can also be
left alone for so long that the end of its dial is noticed too late.  So whatever
end its fate says, there is a run that leads to it.
-/

namespace NodeLink.Session

open NodeLink.Rehearsal (Network Script)

/-! ## Nothing has happened -/

/-- A session to which nothing has happened, over a network that follows a
script. -/
def facing (options : Options) (script : Script) : Session :=
  { initial options with network := { Network.initial with script } }

theorem facing_sound (options : Options) (script : Script) : (facing options script).Sound :=
  have hinitial := initial_sound options
  ⟨hinitial.orderly, hinitial.holdsOpen, hinitial.tends, hinitial.owned, hinitial.fits⟩

theorem facing_logged (options : Options) (script : Script) : (facing options script).Logged :=
  have hinitial := initial_logged options
  ⟨hinitial.owners, hinitial.conform, hinitial.stands, hinitial.serves⟩

theorem facing_heedsShutdown (options : Options) (script : Script) :
    (facing options script).HeedsShutdown := by
  intro hshut
  simp [facing, initial, Line.initial] at hshut

/-! ## Nearer to the end -/

def Stage.rank : Stage → Nat
  | .queued => 6
  | .cleared => 5
  | .bound _ _ => 4
  | .dialing _ => 3
  | .answered _ _ => 2
  | .dropped _ => 1
  | .done _ => 0

section

variable {issued session later : Session} {profile : Profile} {id tasks : Nat} {call next : Call}
  {dial : Dial} {inTime : Bool}

theorem Stage.rank_le (stage : Stage) : stage.rank ≤ Stage.queued.rank := by
  cases stage <;> simp [rank]

theorem rank_of_link {stage : Stage} (hlink : stage.link?.isSome = true) : 1 < stage.rank := by
  cases stage with
  | bound | dialing | answered => simp [Stage.rank]
  | queued | cleared | dropped | done => simp [Stage.link?] at hlink

theorem Turn.rank_lt (hturn : Turn session id call later) (hcall : session.calls[id]? = some call)
    (hnext : later.calls[id]? = some next) : next.stage.rank < call.stage.rank := by
  cases hturn with
  | overtaken hrequest hstage =>
      obtain rfl := Line.eq_of_modify_self hcall hnext
      rcases hstage with hqueued | hlink
      · simp [hqueued, Stage.rank]
      · exact Nat.lt_of_succ_lt (rank_of_link hlink)
  | failed hrequest hnewest hsetback =>
      obtain ⟨link, hlink⟩ := hsetback.exists_link
      obtain rfl := Line.eq_of_modify_self hcall hnext
      exact rank_of_link (by rw [hlink]; rfl)
  | cleared hstage =>
      obtain rfl := Line.eq_of_modify_self hcall hnext
      simp [hstage, Stage.rank]
  | refused hrequest hstage | left hrequest hstage | hindered hrequest hstage
  | bound hrequest hstage | dialed hrequest hstage | signedIn hrequest hstage
  | connected hrequest hstage | fell hrequest hstage | ended hrequest hstage
  | shutDown hrequest hstage =>
      obtain rfl := Line.eq_of_modify_self hcall hnext
      simp [hstage, Stage.rank]

theorem along_append {admits : Session → Act → Prop} {former latter : List Act}
    (hformer : Along admits session former) (hlatter : Along admits (session.run former) latter) :
    Along admits session (former ++ latter) := by
  induction former generalizing session with
  | nil => exact hlatter
  | cons given former ih => exact ⟨hformer.1, ih hformer.2 hlatter⟩

theorem exists_run_trans {admits : Session → Act → Prop} {last : Session}
    (hfirst : ∃ acts, session.run acts = later ∧ Along admits session acts)
    (hsecond : ∃ acts, later.run acts = last ∧ Along admits later acts) :
    ∃ acts, session.run acts = last ∧ Along admits session acts := by
  obtain ⟨former, rfl, hformer⟩ := hfirst
  obtain ⟨latter, rfl, hlatter⟩ := hsecond
  exact ⟨former ++ latter, session.run_append former latter, along_append hformer hlatter⟩

/-! ## Waiting for a dial -/

theorem punctual_wait_of_dialing {instant : Nat} (hsound : session.Sound)
    (hholder : session.holder = some id) (hcall : session.calls[id]? = some call)
    (hnewest : session.isOvertaken call = false) (hstage : call.stage = .dialing dial)
    (hwake : session.now < dial.wake) (hdeadline : session.now < dial.deadline)
    (hinstant : instant ≤ min dial.wake dial.deadline) : session.Punctual (.wait instant) := by
  have honly : ∀ (other : Nat) found, session.calls[other]? = some found →
      session.holder = some other → found = call := by
    intro other found hfound hheld
    obtain rfl : id = other := Option.some.inj (hholder.symm.trans hheld)
    exact Option.some.inj (hfound.symm.trans hcall)
  constructor
  · intro other
    cases hfound : session.calls[other]? with
    | none => simp [isReady, hfound]
    | some found =>
        by_cases hheld : session.holder = some other
        · obtain rfl := honly other found hfound hheld
          have hnow : ¬ dial.wake ≤ session.now := Nat.not_le.mpr hwake
          have hnow' : ¬ dial.deadline ≤ session.now := Nat.not_le.mpr hdeadline
          simp [isReady, hfound, hstage, hnewest, hnow, hnow']
        · simp [isReady, hfound, hheld]
  · intro timer htimer
    have hmem := (List.min?_eq_some_iff.mp htimer).1
    rw [List.mem_filter, List.mem_append, List.mem_filterMap, List.mem_filterMap] at hmem
    rcases hmem.1 with ⟨found, hfound, hdial⟩ | ⟨task, htask, hdue⟩
    · obtain ⟨other, hother⟩ := List.mem_iff_getElem?.mp hfound
      cases hdialing : found.stage with
      | dialing under =>
          have hheld := hsound.orderly.holder_of_begun hother (by simp [hdialing])
            (by rw [hdialing]; rfl)
          obtain rfl := honly other found hother hheld
          obtain rfl : dial = under := Stage.dialing.inj (hstage.symm.trans hdialing)
          simp only [callTimer?, hstage, Option.some.injEq] at hdial
          exact hdial ▸ hinstant
      | queued | cleared | bound | answered | dropped | done => simp [callTimer?, hdialing] at hdial
    · obtain ⟨other, hother⟩ := List.mem_iff_getElem?.mp htask
      have hlive : task.live = true := by
        by_contra hstopped
        simp [taskTimer?, hstopped] at hdue
      have hheld := hsound.tends.only other task hother hlive
      obtain ⟨hphase, found, held, -, -, hlink, -⟩ := hsound.tends.live other hheld
      have hqueued := hsound.stage_of_connected hphase hlink
      have hdialing : session.stage = call.stage := Line.stage_eq hholder hcall
      simp [hdialing, hstage] at hqueued

theorem exists_waiting (session : Session) (tasks instant : Nat) :
    ∃ acts : List Act, (∀ given ∈ acts, given.IsQuiet tasks) ∧
      session.run acts = session.wait instant ∧
      ((session.now < instant → session.Punctual (.wait instant)) →
        Along Punctual session acts) := by
  by_cases hlt : session.now < instant
  · refine ⟨[.wait instant], ?_, rfl, ?_⟩
    · intro given hgiven
      obtain rfl := List.mem_singleton.mp hgiven
      trivial
    · exact fun hpunctual => ⟨hpunctual hlt, trivial⟩
  · refine ⟨[], by simp, ?_, fun _ => trivial⟩
    have hnow : max session.now instant = session.now := Nat.max_eq_left (Nat.not_lt.mp hlt)
    simp [wait, run, hnow]

/-! ## On the way -/

/-- Until when a connect is left alone before it goes on, so that the end of its
dial is noticed in time or too late. -/
def patience (options : Options) (script : Script) (inTime : Bool) : Stage → Nat
  | .bound _ deadline =>
    if inTime = false ∧ script.delay.nanos ≤ options.connectTimeout.nanos then deadline else 0
  | .dialing dial => if inTime then dial.wake else dial.deadline
  | _ => 0

def isTimely (options : Options) (script : Script) : Bool :=
  decide (script.delay.nanos ≤ options.connectTimeout.nanos)

/-- The end of a dial is noticed in time just if the dial takes no longer than the connect has. -/
theorem Timely.notices (htimely : Timely issued id session)
    (hcall : session.calls[id]? = some call) (hstage : call.stage = .dialing dial) :
    (dial.wake ≤ session.now → true = isTimely issued.options issued.network.script) ∧
      (session.now < dial.wake → dial.deadline ≤ session.now →
        false = isTimely issued.options issued.network.script) := by
  obtain ⟨start, hwake, hdeadline, hnow, hnow'⟩ := htimely.dialing call dial hcall hstage
  rw [hwake, hdeadline]
  constructor
  · intro hends
    rw [hdeadline] at hnow'
    exact (decide_eq_true (Nat.le_of_add_le_add_left (Nat.le_trans hends hnow'))).symm
  · intro hbefore hends
    exact (decide_eq_false (Nat.not_le.mpr
      (Nat.lt_of_add_lt_add_left (Nat.lt_of_le_of_lt hends hbefore)))).symm

/-- A connect that was issued last and is left alone to meet a fate. -/
structure Approaches (issued : Session) (profile : Profile) (id : Nat) (inTime : Bool)
    (session : Session) (call : Call) : Prop where
  settles : issued.Settles session
  call_eq : session.calls[id]? = some call
  holder : call.stage.isDone = false → session.holder = some id
  errand : Errand (· = inTime) issued profile session call call.stage
  late : inTime = false → ∀ dial, call.stage = .dialing dial →
    dial.deadline < dial.wake ∧ session.now < dial.wake
  timely : inTime = isTimely issued.options issued.network.script → Timely issued id session

namespace Approaches

variable {first : Call}

theorem punctual_wait (happroaches : Approaches issued profile id inTime session call)
    (hlast : id + 1 = issued.calls.length)
    (htimely : inTime = isTimely issued.options issued.network.script)
    (hlt : session.now <
      patience issued.options issued.network.script inTime call.stage) :
    session.Punctual
      (.wait (patience issued.options issued.network.script inTime call.stage)) := by
  cases hstage : call.stage with
  | bound link deadline =>
      have hnever : ¬ (inTime = false ∧ issued.network.script.delay.nanos ≤
          issued.options.connectTimeout.nanos) := by
        rintro ⟨hlate, hle⟩
        rw [hlate] at htimely
        simp [isTimely, hle] at htimely
      simp only [hstage, patience, if_neg hnever] at hlt
      exact absurd hlt (Nat.not_lt_zero _)
  | dialing dial =>
      have hcall := happroaches.call_eq
      have hnewest := happroaches.settles.not_isOvertaken hlast hcall
      have hholder := happroaches.holder (by rw [hstage]; rfl)
      obtain ⟨start, hwake, hdeadline, hnow, hnow'⟩ :=
        (happroaches.timely htimely).dialing call dial hcall hstage
      rw [hstage] at hlt
      cases inTime with
      | true =>
          have hle : issued.network.script.delay.nanos ≤ issued.options.connectTimeout.nanos :=
            of_decide_eq_true htimely.symm
          have hbefore : session.now < dial.wake := hlt
          have hends : dial.wake ≤ dial.deadline := by
            rw [hwake, hdeadline]
            exact Nat.add_le_add_left hle start
          exact punctual_wait_of_dialing happroaches.settles.sound hholder hcall hnewest hstage
            hbefore (Nat.lt_of_lt_of_le hbefore hends) (Nat.le_min.mpr ⟨Nat.le_refl _, hends⟩)
      | false =>
          have hlater := (happroaches.late rfl dial hstage).1
          have hbefore : session.now < dial.deadline := hlt
          exact punctual_wait_of_dialing happroaches.settles.sound hholder hcall hnewest hstage
            (Nat.lt_trans hbefore hlater) hbefore
            (Nat.le_min.mpr ⟨Nat.le_of_lt hlater, Nat.le_refl _⟩)
  | queued | cleared | answered | dropped | done =>
      simp only [hstage, patience] at hlt
      exact absurd hlt (Nat.not_lt_zero _)

theorem afterWait (happroaches : Approaches issued profile id inTime session call)
    (hlast : id + 1 = issued.calls.length) :
    Approaches issued profile id inTime
      (session.wait (patience issued.options issued.network.script inTime call.stage))
      call where
  settles := by
    have hquiet : ∀ instant : Nat, (Act.wait instant).IsQuiet 0 := fun _ => trivial
    exact happroaches.settles.afterQuietAct (hquiet _)
  call_eq := happroaches.call_eq
  holder := happroaches.holder
  errand := happroaches.errand.of_eq rfl rfl rfl
  late := by
    intro hlate dial hstage
    obtain ⟨hlater, hbefore⟩ := happroaches.late hlate dial hstage
    refine ⟨hlater, ?_⟩
    rw [hstage, hlate]
    exact Nat.max_lt.mpr ⟨hbefore, hlater⟩
  timely := by
    intro hpunctual
    by_cases hlt : session.now <
        patience issued.options issued.network.script inTime call.stage
    · exact (happroaches.timely hpunctual).wait happroaches.settles.sound
        (happroaches.punctual_wait hlast hpunctual hlt)
    · have hsame : session.wait
          (patience issued.options issued.network.script inTime call.stage) = session := by
        have hnow := Nat.max_eq_left (Nat.not_lt.mp hlt)
        simp [wait, hnow]
      rw [hsame]
      exact happroaches.timely hpunctual

theorem late_of_turn (happroaches : Approaches issued profile id inTime session call)
    (hdelay : inTime = false → 0 < issued.network.script.delay.nanos)
    (hreached : patience issued.options issued.network.script inTime call.stage ≤
      session.now)
    (hturn : Turn session id call later) (hnext : later.calls[id]? = some next)
    (hlate : inTime = false) (hstage : next.stage = .dialing dial) :
    dial.deadline < dial.wake ∧ later.now < dial.wake := by
  obtain ⟨hbound, hwake⟩ := hturn.dialing happroaches.call_eq hnext hstage
  rw [happroaches.settles.script_eq] at hwake
  have hdeadline : dial.deadline < dial.wake := by
    rw [hwake]
    -- a dial that could end in time begins only at the deadline
    by_cases hle : issued.network.script.delay.nanos ≤ issued.options.connectTimeout.nanos
    · rw [hbound, patience, if_pos ⟨hlate, hle⟩] at hreached
      exact Nat.lt_of_le_of_lt hreached (Nat.lt_add_of_pos_right (hdelay hlate))
    · have htimely : inTime = isTimely issued.options issued.network.script := by
        simp [hlate, isTimely, hle]
      rw [(happroaches.timely htimely).bound call _ _ happroaches.call_eq hbound]
      exact Nat.add_lt_add_left (Nat.not_le.mp hle) session.now
  refine ⟨hdeadline, ?_⟩
  rw [hturn.now_eq, hwake]
  exact Nat.lt_add_of_pos_right (hdelay hlate)

theorem exists_turn (happroaches : Approaches issued profile id inTime session call)
    (hlast : id + 1 = issued.calls.length) (hfirst : issued.calls[id]? = some first)
    (hrequest : first.request = .connect profile) (hshut : issued.isShutDown = false)
    (hdelay : inTime = false → 0 < issued.network.script.delay.nanos)
    (hreached : patience issued.options issued.network.script inTime call.stage ≤
      session.now)
    (hdone : call.stage.isDone = false) :
    ∃ next, Approaches issued profile id inTime (session.advance id) next ∧
      next.stage.rank < call.stage.rank := by
  have hcall := happroaches.call_eq
  have hholder := happroaches.holder hdone
  have hconnect := (happroaches.settles.request_of_call hfirst hcall).trans hrequest
  have htime : ∀ dial, call.stage = .dialing dial →
      (dial.wake ≤ session.now → true = inTime) ∧
        (session.now < dial.wake → dial.deadline ≤ session.now → false = inTime) := by
    intro dial hstage
    rw [hstage] at hreached
    cases inTime with
    | true => exact ⟨fun _ => rfl, fun hbefore => absurd hreached (Nat.not_le.mpr hbefore)⟩
    | false =>
        have hbefore := (happroaches.late rfl dial hstage).2
        exact ⟨fun hwake => absurd hwake (Nat.not_le.mpr hbefore), fun _ _ => rfl⟩
  have hready : session.IsReady call := by
    refine ⟨hdone, ?_⟩
    intro dial hstage
    rw [hstage] at hreached
    cases inTime with
    | true => exact .inr (.inl hreached)
    | false => exact .inr (.inr hreached)
  have hturn := turn_of_isReady hcall hholder hconnect hready
  obtain ⟨next, hnext, -⟩ := hturn.exists_call hcall
  have hrank := hturn.rank_lt hcall hnext
  have hsettles : issued.Settles (session.advance id) := by
    have hquiet : (Act.advance id).IsQuiet 0 := trivial
    exact happroaches.settles.afterQuietAct hquiet
  refine ⟨next, ⟨hsettles, hnext, ?_, ?_, ?_, ?_⟩, hrank⟩
  · intro hpending
    refine hsettles.sound.orderly.holder_of_begun hnext ?_ hpending
    intro hqueued
    rw [hqueued] at hrank
    exact Nat.not_lt.mpr call.stage.rank_le hrank
  · exact errand_turn happroaches.settles hlast hcall hholder hconnect hshut ⟨inTime, rfl⟩ htime
      happroaches.errand hturn hnext
  · intro hlate dial hstage
    exact happroaches.late_of_turn hdelay hreached hturn hnext hlate hstage
  · intro htimely
    exact (happroaches.timely htimely).afterTurn happroaches.settles hlast hcall hholder hturn

/-- A connect that was issued last and holds the session can go on until it has
met its fate. -/
theorem exists_end (happroaches : Approaches issued profile id inTime session call)
    (hlast : id + 1 = issued.calls.length) (hfirst : issued.calls[id]? = some first)
    (hrequest : first.request = .connect profile) (hshut : issued.isShutDown = false)
    (hdelay : inTime = false → 0 < issued.network.script.delay.nanos) (tasks : Nat) :
    ∃ acts : List Act, (∀ given ∈ acts, given.IsQuiet tasks) ∧
      (inTime = isTimely issued.options issued.network.script → Along Punctual session acts) ∧
      ∃ last result, last.stage = .done result ∧
        Approaches issued profile id inTime (session.run acts) last := by
  induction hrank : call.stage.rank using Nat.strong_induction_on generalizing session call with
  | _ rank ih =>
      cases hdone : call.stage.isDone with
      | true =>
          refine ⟨[], by simp, fun _ => trivial, call, ?_⟩
          cases hstage : call.stage with
          | done result => exact ⟨result, rfl, happroaches⟩
          | queued | cleared | bound | dialing | answered | dropped =>
              simp [hstage, Stage.isDone] at hdone
      | false =>
          -- left alone first, the call is ready and its turn serves its fate
          obtain ⟨waiting, hquiet, hwaiting, halong⟩ := exists_waiting session tasks
            (patience issued.options issued.network.script inTime call.stage)
          have hwaited := happroaches.afterWait hlast
          rw [← hwaiting] at hwaited
          have hreached : patience issued.options issued.network.script inTime call.stage ≤
              (session.run waiting).now := by
            rw [hwaiting]
            exact Nat.le_max_right _ _
          obtain ⟨next, hnext, hlt⟩ := hwaited.exists_turn hlast hfirst hrequest hshut hdelay
            hreached hdone
          obtain ⟨acts, hquiet', halong', last, result, hstage, hended⟩ :=
            ih next.stage.rank (hrank ▸ hlt) hnext rfl
          refine ⟨waiting ++ .advance id :: acts, ?_, ?_, last, result, hstage, ?_⟩
          · intro given hgiven
            rcases List.mem_append.mp hgiven with hmem | hmem
            · exact hquiet given hmem
            · rcases List.mem_cons.mp hmem with rfl | hlater
              · trivial
              · exact hquiet' given hlater
          · intro htimely
            refine along_append (halong (happroaches.punctual_wait hlast htimely)) ?_
            exact ⟨trivial, halong' htimely⟩
          · rw [run_append]
            exact hended

end Approaches

end

end NodeLink.Session
