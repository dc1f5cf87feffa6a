import NodeLink.Profile.Samples
import NodeLink.Proofs.Exchange.Reply
import NodeLink.Proofs.Session.Fate
/-!
# The table of outcomes

What may go wrong with a connect, in the order in which it is found out.  A connect
whose dial takes no time ends as the first row of the table says that fits, and just
one of them does.
-/

namespace NodeLink.Session

open NodeLink.Rehearsal (LinkId Script)
open NodeLink.Exchange (Signals signalled?_eq_some_iff signalled?_eq_none_iff
  isCanonical_of_readBytes)

/-! ## The rows -/

/-- What a connect has done about a link in the end: it has not tried to bind one, or has tried in
vain, or has bound one. -/
inductive Attempt
  | none
  | refused
  | made

/-- Why no link can be bound: the network fails to, or the key of a private network is not of
32 bytes. -/
inductive Prevents (script : Script) (profile : Profile) : Link.Error → Prop
  | failure {reason : String} (hfailure : script.bindFailure = some reason) :
      Prevents script profile (.bind reason)
  | badKey {key : NetworkKey} (hfree : script.bindFailure = none)
      (hkey : profile.key = some key) (hsize : key.bytes.length ≠ 32) :
      Prevents script profile (.invalidKey key.bytes.length)

structure Binds (script : Script) (profile : Profile) : Prop where
  flawless : profile.flaw? = none
  free : script.bindFailure = none
  key : ∀ key, profile.key = some key → key.bytes.length = 32

/-- The address that a profile prefers can be read. -/
def HasTarget (profile : Profile) : Prop :=
  ∃ hint address, profile.preferred? = some hint ∧ Address.read hint.address = .ok address

/-- What is wrong with the answer of a node that is asked to accept a session. -/
inductive Rejects (answer : Except Link.Error (List UInt8)) : HandshakeFault → Prop
  | missing {error : Link.Error} (hanswer : answer = .error error) : Rejects answer (.link error)
  | notJson {body : List UInt8} {fault : Json.Fault} (hanswer : answer = .ok body)
      (hbody : Json.readBytes body = .error fault) : Rejects answer (.notJson fault)
  | signals {body : List UInt8} {value : Json.Value} {message : String}
      (hanswer : answer = .ok body) (hbody : Json.readBytes body = .ok value)
      (hsignals : Signals value message) : Rejects answer (.rejected message)

def Accepts (answer : Except Link.Error (List UInt8)) : Prop :=
  ∃ body value, answer = .ok body ∧ Json.readBytes body = .ok value ∧
    ∀ message, ¬ Signals value message

/-- What a connect has done about a link and how it ends.  Every row but the first says that what
the rows before it are about went well. -/
inductive Ends (script : Script) (profile : Profile) : Attempt → Except Error Unit → Prop
  | flawed {flaw : Profile.Flaw} (hflaw : profile.flaw? = some flaw) :
      Ends script profile .none (.error (.invalidProfile flaw))
  | unbound {error : Link.Error} (hflawless : profile.flaw? = none)
      (hprevents : Prevents script profile error) :
      Ends script profile .refused (.error (.setup (.link error)))
  | nowhere (hbinds : Binds script profile) (hnone : profile.preferred? = none) :
      Ends script profile .made (.error .noAddress)
  | unreadable {hint : Hint} {error : Link.Error} (hbinds : Binds script profile)
      (hhint : profile.preferred? = some hint) (hread : Address.read hint.address = .error error) :
      Ends script profile .made (.error (.handshake (.link error)))
  | unreached {reason : String} (hbinds : Binds script profile) (htarget : HasTarget profile)
      (hdial : script.dialFailure = some reason) :
      Ends script profile .made (.error (.handshake (.link (.dialFailed reason))))
  | rejected {fault : HandshakeFault} (hbinds : Binds script profile)
      (htarget : HasTarget profile) (hdial : script.dialFailure = none)
      (hrejects : Rejects (script.replyTo Service.auth.protocol).result fault) :
      Ends script profile .made (.error (.handshake fault))
  | up (hbinds : Binds script profile) (htarget : HasTarget profile)
      (hdial : script.dialFailure = none)
      (haccepts : Accepts (script.replyTo Service.auth.protocol).result) :
      Ends script profile .made (.ok ())

/-! ## Just one row fits -/

def attemptOf (script : Script) (profile : Profile) : Attempt :=
  if profile.flaw?.isSome then .none
  else if (script.bindFault? (termsOf profile)).isSome then .refused
  else .made

section

variable {script : Script} {profile : Profile}

theorem bindFault?_eq_some_iff {error : Link.Error} :
    script.bindFault? (termsOf profile) = some error ↔ Prevents script profile error := by
  constructor
  · intro hfault
    unfold Script.bindFault? at hfault
    split at hfault
    next reason hfailure =>
      obtain rfl := Option.some.inj hfault
      exact .failure hfailure
    next hfree =>
      cases hkey : profile.key with
      | none => simp [termsOf, hkey, Link.checkKey] at hfault
      | some key =>
          simp only [termsOf, hkey, Option.map_some, Link.checkKey] at hfault
          split_ifs at hfault with hsize
          obtain rfl := Option.some.inj hfault
          exact .badKey hfree hkey hsize
  · intro hprevents
    cases hprevents with
    | failure hfailure => simp only [Script.bindFault?, hfailure]
    | @badKey key hfree hkey hsize =>
        have hother : key.bytes.length ≠ Link.keySize := hsize
        simp only [Script.bindFault?, hfree, termsOf, hkey, Option.map_some, Link.checkKey,
          if_neg hother]

theorem bindFault?_eq_none_iff :
    script.bindFault? (termsOf profile) = none ↔
      script.bindFailure = none ∧ ∀ key, profile.key = some key → key.bytes.length = 32 := by
  simp only [Option.eq_none_iff_forall_ne_some, ne_eq, bindFault?_eq_some_iff]
  constructor
  · intro hnever
    have hfree : script.bindFailure = none := by
      rw [Option.eq_none_iff_forall_ne_some]
      exact fun reason hfailure => hnever _ (.failure hfailure)
    refine ⟨fun reason hfailure => hnever _ (.failure hfailure), fun key hkey => ?_⟩
    by_contra hsize
    exact hnever _ (.badKey hfree hkey hsize)
  · rintro ⟨hfree, hkeys⟩ error hprevents
    cases hprevents with
    | failure hfailure => exact hfree _ hfailure
    | badKey _ hkey hsize => exact hsize (hkeys _ hkey)

theorem verdictOn_eq_error_iff {answer : Except Link.Error (List UInt8)} {fault : HandshakeFault} :
    verdictOn answer = .error fault ↔ Rejects answer fault := by
  constructor
  · intro hverdict
    cases answer with
    | error error =>
        obtain rfl := Except.error.inj hverdict
        exact .missing rfl
    | ok body =>
        simp only [verdictOn, acceptance] at hverdict
        split at hverdict
        next hbody =>
          obtain rfl := Except.error.inj hverdict
          exact .notJson rfl hbody
        next value hbody =>
          split at hverdict
          next hsignalled =>
            obtain rfl := Except.error.inj hverdict
            exact .signals rfl hbody
              ((signalled?_eq_some_iff (isCanonical_of_readBytes hbody)).mp hsignalled)
          next => cases hverdict
  · intro hrejects
    cases hrejects with
    | missing hanswer => simp only [hanswer, verdictOn]
    | notJson hanswer hbody => simp only [hanswer, verdictOn, acceptance, hbody]
    | signals hanswer hbody hsignals =>
        have hsignalled :=
          (signalled?_eq_some_iff (isCanonical_of_readBytes hbody)).mpr hsignals
        simp only [hanswer, verdictOn, acceptance, hbody, hsignalled]

theorem verdictOn_eq_ok_iff {answer : Except Link.Error (List UInt8)} :
    verdictOn answer = .ok () ↔ Accepts answer := by
  constructor
  · intro hverdict
    obtain ⟨body, rfl, haccepts⟩ := verdictOn_eq_ok hverdict
    unfold acceptance at haccepts
    split at haccepts
    next => cases haccepts
    next value hbody =>
      split at haccepts
      next => cases haccepts
      next hquiet =>
        exact ⟨body, value, rfl, hbody,
          (signalled?_eq_none_iff (isCanonical_of_readBytes hbody)).mp hquiet⟩
  · rintro ⟨body, value, rfl, hbody, hquiet⟩
    have hsignalled := (signalled?_eq_none_iff (isCanonical_of_readBytes hbody)).mpr hquiet
    simp only [verdictOn, acceptance, hbody, hsignalled]

/-- A connect whose profile has no flaw and whose link can be bound goes on from there. -/
theorem Binds.obstacle?_eq_none (hbinds : Binds script profile) :
    obstacle? script profile = none := by
  have hfault := bindFault?_eq_none_iff.mpr ⟨hbinds.free, hbinds.key⟩
  simp only [obstacle?, hbinds.flawless, hfault, Option.map_none]

theorem Binds.attemptOf_eq (hbinds : Binds script profile) : attemptOf script profile = .made := by
  have hfault := bindFault?_eq_none_iff.mpr ⟨hbinds.free, hbinds.key⟩
  simp [attemptOf, hbinds.flawless, hfault]

theorem HasTarget.exists_target (htarget : HasTarget profile) :
    ∃ target, targetOf profile = .ok target := by
  obtain ⟨hint, address, hhint, hread⟩ := htarget
  exact ⟨{ peer := profile.peer, address }, by simp only [targetOf, hhint, hread]⟩

theorem fate_of_ends (options : Options) (id : LinkId) {attempt : Attempt}
    {result : Except Error Unit} (hends : Ends script profile attempt result) :
    attempt = attemptOf script profile ∧
      result = (fate options script profile id true).result := by
  cases hends with
  | flawed hflaw => simp [attemptOf, fate, obstacle?, hflaw]
  | unbound hflawless hprevents =>
      have hfault := bindFault?_eq_some_iff.mpr hprevents
      simp [attemptOf, fate, obstacle?, hflawless, hfault]
  | nowhere hbinds hnone =>
      have htarget : targetOf profile = .error .noAddress := by simp only [targetOf, hnone]
      simp [hbinds.attemptOf_eq, fate, hbinds.obstacle?_eq_none, htarget]
  | @unreadable hint error hbinds hhint hread =>
      have htarget : targetOf profile = .error (.handshake (.link error)) := by
        simp only [targetOf, hhint, hread]
      simp [hbinds.attemptOf_eq, fate, hbinds.obstacle?_eq_none, htarget]
  | unreached hbinds hreadable hdial =>
      obtain ⟨target, htarget⟩ := hreadable.exists_target
      simp [hbinds.attemptOf_eq, fate, hbinds.obstacle?_eq_none, htarget, fateAfterDial, hdial]
  | rejected hbinds hreadable hdial hrejects =>
      obtain ⟨target, htarget⟩ := hreadable.exists_target
      have hverdict : verdict script = .error _ := verdictOn_eq_error_iff.mpr hrejects
      simp [hbinds.attemptOf_eq, fate, hbinds.obstacle?_eq_none, htarget, fateAfterDial, hdial,
        hverdict]
  | up hbinds hreadable hdial haccepts =>
      obtain ⟨target, htarget⟩ := hreadable.exists_target
      have hverdict : verdict script = .ok () := verdictOn_eq_ok_iff.mpr haccepts
      simp [hbinds.attemptOf_eq, fate, hbinds.obstacle?_eq_none, htarget, fateAfterDial, hdial,
        hverdict]

/-- Some row fits, whatever the network and the profile are like. -/
theorem exists_ends (script : Script) (profile : Profile) :
    ∃ attempt result, Ends script profile attempt result := by
  cases hflaw : profile.flaw? with
  | some flaw => exact ⟨_, _, .flawed hflaw⟩
  | none =>
      cases hfault : script.bindFault? (termsOf profile) with
      | some error => exact ⟨_, _, .unbound hflaw (bindFault?_eq_some_iff.mp hfault)⟩
      | none =>
          obtain ⟨hfree, hkey⟩ := bindFault?_eq_none_iff.mp hfault
          have hbinds : Binds script profile := ⟨hflaw, hfree, hkey⟩
          cases hhint : profile.preferred? with
          | none => exact ⟨_, _, .nowhere hbinds hhint⟩
          | some hint =>
              cases hread : Address.read hint.address with
              | error error => exact ⟨_, _, .unreadable hbinds hhint hread⟩
              | ok address =>
                  have htarget : HasTarget profile := ⟨hint, address, hhint, hread⟩
                  cases hdial : script.dialFailure with
                  | some reason => exact ⟨_, _, .unreached hbinds htarget hdial⟩
                  | none =>
                      cases hverdict : verdict script with
                      | error fault =>
                          exact ⟨_, _, .rejected hbinds htarget hdial
                            (verdictOn_eq_error_iff.mp hverdict)⟩
                      | ok _ =>
                          exact ⟨_, _, .up hbinds htarget hdial (verdictOn_eq_ok_iff.mp hverdict)⟩

theorem ends_iff (options : Options) (id : LinkId) {attempt : Attempt}
    {result : Except Error Unit} :
    Ends script profile attempt result ↔
      attempt = attemptOf script profile ∧
        result = (fate options script profile id true).result := by
  constructor
  · exact fate_of_ends options id
  · rintro ⟨rfl, rfl⟩
    obtain ⟨attempt, result, hends⟩ := exists_ends script profile
    obtain ⟨hattempt, hresult⟩ := fate_of_ends options id hends
    rwa [← hattempt, ← hresult]

end

/-! ## A profile that is reached directly -/

theorem binds_direct {script : Script} (hfree : script.bindFailure = none) :
    Binds script Profile.Sample.direct where
  flawless := by decide +kernel
  free := hfree
  key := by
    intro key hkey
    cases hkey

theorem hasTarget_direct : HasTarget Profile.Sample.direct := by
  have hread : (Address.read Profile.Sample.lan).toOption.isSome = true := by decide +kernel
  cases hlan : Address.read Profile.Sample.lan with
  | error error => simp [hlan, Except.toOption] at hread
  | ok address => exact ⟨_, address, rfl, hlan⟩

end NodeLink.Session
