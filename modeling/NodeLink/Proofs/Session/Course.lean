import NodeLink.Proofs.Rehearsal.Network
import NodeLink.Session.Lifecycle
/-!
# The course of a link

What may stand on the record of a link that was bound for a profile.  The calls
on it run through four stations: its entries are resolved, its node is dialed,
it signs in, and if the node accepts it the link is used for requests and for
further rounds of resolving.  Each station takes for granted that the one before
it succeeded, and closing ends the record at any of them.
-/

namespace NodeLink.Session

open NodeLink.Rehearsal (LinkId Target)

def resolutions (profile : Profile) : List Rehearsal.Call :=
  profile.bootstrap.map .resolve

def signature (userAgent : String) (profile : Profile) (id : LinkId) : Rehearsal.Call :=
  .request Service.auth.protocol
    (authPayload profile.token userAgent (Rehearsal.Network.localName id))

/-- The use of a link that was accepted: requests and whole rounds, in any
order. -/
inductive Traffic (profile : Profile) : List Rehearsal.Call → Prop
  | idle : Traffic profile []
  | request {calls : List Rehearsal.Call} (htraffic : Traffic profile calls) (service : Service)
      (payload : List UInt8) :
      Traffic profile (calls ++ [.request service.protocol payload])
  | round {calls : List Rehearsal.Call} (htraffic : Traffic profile calls) :
      Traffic profile (calls ++ resolutions profile)

/-- The node took the first request of a link for a good one. -/
def Accepted (link : Rehearsal.Link) : Prop :=
  ∃ body, link.replies.head? = some (some body) ∧ acceptance body = .ok ()

/-- The stations of a link.  Signing in takes a dial that succeeded, and use a
reply that accepts the link. -/
inductive Course (userAgent : String) (profile : Profile) (id : LinkId)
    (link : Rehearsal.Link) : List Rehearsal.Call → Prop
  | resolved : Course userAgent profile id link (resolutions profile)
  | dialed {target : Target} (htarget : targetOf profile = .ok target) :
      Course userAgent profile id link (resolutions profile ++ [.dial target])
  | signed {target : Target} (htarget : targetOf profile = .ok target)
      (hdialed : link.dialed = true) :
      Course userAgent profile id link
        (resolutions profile ++ [.dial target, signature userAgent profile id])
  | used {target : Target} {traffic : List Rehearsal.Call}
      (htarget : targetOf profile = .ok target) (hdialed : link.dialed = true)
      (haccepted : Accepted link) (htraffic : Traffic profile traffic) :
      Course userAgent profile id link
        (resolutions profile ++ [.dial target, signature userAgent profile id] ++ traffic)

/-- The record of a link follows the course; if the link was closed, the closing
comes last. -/
def Conforms (userAgent : String) (profile : Profile) (id : LinkId)
    (link : Rehearsal.Link) : Prop :=
  ∃ course, Course userAgent profile id link course ∧
    link.calls = course ++ if link.closed then [.close] else []

theorem close_not_mem_resolutions (profile : Profile) : .close ∉ resolutions profile := by
  simp [resolutions]

theorem Traffic.close_not_mem {profile : Profile} {calls : List Rehearsal.Call}
    (htraffic : Traffic profile calls) : .close ∉ calls := by
  induction htraffic with
  | idle => simp
  | request _ service payload ih => simp [ih]
  | round _ ih => simp [ih, close_not_mem_resolutions]

theorem Course.close_not_mem {userAgent : String} {profile : Profile} {id : LinkId}
    {link : Rehearsal.Link} {course : List Rehearsal.Call}
    (hcourse : Course userAgent profile id link course) : .close ∉ course := by
  cases hcourse with
  | resolved => exact close_not_mem_resolutions profile
  | dialed htarget => simp [close_not_mem_resolutions]
  | signed htarget hdialed => simp [close_not_mem_resolutions, signature]
  | used htarget hdialed haccepted htraffic =>
      simp [close_not_mem_resolutions, signature, htraffic.close_not_mem]

theorem Conforms.close_last {userAgent : String} {profile : Profile} {id : LinkId}
    {link : Rehearsal.Link} (hconforms : Conforms userAgent profile id link)
    {former latter : List Rehearsal.Call} (hcalls : link.calls = former ++ .close :: latter) :
    latter = [] ∧ link.closed = true := by
  obtain ⟨course, hcourse, hrecorded⟩ := hconforms
  have hnone := hcourse.close_not_mem
  rw [hrecorded] at hcalls
  cases hclosed : link.closed with
  | false =>
      simp only [hclosed, Bool.false_eq_true, if_false, List.append_nil] at hcalls
      rw [hcalls] at hnone
      simp at hnone
  | true =>
      simp only [hclosed, if_true] at hcalls
      refine ⟨?_, rfl⟩
      rcases List.append_eq_append_iff.mp hcalls with ⟨gap, -, hgap⟩ | ⟨gap, hcourse, hgap⟩
      · have hlength := congrArg List.length hgap
        simp only [List.length_append, List.length_cons, List.length_nil] at hlength
        exact List.eq_nil_of_length_eq_zero (by omega)
      · cases gap with
        | nil => exact (List.cons.inj hgap).2
        | cons call gap =>
            obtain rfl := (List.cons.inj hgap).1
            simp [hcourse] at hnone

/-! ## Stations of an open link -/

/-- What stands on the record of the link that a connect works on, by the stage
of the connect. -/
def Stands (userAgent : String) (profile : Profile) (id : LinkId) (link : Rehearsal.Link) :
    Stage → Prop
  | .bound _ _ => link.calls = resolutions profile ∧ link.replies = [] ∧
      link.protocols = Service.protocols
  | .dialing _ => ∃ target, targetOf profile = .ok target ∧
      link.calls = resolutions profile ++ [.dial target] ∧ link.replies = [] ∧
      link.protocols = Service.protocols
  | .answered _ verdict => ∃ target reply, targetOf profile = .ok target ∧
      link.calls = resolutions profile ++ [.dial target, signature userAgent profile id] ∧
      link.dialed = true ∧ link.replies = [reply] ∧
      (verdict = .ok () → ∃ body, reply = some body ∧ acceptance body = .ok ())
  | _ => False

structure Serves (userAgent : String) (profile : Profile) (id : LinkId)
    (link : Rehearsal.Link) : Prop where
  dialed : link.dialed = true
  accepted : Accepted link
  calls : ∃ target traffic, targetOf profile = .ok target ∧ Traffic profile traffic ∧
    link.calls =
      resolutions profile ++ [.dial target, signature userAgent profile id] ++ traffic

section

variable {userAgent : String} {profile : Profile} {id : LinkId} {link : Rehearsal.Link}

theorem Stands.conforms {stage : Stage} (hstands : Stands userAgent profile id link stage)
    (hopen : link.closed = false) : Conforms userAgent profile id link := by
  cases stage with
  | bound worked deadline =>
      exact ⟨_, .resolved, by simp [hstands.1, hopen]⟩
  | dialing dial =>
      obtain ⟨target, htarget, hcalls, -⟩ := hstands
      exact ⟨_, .dialed htarget, by simp [hcalls, hopen]⟩
  | answered worked verdict =>
      obtain ⟨target, reply, htarget, hcalls, hdialed, -⟩ := hstands
      exact ⟨_, .signed htarget hdialed, by simp [hcalls, hopen]⟩
  | queued | cleared | dropped | done => exact hstands.elim

theorem Serves.conforms (hserves : Serves userAgent profile id link)
    (hopen : link.closed = false) : Conforms userAgent profile id link := by
  obtain ⟨target, traffic, htarget, htraffic, hcalls⟩ := hserves.calls
  exact ⟨_, .used htarget hserves.dialed hserves.accepted htraffic, by simp [hcalls, hopen]⟩

theorem Stands.serves {worked : LinkId}
    (hstands : Stands userAgent profile id link (.answered worked (.ok ()))) :
    Serves userAgent profile id link := by
  obtain ⟨target, reply, htarget, hcalls, hdialed, hreplies, haccepts⟩ := hstands
  obtain ⟨body, hreply, haccept⟩ := haccepts rfl
  refine ⟨hdialed, ⟨body, ?_, haccept⟩, target, [], htarget, .idle, ?_⟩
  · rw [hreplies, hreply]
    rfl
  · rw [hcalls, List.append_nil]

/-! ## What changes a record -/

theorem Course.of_eq {later : Rehearsal.Link} {course : List Rehearsal.Call}
    (hcourse : Course userAgent profile id link course) (hdialed : later.dialed = link.dialed)
    (hreplies : later.replies = link.replies) : Course userAgent profile id later course := by
  have haccepted : Accepted link → Accepted later := by
    unfold Accepted
    rw [hreplies]
    exact fun haccepts => haccepts
  cases hcourse with
  | resolved => exact .resolved
  | dialed htarget => exact .dialed htarget
  | signed htarget hsigned => exact .signed htarget (hdialed.trans hsigned)
  | used htarget hsigned haccepts htraffic =>
      exact .used htarget (hdialed.trans hsigned) (haccepted haccepts) htraffic

theorem Conforms.lose (hconforms : Conforms userAgent profile id link) (lost : Bool) :
    Conforms userAgent profile id { link with lost } := by
  obtain ⟨course, hcourse, hcalls⟩ := hconforms
  exact ⟨course, hcourse.of_eq rfl rfl, hcalls⟩

theorem Conforms.close (hconforms : Conforms userAgent profile id link)
    (hopen : link.closed = false) :
    Conforms userAgent profile id { link.record .close with closed := true } := by
  obtain ⟨course, hcourse, hcalls⟩ := hconforms
  exact ⟨course, hcourse.of_eq rfl rfl, by simp [Rehearsal.Link.record, hcalls, hopen]⟩

theorem Serves.lose (hserves : Serves userAgent profile id link) (lost : Bool) :
    Serves userAgent profile id { link with lost } :=
  ⟨hserves.dialed, hserves.accepted, hserves.calls⟩

theorem Stands.lose {stage : Stage} (hstands : Stands userAgent profile id link stage)
    (lost : Bool) : Stands userAgent profile id { link with lost } stage := by
  cases stage with
  | bound | dialing | answered => exact hstands
  | queued | cleared | dropped | done => exact hstands.elim

theorem Serves.request (hserves : Serves userAgent profile id link) (service : Service)
    (payload : List UInt8) (reply : Option (List UInt8)) (lost : Bool) :
    Serves userAgent profile id
      { link with
        calls := link.calls ++ [.request service.protocol payload]
        replies := link.replies ++ [reply]
        lost } where
  dialed := hserves.dialed
  accepted := by
    obtain ⟨body, hbody, haccept⟩ := hserves.accepted
    exact ⟨body, by simp [List.head?_append, hbody], haccept⟩
  calls := by
    obtain ⟨target, traffic, htarget, htraffic, hcalls⟩ := hserves.calls
    refine ⟨target, _, htarget, htraffic.request service payload, ?_⟩
    rw [hcalls, List.append_assoc]

theorem Serves.round (hserves : Serves userAgent profile id link) :
    Serves userAgent profile id
      { link with calls := link.calls ++ profile.bootstrap.map .resolve } where
  dialed := hserves.dialed
  accepted := hserves.accepted
  calls := by
    obtain ⟨target, traffic, htarget, htraffic, hcalls⟩ := hserves.calls
    refine ⟨target, _, htarget, htraffic.round, ?_⟩
    rw [hcalls, List.append_assoc]
    rfl

theorem verdictOn_eq_ok {reply : Except Link.Error (List UInt8)}
    (hverdict : verdictOn reply = .ok ()) :
    ∃ body, reply = .ok body ∧ acceptance body = .ok () := by
  cases reply with
  | error error => simp [verdictOn] at hverdict
  | ok body => exact ⟨body, rfl, hverdict⟩

theorem Stands.sign {dial : Dial} {worked : LinkId} {answer : Except Link.Error (List UInt8)}
    (hstands : Stands userAgent profile id link (.dialing dial)) (lost : Bool) :
    Stands userAgent profile id
      { link with
        dialed := true
        calls := link.calls ++ [signature userAgent profile id]
        replies := link.replies ++ [answer.toOption]
        lost }
      (.answered worked (verdictOn answer)) := by
  obtain ⟨target, htarget, hcalls, hreplies, -⟩ := hstands
  refine ⟨target, answer.toOption, htarget, by simp [hcalls], rfl, by simp [hreplies], ?_⟩
  intro hverdict
  obtain ⟨body, rfl, haccept⟩ := verdictOn_eq_ok hverdict
  exact ⟨body, rfl, haccept⟩

end

end NodeLink.Session
