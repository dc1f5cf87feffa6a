import NodeLink.Rehearsal.Cue
/-!
# What an operation leaves alone

Every operation on a rehearsed network but binding concerns one link: it
changes what that link has recorded and keeps the script, what was bound and all
other links.  Only closing changes which links are open.
-/

namespace NodeLink.Rehearsal

def Reply.result : Reply → Except Link.Error (List UInt8)
  | .body bytes => .ok bytes
  | .lost => .error (.connectionLost Network.lossReason)
  | .timeout => .error (.timeout Network.answerTimeout)
  | .reset => .error (.stream Network.resetReason)

namespace Network

/-- Two networks differ at most in what has happened on one link. -/
structure AgreesOff (id : LinkId) (network later : Network) : Prop where
  script : later.script = network.script
  binds : later.binds = network.binds
  size : later.links.length = network.links.length
  elsewhere : ∀ other, other ≠ id → later.link? other = network.link? other

namespace AgreesOff

variable {id : LinkId} {network later last : Network}

theorem refl (id : LinkId) (network : Network) : network.AgreesOff id network :=
  ⟨rfl, rfl, rfl, fun _ _ => rfl⟩

theorem trans (hfirst : network.AgreesOff id later)
    (hsecond : later.AgreesOff id last) : network.AgreesOff id last where
  script := hsecond.script.trans hfirst.script
  binds := hsecond.binds.trans hfirst.binds
  size := hsecond.size.trans hfirst.size
  elsewhere := fun other hother =>
    (hsecond.elsewhere other hother).trans (hfirst.elsewhere other hother)

end AgreesOff

/-! ## Changing the record of a link -/

theorem exists_link? {network : Network} {id : LinkId} (hlt : id < network.links.length) :
    ∃ link, network.link? id = some link :=
  ⟨network.links[id], List.getElem?_eq_getElem hlt⟩

theorem link?_of_unbound {network : Network} {id : LinkId} (hid : ¬ id < network.links.length) :
    network.link? id = none :=
  List.getElem?_eq_none (Nat.not_lt.mp hid)

theorem modify_of_unbound {network : Network} {id : LinkId} (hid : ¬ id < network.links.length)
    (change : Link → Link) : network.modify id change = network := by
  simp only [modify, List.modify_eq_self (Nat.not_lt.mp hid)]

theorem link?_modify_self (network : Network) (id : LinkId) (change : Link → Link) :
    (network.modify id change).link? id = (network.link? id).map change := by
  simp [link?, modify]

theorem agreesOff_modify (network : Network) (id : LinkId) (change : Link → Link) :
    network.AgreesOff id (network.modify id change) where
  script := rfl
  binds := rfl
  size := by simp [modify]
  elsewhere := by
    intro other hother
    simp [link?, modify, List.getElem?_modify_ne _ _ (Ne.symm hother)]

theorem isOpen_modify (network : Network) (id other : LinkId) {change : Link → Link}
    (hchange : ∀ link, (change link).closed = link.closed) :
    (network.modify id change).isOpen other = network.isOpen other := by
  by_cases hother : other = id
  · subst other
    simp only [isOpen, link?_modify_self]
    cases network.link? id <;> simp [hchange]
  · simp only [isOpen, (network.agreesOff_modify id change).elsewhere other hother]

theorem isOpen_eq_true_iff {network : Network} {id : LinkId} :
    network.isOpen id = true ↔ ∃ link, network.link? id = some link ∧ link.closed = false := by
  simp [isOpen, Option.any_eq_true]

theorem lt_length_of_isOpen {network : Network} {id : LinkId}
    (hopen : network.isOpen id = true) : id < network.links.length := by
  obtain ⟨link, hlink, -⟩ := isOpen_eq_true_iff.mp hopen
  exact (List.getElem?_eq_some_iff.mp hlink).1

theorem mem_openLinks_iff {network : Network} {id : LinkId} :
    id ∈ network.openLinks ↔ network.isOpen id = true := by
  simp only [openLinks, List.mem_filter, List.mem_range, and_iff_right_iff_imp]
  exact lt_length_of_isOpen

/-! ## Recording a call -/

theorem agreesOff_record (network : Network) (id : LinkId) (call : Call) :
    network.AgreesOff id (network.record id call) :=
  network.agreesOff_modify id _

@[simp] theorem isOpen_record (network : Network) (id other : LinkId) (call : Call) :
    (network.record id call).isOpen other = network.isOpen other :=
  network.isOpen_modify id other fun _ => rfl

theorem link?_record_self (network : Network) (id : LinkId) (call : Call) :
    (network.record id call).link? id = (network.link? id).map (·.record call) :=
  network.link?_modify_self id _

/-! ## Resolving entries -/

theorem resolveEach_cons (network : Network) (id : LinkId) (entry : String)
    (entries : List String) :
    network.resolveEach id (entry :: entries) =
      (network.record id (.resolve entry)).resolveEach id entries := rfl

theorem agreesOff_resolveEach (network : Network) (id : LinkId) (entries : List String) :
    network.AgreesOff id (network.resolveEach id entries) := by
  induction entries generalizing network with
  | nil => exact .refl id network
  | cons entry entries ih =>
      rw [resolveEach_cons]
      exact (network.agreesOff_record id _).trans (ih _)

@[simp] theorem isOpen_resolveEach (network : Network) (id other : LinkId)
    (entries : List String) :
    (network.resolveEach id entries).isOpen other = network.isOpen other := by
  induction entries generalizing network with
  | nil => rfl
  | cons entry entries ih => rw [resolveEach_cons, ih, isOpen_record]

theorem link?_resolveEach_self (network : Network) (id : LinkId) (entries : List String) :
    (network.resolveEach id entries).link? id =
      (network.link? id).map fun link =>
        { link with calls := link.calls ++ entries.map .resolve } := by
  induction entries generalizing network with
  | nil => simp [resolveEach]
  | cons entry entries ih =>
      rw [resolveEach_cons, ih, link?_record_self]
      cases network.link? id <;> simp [Link.record]

/-! ## Requests -/

theorem reply_network (network : Network) (id : LinkId) (protocol : String) :
    (network.reply id protocol).1 = network ∨
      (network.reply id protocol).1 =
        network.modify id fun link => { link with lost := true } := by
  unfold reply
  cases network.link? id with
  | none => exact .inl rfl
  | some link =>
      simp only
      split
      next => exact .inl rfl
      next =>
        split
        next => exact .inl rfl
        next =>
          split
          next => exact .inl rfl
          next =>
            unfold answer
            cases network.script.replyTo protocol with
            | lost => exact .inr rfl
            | body _ => exact .inl rfl
            | timeout => exact .inl rfl
            | reset => exact .inl rfl

theorem agreesOff_reply (network : Network) (id : LinkId) (protocol : String) :
    network.AgreesOff id (network.reply id protocol).1 := by
  rcases network.reply_network id protocol with hsame | hlost
  · rw [hsame]
    exact .refl id network
  · rw [hlost]
    exact agreesOff_modify network id _

theorem agreesOff_request (network : Network) (id : LinkId) (protocol : String)
    (payload : List UInt8) :
    network.AgreesOff id (network.request id protocol payload).1 :=
  ((network.agreesOff_record id _).trans (agreesOff_reply _ id protocol)).trans
    (agreesOff_modify _ id _)

/-- A link gets lost on a request just if that is what the request reports. -/
theorem link?_reply_self {network : Network} {id : LinkId} {link : Link}
    (hlink : network.link? id = some link) (protocol : String) :
    ∃ lost, (network.reply id protocol).1.link? id = some { link with lost } ∧
      (lost = true ↔
        (network.reply id protocol).2 = .error (.connectionLost lossReason) ∨
          link.lost = true) := by
  unfold reply
  rw [hlink]
  simp only
  split
  next => exact ⟨link.lost, hlink, by simp⟩
  next =>
    split
    next => exact ⟨link.lost, hlink, by simp⟩
    next =>
      split
      next hlost => exact ⟨link.lost, hlink, by simp [hlost]⟩
      next =>
        unfold answer
        cases network.script.replyTo protocol with
        | lost => exact ⟨true, by rw [link?_modify_self, hlink, Option.map_some], by simp⟩
        | body | timeout | reset => exact ⟨link.lost, hlink, by simp⟩

@[simp] theorem isOpen_request (network : Network) (id other : LinkId) (protocol : String)
    (payload : List UInt8) :
    (network.request id protocol payload).1.isOpen other = network.isOpen other := by
  have hreply :
      ((network.record id (.request protocol payload)).reply id protocol).1.isOpen other =
        network.isOpen other := by
    rcases (network.record id (.request protocol payload)).reply_network id protocol
      with hsame | hlost
    · rw [hsame, isOpen_record]
    · rw [hlost, isOpen_modify, isOpen_record]
      exact fun _ => rfl
  simp only [request]
  rw [isOpen_modify, hreply]
  exact fun _ => rfl

/-- A request leaves on its link what was sent and what came back; beyond that it
can only find out that the connection is lost. -/
theorem link?_request_self {network : Network} {id : LinkId} {link : Link}
    (hlink : network.link? id = some link) (protocol : String) (payload : List UInt8) :
    ∃ lost, (network.request id protocol payload).1.link? id =
      some { link with
        calls := link.calls ++ [.request protocol payload]
        replies := link.replies ++ [(network.request id protocol payload).2.toOption]
        lost } := by
  have hrecord :
      (network.record id (.request protocol payload)).link? id =
        some (link.record (.request protocol payload)) := by
    rw [link?_record_self, hlink, Option.map_some]
  simp only [request, link?_modify_self]
  rcases (network.record id (.request protocol payload)).reply_network id protocol
    with hsame | hlost
  · exact ⟨link.lost, by rw [hsame, hrecord]; rfl⟩
  · exact ⟨true, by rw [hlost, link?_modify_self, hrecord]; rfl⟩

theorem answer_result (network : Network) (id : LinkId) (protocol : String) :
    (network.answer id protocol).2 = (network.script.replyTo protocol).result := by
  unfold answer
  cases network.script.replyTo protocol with
  | body | lost | timeout | reset => rfl

theorem request_result {network : Network} {id : LinkId} {link : Link} {protocol : String}
    (hlink : network.link? id = some link) (hprotocol : protocol ∈ link.protocols)
    (hup : link.isUp = true) (payload : List UInt8) :
    (network.request id protocol payload).2 = (network.script.replyTo protocol).result := by
  simp only [Link.isUp, Bool.and_eq_true, Bool.not_eq_eq_eq_not, Bool.not_true] at hup
  obtain ⟨⟨hdialed, hlost⟩, hclosed⟩ := hup
  have hrecord : (network.record id (.request protocol payload)).link? id =
      some (link.record (.request protocol payload)) := by
    rw [link?_record_self, hlink, Option.map_some]
  have hscript := (network.agreesOff_record id (.request protocol payload)).script
  simp only [request, reply, hrecord, Link.record, hprotocol, hclosed, hdialed, hlost]
  rw [← hscript, ← answer_result _ id]
  rfl

/-- What a request brings on a link that is not up does not depend on the script. -/
theorem request_result_of_down {network : Network} {id : LinkId} {link : Link} {protocol : String}
    (hlink : network.link? id = some link) (hprotocol : protocol ∈ link.protocols)
    (hdown : link.isUp = false) (payload : List UInt8) :
    (network.request id protocol payload).2 =
      if link.closed || !link.dialed then .error .notConnected
      else .error (.connectionLost lossReason) := by
  have hrecord : (network.record id (.request protocol payload)).link? id =
      some (link.record (.request protocol payload)) := by
    rw [link?_record_self, hlink, Option.map_some]
  simp only [request, reply, hrecord, Link.record, hprotocol, not_true_eq_false, if_false]
  split
  next => rfl
  next hopen =>
    have hlost : link.lost = true := by
      simp only [Link.isUp, Bool.or_eq_true, Bool.not_eq_eq_eq_not, Bool.not_true, not_or,
        Bool.not_eq_false, Bool.not_eq_true] at hdown hopen
      simpa [hopen] using hdown
    rw [if_pos hlost]

theorem reply_network_of_ok {network : Network} {id : LinkId} {protocol : String}
    {body : List UInt8} (hreply : (network.reply id protocol).2 = .ok body) :
    (network.reply id protocol).1 = network := by
  unfold reply at hreply ⊢
  cases hlink : network.link? id with
  | none => rfl
  | some link =>
      simp only [hlink] at hreply ⊢
      split
      next => rfl
      next hprotocol =>
        split
        next => rfl
        next hopen =>
          split
          next => rfl
          next hlost =>
            rw [if_neg hprotocol, if_neg hopen, if_neg hlost] at hreply
            unfold answer at hreply ⊢
            cases hanswer : network.script.replyTo protocol with
            | lost =>
                rw [hanswer] at hreply
                cases hreply
            | body | timeout | reset => rfl

/-- A link on which a request was answered is up if it was up before. -/
theorem isUp_request_of_ok {network : Network} {id : LinkId} {protocol : String}
    {payload body : List UInt8} (hup : network.isUp id = true)
    (hanswer : (network.request id protocol payload).2 = .ok body) :
    (network.request id protocol payload).1.isUp id = true := by
  have hrecord : (network.record id (.request protocol payload)).isUp id = true := by
    simp only [isUp, link?_record_self, Option.any_map] at hup ⊢
    exact hup
  have hsame := reply_network_of_ok hanswer
  simp only [request, hsame, isUp, link?_modify_self, Option.any_map] at hrecord ⊢
  exact hrecord

/-! ## Dialing -/

theorem bind_eq_error {network later : Network} {terms : Link.Terms} {error : Link.Error}
    (hbound : network.bind terms = (later, .error error)) :
    network.script.bindFault? terms = some error ∧
      later = { network with binds := network.binds ++ [terms] } := by
  unfold bind at hbound
  cases hfault : network.script.bindFault? terms with
  | some fault =>
      simp only [hfault, Prod.mk.injEq, Except.error.injEq] at hbound
      exact ⟨congrArg some hbound.2, hbound.1.symm⟩
  | none => simp [hfault] at hbound

theorem bind_eq_ok {network later : Network} {terms : Link.Terms} {id : LinkId}
    (hbound : network.bind terms = (later, .ok id)) :
    network.script.bindFault? terms = none ∧ id = network.links.length ∧
      later = { network with
        binds := network.binds ++ [terms]
        links := network.links ++ [.bound terms.protocols] } := by
  unfold bind at hbound
  cases hfault : network.script.bindFault? terms with
  | some fault => simp [hfault] at hbound
  | none =>
      simp only [hfault, Prod.mk.injEq, Except.ok.injEq] at hbound
      exact ⟨rfl, hbound.2.symm, hbound.1.symm⟩

theorem size_le_bind (network : Network) (terms : Link.Terms) :
    network.links.length ≤ (network.bind terms).1.links.length := by
  unfold bind
  cases network.script.bindFault? terms <;> simp

theorem agreesOff_endDial (network : Network) (id : LinkId) (failure : Option String) :
    network.AgreesOff id (network.endDial id failure).1 := by
  unfold endDial
  split
  next =>
    cases failure with
    | some reason => exact .refl id network
    | none => exact network.agreesOff_modify id _
  next => exact .refl id network

theorem isOpen_append (network : Network) (binds : List Link.Terms) (protocols : List String)
    (id : LinkId) :
    ({ network with binds, links := network.links ++ [.bound protocols] } : Network).isOpen id =
      (network.isOpen id || id == network.links.length) := by
  simp only [isOpen, link?]
  rcases Nat.lt_trichotomy id network.links.length with hlt | heq | hgt
  · simp [List.getElem?_append_left hlt, Nat.ne_of_lt hlt]
  · subst id
    simp [Link.bound]
  · have hnone : network.links[id]? = none := List.getElem?_eq_none (by omega)
    have hnone' : (network.links ++ [Link.bound protocols])[id]? = none :=
      List.getElem?_eq_none (by simp; omega)
    simp [hnone, hnone', Nat.ne_of_gt hgt]

theorem agreesOff_close (network : Network) (id : LinkId) :
    network.AgreesOff id (network.close id) := by
  unfold close
  split
  next => exact network.agreesOff_modify id _
  next => exact .refl id network

theorem link?_close_self {network : Network} {id : LinkId} {link : Link}
    (hlink : network.link? id = some link) (hopen : link.closed = false) :
    (network.close id).link? id = some { link.record .close with closed := true } := by
  have hisOpen : network.isOpen id = true := isOpen_eq_true_iff.mpr ⟨link, hlink, hopen⟩
  simp [close, hisOpen, link?_modify_self, hlink]

theorem isOpen_close_self (network : Network) (id : LinkId) :
    (network.close id).isOpen id = false := by
  unfold close
  split
  next hopen =>
    simp only [isOpen, link?_modify_self]
    cases network.link? id <;> simp
  next hclosed => simpa using hclosed

theorem isOpen_close_of_ne (network : Network) {id other : LinkId} (hother : other ≠ id) :
    (network.close id).isOpen other = network.isOpen other := by
  simp only [isOpen, (network.agreesOff_close id).elsewhere other hother]

theorem binds_release (network : Network) (id? : Option LinkId) :
    (network.release id?).binds = network.binds := by
  cases id? with
  | none => rfl
  | some id => exact (network.agreesOff_close id).binds

/-! ## Cues -/

@[simp] theorem isOpen_cue (network : Network) (id : LinkId) (given : Cue) :
    (network.cue given).isOpen id = network.isOpen id := by
  cases given with
  | cut =>
      simp only [cue, cut, isOpen, link?, List.getElem?_map]
      cases network.links[id]? <;> rfl
  | _ => rfl

theorem link?_cue {network : Network} {id : LinkId} {later : Link} (given : Cue)
    (hlater : (network.cue given).link? id = some later) :
    ∃ link, network.link? id = some link ∧ later = { link with lost := later.lost } := by
  cases given with
  | cut =>
      simp only [cue, cut, link?, List.getElem?_map, Option.map_eq_some_iff] at hlater
      obtain ⟨link, hlink, rfl⟩ := hlater
      exact ⟨link, hlink, rfl⟩
  | _ => exact ⟨later, hlater, rfl⟩

theorem lost_cue {network : Network} {id : LinkId} {link later : Link} (given : Cue)
    (hlink : network.link? id = some link) (hlater : (network.cue given).link? id = some later) :
    later.lost = true ↔ given = .cut ∨ link.lost = true := by
  cases given with
  | cut =>
      simp only [cue, cut, link?, List.getElem?_map, Option.map_eq_some_iff] at hlater
      obtain ⟨_, _, rfl⟩ := hlater
      simp
  | _ =>
      obtain rfl : link = later := Option.some.inj (hlink.symm.trans hlater)
      simp

theorem exists_link?_cue {network : Network} {id : LinkId} {link : Link} (given : Cue)
    (hlink : network.link? id = some link) :
    ∃ lost, (network.cue given).link? id = some { link with lost } := by
  cases given with
  | cut =>
      refine ⟨true, ?_⟩
      simp only [cue, cut, link?, List.getElem?_map]
      rw [show network.links[id]? = some link from hlink, Option.map_some]
  | _ => exact ⟨link.lost, hlink⟩

theorem binds_cue (network : Network) (given : Cue) :
    (network.cue given).binds = network.binds := by
  cases given with
  | _ => rfl

theorem size_cue (network : Network) (given : Cue) :
    (network.cue given).links.length = network.links.length := by
  cases given with
  | cut => simp [cue, cut]
  | _ => rfl

/-! ## Registered protocols -/

/-- The protocols that every link was bound with. -/
def registered (network : Network) : List (List String) :=
  network.links.map (·.protocols)

theorem registered_modify (network : Network) (id : LinkId) {change : Link → Link}
    (hchange : ∀ link, (change link).protocols = link.protocols) :
    (network.modify id change).registered = network.registered := by
  apply List.ext_getElem?
  intro other
  simp only [registered, modify, List.getElem?_map, List.getElem?_modify]
  cases network.links[other]? with
  | none => rfl
  | some link =>
      simp only [Option.map_some, Option.map_eq_map]
      split
      next => rw [hchange]
      next => rfl

theorem registered_record (network : Network) (id : LinkId) (call : Call) :
    (network.record id call).registered = network.registered :=
  network.registered_modify id fun _ => rfl

theorem registered_resolveEach (network : Network) (id : LinkId) (entries : List String) :
    (network.resolveEach id entries).registered = network.registered := by
  induction entries generalizing network with
  | nil => rfl
  | cons entry entries ih => rw [resolveEach_cons, ih, registered_record]

theorem registered_request (network : Network) (id : LinkId) (protocol : String)
    (payload : List UInt8) :
    (network.request id protocol payload).1.registered = network.registered := by
  have hreply :
      ((network.record id (.request protocol payload)).reply id protocol).1.registered =
        network.registered := by
    rcases (network.record id (.request protocol payload)).reply_network id protocol
      with hsame | hlost
    · rw [hsame, registered_record]
    · rw [hlost, registered_modify, registered_record]
      exact fun _ => rfl
  simp only [request]
  rw [registered_modify, hreply]
  exact fun _ => rfl

theorem registered_release (network : Network) (id? : Option LinkId) :
    (network.release id?).registered = network.registered := by
  cases id? with
  | none => rfl
  | some id =>
      simp only [release, close]
      split
      next => exact network.registered_modify id fun _ => rfl
      next => rfl

theorem registered_cue (network : Network) (given : Cue) :
    (network.cue given).registered = network.registered := by
  cases given with
  | cut => simp [cue, cut, registered]
  | _ => rfl

end Network

end NodeLink.Rehearsal
