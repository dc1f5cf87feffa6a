import NodeLink.Proofs.Rehearsal.Network
import NodeLink.Rehearsal.Interplay
/-!
# Reading what happened on a network

How a link stands can be read off what happened alone, whatever the order in which it did: what
was called on it, whether it was told to close, whether a dial on it has succeeded, and whether
its connection was lost since.  Each event that a network can bring forth keeps this true.
-/

namespace NodeLink.Rehearsal

/-! ## Closing more than once -/

/-- The calls without all closings but the first. -/
def Call.firstClose : List Call → List Call
  | [] => []
  | call :: calls =>
    call :: if call = .close then calls.filter (· ≠ .close) else firstClose calls

namespace Call

theorem mem_firstClose {call : Call} {calls : List Call} :
    call ∈ firstClose calls ↔ call ∈ calls := by
  induction calls with
  | nil => rfl
  | cons first calls ih =>
      by_cases hclose : first = .close
      · by_cases hcall : call = .close <;> simp [firstClose, hclose, hcall]
      · simp [firstClose, hclose, ih]

theorem firstClose_concat {call : Call} {calls : List Call}
    (hcall : call ≠ .close ∨ .close ∉ calls) :
    firstClose (calls ++ [call]) = firstClose calls ++ [call] := by
  induction calls with
  | nil => simp [firstClose]
  | cons first calls ih =>
      by_cases hclose : first = .close
      · have hne : call ≠ .close := by simpa [hclose] using hcall
        simp [firstClose, hclose, hne]
      · have hrest : call ≠ .close ∨ .close ∉ calls :=
          hcall.imp_right fun hmem hrest => hmem (List.mem_cons_of_mem first hrest)
        simp [firstClose, hclose, ih hrest]

theorem firstClose_concat_close {calls : List Call} (hmem : .close ∈ calls) :
    firstClose (calls ++ [.close]) = firstClose calls := by
  induction calls with
  | nil => simp at hmem
  | cons first calls ih =>
      by_cases hclose : first = .close
      · simp [firstClose, hclose]
      · have hrest : .close ∈ calls := by simpa [Ne.symm hclose] using hmem
        simp [firstClose, hclose, ih hrest]

theorem count_firstClose_le (calls : List Call) : (firstClose calls).count .close ≤ 1 := by
  induction calls with
  | nil => simp [firstClose]
  | cons first calls ih =>
      by_cases hclose : first = .close
      · have hnone : (calls.filter (· ≠ .close)).count .close = 0 :=
          List.count_eq_zero.mpr (by simp)
        apply Nat.le_of_eq
        rw [firstClose, if_pos hclose, hclose, List.count_cons_self, hnone]
      · simpa [firstClose, hclose] using ih

end Call

/-- The calls that a link has recorded; none if there is no such link. -/
def Network.recorded (network : Network) (id : LinkId) : List Call :=
  ((network.link? id).map (·.calls)).getD []

namespace Interplay

/-! ## Reading what happened -/

namespace Event

def boundLink? : Event → Option LinkId
  | .bound _ (.ok id) => some id
  | _ => none

def link? : Event → Option LinkId
  | .called id _ | .resolved id _ _ | .dialed id _ | .answered id _ _ => some id
  | .cued _ | .bound _ _ => none

def callOn? (id : LinkId) : Event → Option Call
  | .called link call => if link = id then some call else none
  | _ => none

def reply? (protocol : String) : Event → Option Reply
  | .cued (.reply other reply) => if other = protocol then some reply else none
  | _ => none

/-- The connection of a link gets lost, with all others or while a request is under way. -/
def Loses (id : LinkId) : Event → Prop
  | .cued given => given = .cut
  | .answered link _ result => link = id ∧ result = .error (.connectionLost Network.lossReason)
  | _ => False

end Event

def boundLinks (past : List Event) : List LinkId :=
  past.filterMap Event.boundLink?

/-- The calls that were made on a link, in order; a dial counts from its start. -/
def callsOn (past : List Event) (id : LinkId) : List Call :=
  past.filterMap (Event.callOn? id)

/-- The reply that was given last for a protocol. -/
def currentReply (past : List Event) (protocol : String) : Reply :=
  ((past.filterMap (Event.reply? protocol)).getLast?).getD Script.defaultReply

def IsRegistered (past : List Event) (id : LinkId) (protocol : String) : Prop :=
  ∃ terms, .bound terms (.ok id) ∈ past ∧ protocol ∈ terms.protocols

/-- The connection of a link was lost, and no dial on it has succeeded since. -/
def IsLost (past : List Event) (id : LinkId) : Prop :=
  ∃ before event after, past = before ++ event :: after ∧ event.Loses id ∧
    .dialed id (.ok ()) ∉ after

/-! ## One event more -/

/-- What is about one link says nothing about how others stand. -/
theorem Event.of_other_link {event : Event} {id other : LinkId} (hlink : event.link? = some id)
    (hother : other ≠ id) :
    event.callOn? other = none ∧ event ≠ .dialed other (.ok ()) ∧ ¬ event.Loses other := by
  cases event with
  | cued | bound => cases hlink
  | called link | resolved link | dialed link | answered link =>
      obtain rfl := Option.some.inj hlink
      simp [callOn?, Loses, Ne.symm hother]

theorem Event.boundLink?_of_link {event : Event} {id : LinkId} (hlink : event.link? = some id) :
    event.boundLink? = none := by
  cases event with
  | cued | bound => cases hlink
  | called | resolved | dialed | answered => rfl

theorem Event.reply?_of_link {event : Event} {id : LinkId} (hlink : event.link? = some id)
    (protocol : String) : event.reply? protocol = none := by
  cases event with
  | cued | bound => cases hlink
  | called | resolved | dialed | answered => rfl

section

variable {past : List Event} {event : Event} {id : LinkId}

theorem boundLinks_concat :
    boundLinks (past ++ [event]) = boundLinks past ++ event.boundLink?.toList := by
  cases hbound : event.boundLink? <;> simp [boundLinks, hbound]

theorem callsOn_concat :
    callsOn (past ++ [event]) id = callsOn past id ++ (event.callOn? id).toList := by
  cases hcall : event.callOn? id <;> simp [callsOn, hcall]

theorem currentReply_concat {protocol : String} :
    currentReply (past ++ [event]) protocol =
      (event.reply? protocol).getD (currentReply past protocol) := by
  cases hreply : event.reply? protocol <;> simp [currentReply, hreply]

theorem isLost_concat :
    IsLost (past ++ [event]) id ↔
      event.Loses id ∨ IsLost past id ∧ event ≠ .dialed id (.ok ()) := by
  constructor
  · rintro ⟨before, loss, after, hpast, hloss, hafter⟩
    rcases List.eq_nil_or_concat after with rfl | ⟨rest, last, rfl⟩
    · obtain ⟨-, hlast⟩ := List.append_inj' hpast rfl
      rw [(List.cons.inj hlast).1]
      exact .inl hloss
    · rw [List.concat_eq_append] at hpast hafter
      rw [← List.cons_append, ← List.append_assoc] at hpast
      obtain ⟨hpast, hlast⟩ := List.append_inj' hpast rfl
      rw [(List.cons.inj hlast).1]
      rw [List.mem_append, List.mem_singleton, not_or] at hafter
      exact .inr ⟨⟨before, loss, rest, hpast, hloss, hafter.1⟩, Ne.symm hafter.2⟩
  · rintro (hloss | ⟨⟨before, loss, after, rfl, hloss, hafter⟩, hevent⟩)
    · exact ⟨past, event, [], rfl, hloss, List.not_mem_nil⟩
    · refine ⟨before, loss, after ++ [event], by simp, hloss, ?_⟩
      rw [List.mem_append, List.mem_singleton, not_or]
      exact ⟨hafter, Ne.symm hevent⟩

theorem called_mem_iff {call : Call} : .called id call ∈ past ↔ call ∈ callsOn past id := by
  simp only [callsOn, List.mem_filterMap]
  constructor
  · exact fun hmem => ⟨_, hmem, by simp [Event.callOn?]⟩
  · rintro ⟨event, hmem, hcall⟩
    cases event with
    | called link other =>
        simp only [Event.callOn?, Option.ite_none_right_eq_some, Option.some.injEq] at hcall
        obtain ⟨rfl, rfl⟩ := hcall
        exact hmem
    | _ => simp [Event.callOn?] at hcall

end

/-! ## How a link stands -/

/-- A link stands as one can tell from what happened. -/
structure Stands (past : List Event) (id : LinkId) (link : Link) : Prop where
  protocols : ∀ terms, .bound terms (.ok id) ∈ past → link.protocols = terms.protocols
  calls : link.calls = Call.firstClose (callsOn past id)
  closed : link.closed = true ↔ .called id .close ∈ past
  dialed : link.dialed = true ↔ .dialed id (.ok ()) ∈ past
  lost : link.dialed = true → (link.lost = true ↔ IsLost past id)

namespace Stands

variable {past : List Event} {id : LinkId} {link : Link} (hstands : Stands past id link)

include hstands

/-- Whatever happens that is neither a call on the link nor a dial that succeeds. -/
theorem goesOn {event : Event} {lost : Bool} (hbound : ∀ terms, event ≠ .bound terms (.ok id))
    (hcalled : event.callOn? id = none) (hdialed : event ≠ .dialed id (.ok ()))
    (hlost : lost = true ↔ event.Loses id ∨ link.lost = true) :
    Stands (past ++ [event]) id { link with lost } where
  protocols := by
    intro terms hmem
    rw [List.mem_append, List.mem_singleton] at hmem
    exact hstands.protocols terms (hmem.resolve_right (Ne.symm (hbound terms)))
  calls := by rw [callsOn_concat, hcalled, Option.toList_none, List.append_nil, hstands.calls]
  closed := by
    rw [called_mem_iff, callsOn_concat, hcalled, Option.toList_none, List.append_nil,
      ← called_mem_iff, hstands.closed]
  dialed := by
    rw [List.mem_append, List.mem_singleton, hstands.dialed]
    exact (or_iff_left (Ne.symm hdialed)).symm
  lost := by
    intro hlink
    rw [isLost_concat, hlost, hstands.lost hlink, and_iff_left hdialed]

theorem called {call : Call} {calls : List Call} {closed : Bool}
    (hcalls : calls = Call.firstClose (callsOn past id ++ [call]))
    (hclosed : closed = true ↔ link.closed = true ∨ call = .close) :
    Stands (past ++ [.called id call]) id { link with calls, closed } where
  protocols := fun terms hmem => hstands.protocols terms (by simpa using hmem)
  calls := by simpa [callsOn_concat, Event.callOn?] using hcalls
  closed := by simp [hclosed, hstands.closed, eq_comm]
  dialed := by simpa using hstands.dialed
  lost := by
    intro hlink
    rw [isLost_concat]
    simpa [Event.Loses] using hstands.lost hlink

theorem recorded {call : Call} (hcall : call ≠ .close) :
    Stands (past ++ [.called id call]) id (link.record call) := by
  have hcalls : (link.record call).calls = Call.firstClose (callsOn past id ++ [call]) := by
    rw [Call.firstClose_concat (.inl hcall), ← hstands.calls]
    rfl
  exact hstands.called hcalls (or_iff_left hcall).symm

theorem closedFirst (hopen : link.closed = false) :
    Stands (past ++ [.called id .close]) id { link.record .close with closed := true } := by
  have hnone : .close ∉ callsOn past id := by
    rw [← called_mem_iff, ← hstands.closed, hopen]
    exact Bool.false_ne_true
  have hcalls : (link.record .close).calls = Call.firstClose (callsOn past id ++ [.close]) := by
    rw [Call.firstClose_concat (.inr hnone), ← hstands.calls]
    rfl
  exact hstands.called hcalls (by simp)

theorem closedAgain (hclosed : link.closed = true) :
    Stands (past ++ [.called id .close]) id link := by
  have hclose : .close ∈ callsOn past id := called_mem_iff.mp (hstands.closed.mp hclosed)
  have hcalls : link.calls = Call.firstClose (callsOn past id ++ [.close]) := by
    rw [Call.firstClose_concat_close hclose, ← hstands.calls]
  exact hstands.called hcalls (by simp [hclosed])

theorem dialSucceeded :
    Stands (past ++ [.dialed id (.ok ())]) id { link with dialed := true, lost := false } where
  protocols := fun terms hmem => hstands.protocols terms (by simpa using hmem)
  calls := by simpa [callsOn_concat, Event.callOn?] using hstands.calls
  closed := by simpa using hstands.closed
  dialed := by simp
  lost := by simp [isLost_concat, Event.Loses]

theorem isUp_iff : link.isUp = true ↔
    .dialed id (.ok ()) ∈ past ∧ ¬ IsLost past id ∧ .called id .close ∉ past := by
  rw [← hstands.closed, ← hstands.dialed]
  by_cases hdialed : link.dialed = true
  · rw [← hstands.lost hdialed]
    simp [Link.isUp, and_assoc]
  · simp [Link.isUp, hdialed]

end Stands

/-! ## What happened accounts for the network -/

structure AccountsFor (past : List Event) (network : Network) : Prop where
  bound : boundLinks past = List.range network.links.length
  known : ∀ event ∈ past, ∀ id ∈ event.link?, id < network.links.length
  links : ∀ id link, network.link? id = some link → Stands past id link
  replies : ∀ protocol, network.script.replyTo protocol = currentReply past protocol

theorem accountsFor_initial : AccountsFor [] Network.initial where
  bound := rfl
  known := fun _ hmem => absurd hmem List.not_mem_nil
  links := fun _ _ hlink => by simp [Network.link?, Network.initial] at hlink
  replies := fun _ => rfl

namespace AccountsFor

variable {past : List Event} {network later : Network} {event : Event} {id : LinkId}
  (haccounts : AccountsFor past network)

include haccounts

theorem known_concat {size : Nat} (hsize : network.links.length ≤ size)
    (hevent : ∀ id ∈ event.link?, id < size) :
    ∀ known ∈ past ++ [event], ∀ id ∈ known.link?, id < size := by
  intro known hmem id hid
  rw [List.mem_append, List.mem_singleton] at hmem
  rcases hmem with hold | rfl
  · exact Nat.lt_of_lt_of_le (haccounts.known known hold id hid) hsize
  · exact hevent id hid

/-- What happens on one link leaves the others as they stand. -/
theorem onLink (hlt : id < network.links.length) (hevent : event.link? = some id)
    (hagrees : network.AgreesOff id later)
    (hlink : ∀ link, network.link? id = some link → Stands past id link →
      ∃ next, later.link? id = some next ∧ Stands (past ++ [event]) id next) :
    AccountsFor (past ++ [event]) later where
  bound := by
    rw [boundLinks_concat, Event.boundLink?_of_link hevent, Option.toList_none, List.append_nil,
      hagrees.size, haccounts.bound]
  known := by
    rw [hagrees.size]
    refine haccounts.known_concat (Nat.le_refl _) fun other hother => ?_
    rw [hevent] at hother
    exact Option.some.inj hother ▸ hlt
  links := by
    intro other link hother
    by_cases hsame : other = id
    · subst other
      obtain ⟨former, hformer⟩ := Network.exists_link? hlt
      obtain ⟨next, hnext, hstands⟩ := hlink former hformer (haccounts.links id former hformer)
      rw [hnext, Option.some.injEq] at hother
      exact hother ▸ hstands
    · rw [hagrees.elsewhere other hsame] at hother
      obtain ⟨hcalled, hdialed, hlost⟩ := Event.of_other_link hevent hsame
      refine (haccounts.links other link hother).goesOn ?_ hcalled hdialed (by simp [hlost])
      rintro terms rfl
      cases hevent
  replies := by
    intro protocol
    rw [currentReply_concat, Event.reply?_of_link hevent, Option.getD_none, hagrees.script,
      haccounts.replies]

theorem called (hlt : id < network.links.length) (call : Call) (hcall : call ≠ .close) :
    AccountsFor (past ++ [.called id call]) (network.record id call) := by
  refine haccounts.onLink hlt rfl (network.agreesOff_record id call) fun link hlink hstands => ?_
  refine ⟨link.record call, ?_, hstands.recorded hcall⟩
  rw [Network.link?_record_self, hlink, Option.map_some]

theorem closed (hlt : id < network.links.length) :
    AccountsFor (past ++ [.called id .close]) (network.close id) := by
  refine haccounts.onLink hlt rfl (network.agreesOff_close id) fun link hlink hstands => ?_
  cases hclosed : link.closed with
  | false => exact ⟨_, Network.link?_close_self hlink hclosed, hstands.closedFirst hclosed⟩
  | true =>
      refine ⟨link, ?_, hstands.closedAgain hclosed⟩
      simp [Network.close, Network.isOpen, hlink, hclosed]

/-- Some of what happens on a link says nothing about how it stands. -/
theorem unmoved (hlt : id < network.links.length) (hevent : event.link? = some id)
    (hcalled : event.callOn? id = none) (hdialed : event ≠ .dialed id (.ok ()))
    (hlost : ¬ event.Loses id) : AccountsFor (past ++ [event]) network := by
  refine haccounts.onLink hlt hevent (.refl id network) fun link hlink hstands => ?_
  refine ⟨link, hlink, hstands.goesOn ?_ hcalled hdialed (or_iff_right hlost).symm⟩
  rintro terms rfl
  cases hevent

theorem resolved (hlt : id < network.links.length) (entry : String)
    (result : Except Link.Error (List Address.Socket)) :
    AccountsFor (past ++ [.resolved id entry result]) network :=
  haccounts.unmoved hlt rfl rfl nofun not_false

theorem answered (hlt : id < network.links.length) (protocol : String) :
    AccountsFor (past ++ [.answered id protocol (network.reply id protocol).2])
      ((network.reply id protocol).1.modify id fun link =>
        { link with replies := link.replies ++ [(network.reply id protocol).2.toOption] }) := by
  refine haccounts.onLink hlt rfl ((network.agreesOff_reply id protocol).trans
    (Network.agreesOff_modify _ id _)) fun link hlink hstands => ?_
  obtain ⟨lost, hnext, hlost⟩ := Network.link?_reply_self hlink protocol
  have hlater : Stands (past ++ [.answered id protocol (network.reply id protocol).2]) id
      { link with lost } :=
    hstands.goesOn (by simp) rfl (by simp) (by simpa [Event.Loses] using hlost)
  -- what came back on a link is kept on it, but says nothing about how it stands
  refine ⟨{ link with lost, replies := link.replies ++ [(network.reply id protocol).2.toOption] },
    ?_, hlater.protocols, hlater.calls, hlater.closed, hlater.dialed, hlater.lost⟩
  rw [Network.link?_modify_self, hnext, Option.map_some]

theorem dialed (hlt : id < network.links.length) (failure : Option String) :
    AccountsFor (past ++ [.dialed id (network.endDial id failure).2])
      (network.endDial id failure).1 := by
  have hfails {error : Link.Error} : AccountsFor (past ++ [.dialed id (.error error)]) network :=
    haccounts.unmoved hlt rfl rfl nofun not_false
  unfold Network.endDial
  split
  next =>
    cases failure with
    | some reason => exact hfails
    | none =>
        refine haccounts.onLink hlt rfl (network.agreesOff_modify id _)
          fun link hlink hstands => ⟨_, ?_, hstands.dialSucceeded⟩
        rw [Network.link?_modify_self, hlink, Option.map_some]
  next => exact hfails

theorem cued (given : Cue) : AccountsFor (past ++ [.cued given]) (network.cue given) where
  bound := by
    rw [boundLinks_concat, network.size_cue, haccounts.bound]
    exact List.append_nil _
  known := by
    rw [network.size_cue]
    exact haccounts.known_concat (Nat.le_refl _) nofun
  links := by
    intro id later hlater
    obtain ⟨link, hlink, hsame⟩ := Network.link?_cue given hlater
    rw [hsame]
    exact (haccounts.links id link hlink).goesOn (by simp) rfl (by simp)
      (Network.lost_cue given hlink hlater)
  replies := by
    intro protocol
    rw [currentReply_concat, ← haccounts.replies]
    cases given with
    | reply other reply =>
        by_cases hother : other = protocol <;>
          simp [Network.cue, Script.cue, Script.setReply, Script.replyTo, Event.reply?, hother]
    | _ => rfl

theorem callsOn_of_unbound (hid : ¬ id < network.links.length) : callsOn past id = [] := by
  rw [List.eq_nil_iff_forall_not_mem]
  exact fun call hcall => hid (haccounts.known _ (called_mem_iff.mpr hcall) id rfl)

/-- Nothing has happened on a link before it is bound. -/
theorem stands_bound (terms : Link.Terms) :
    Stands (past ++ [.bound terms (.ok network.links.length)]) network.links.length
      (.bound terms.protocols) := by
  have hnew {event : Event} (hmem : event ∈ past) : event.link? ≠ some network.links.length :=
    fun hlink => Nat.lt_irrefl _ (haccounts.known event hmem _ hlink)
  have hcalls := haccounts.callsOn_of_unbound (Nat.lt_irrefl network.links.length)
  have hclosed : .called network.links.length .close ∉ past := fun hmem => hnew hmem rfl
  have hdialed : .dialed network.links.length (.ok ()) ∉ past := fun hmem => hnew hmem rfl
  have hbound (other : Link.Terms) : .bound other (.ok network.links.length) ∉ past := by
    intro hmem
    have hold : network.links.length ∈ boundLinks past := List.mem_filterMap.mpr ⟨_, hmem, rfl⟩
    rw [haccounts.bound] at hold
    exact Nat.lt_irrefl _ (List.mem_range.mp hold)
  exact
    { protocols := by
        intro other hmem
        obtain rfl : other = terms := by simpa [hbound] using hmem
        rfl
      calls := by simp [callsOn_concat, hcalls, Event.callOn?, Link.bound, Call.firstClose]
      closed := by simp [Link.bound, hclosed]
      dialed := by simp [Link.bound, hdialed]
      lost := by simp [Link.bound] }

theorem bound_error (terms : Link.Terms) (error : Link.Error) :
    AccountsFor (past ++ [.bound terms (.error error)])
      { network with binds := network.binds ++ [terms] } where
  bound := by
    rw [boundLinks_concat, haccounts.bound]
    exact List.append_nil _
  known := haccounts.known_concat (Nat.le_refl _) nofun
  links := fun id link hlink =>
    (haccounts.links id link hlink).goesOn (by simp) rfl (by simp) (by simp [Event.Loses])
  replies := by
    intro protocol
    rw [currentReply_concat]
    exact haccounts.replies protocol

theorem bound_ok (terms : Link.Terms) :
    AccountsFor (past ++ [.bound terms (.ok network.links.length)])
      { network with
        binds := network.binds ++ [terms]
        links := network.links ++ [.bound terms.protocols] } where
  bound := by
    rw [boundLinks_concat, haccounts.bound, List.length_append, List.length_singleton,
      List.range_succ]
    rfl
  known := by
    refine haccounts.known_concat ?_ nofun
    rw [List.length_append]
    exact Nat.le_add_right _ _
  links := by
    intro id link hlink
    simp only [Network.link?, List.getElem?_append] at hlink
    split at hlink
    next hlt =>
      refine (haccounts.links id link hlink).goesOn ?_ rfl (by simp) (by simp [Event.Loses])
      intro other hsame
      cases hsame
      exact Nat.lt_irrefl _ hlt
    next hge =>
      simp only [List.getElem?_singleton, Option.ite_none_right_eq_some,
        Option.some.injEq] at hlink
      obtain ⟨hid, rfl⟩ := hlink
      obtain rfl : id = network.links.length :=
        Nat.le_antisymm (Nat.sub_eq_zero_iff_le.mp hid) (Nat.not_lt.mp hge)
      exact haccounts.stands_bound terms
  replies := by
    intro protocol
    rw [currentReply_concat]
    exact haccounts.replies protocol

theorem bound_link (terms : Link.Terms) :
    AccountsFor (past ++ [.bound terms (network.bind terms).2]) (network.bind terms).1 := by
  unfold Network.bind
  cases network.script.bindFault? terms with
  | some error => exact haccounts.bound_error terms error
  | none => exact haccounts.bound_ok terms

/-! ### What it says about links -/

theorem isUp_iff : network.isUp id = true ↔
    .dialed id (.ok ()) ∈ past ∧ ¬ IsLost past id ∧ .called id .close ∉ past := by
  constructor
  · intro hup
    simp only [Network.isUp, Option.any_eq_true] at hup
    obtain ⟨link, hlink, hup⟩ := hup
    exact (haccounts.links id link hlink).isUp_iff.mp hup
  · intro hpast
    obtain ⟨link, hlink⟩ := Network.exists_link? (haccounts.known _ hpast.1 id rfl)
    simp only [Network.isUp, hlink, Option.any_some]
    exact (haccounts.links id link hlink).isUp_iff.mpr hpast

theorem isOpen_iff (hlt : id < network.links.length) :
    network.isOpen id = true ↔ .called id .close ∉ past := by
  obtain ⟨link, hlink⟩ := Network.exists_link? hlt
  rw [← (haccounts.links id link hlink).closed]
  simp [Network.isOpen, hlink]

theorem recorded_eq : network.recorded id = Call.firstClose (callsOn past id) := by
  cases hlink : network.link? id with
  | some link => simp [Network.recorded, hlink, (haccounts.links id link hlink).calls]
  | none =>
      have hcalls : callsOn past id = [] :=
        haccounts.callsOn_of_unbound (Nat.not_lt.mpr (List.getElem?_eq_none_iff.mp hlink))
      simp [Network.recorded, hlink, hcalls, Call.firstClose]

theorem close_mem_recorded : .close ∈ network.recorded id ↔ .called id .close ∈ past := by
  rw [haccounts.recorded_eq, Call.mem_firstClose, called_mem_iff]

theorem openLinks_eq : network.openLinks =
    (boundLinks past).filter fun id => .close ∉ network.recorded id := by
  rw [haccounts.bound, Network.openLinks]
  refine List.filter_congr fun id hid => ?_
  rw [Bool.eq_iff_iff, haccounts.isOpen_iff (List.mem_range.mp hid), decide_eq_true_iff,
    haccounts.close_mem_recorded]

theorem exists_registered {protocol : String} (hregistered : IsRegistered past id protocol) :
    ∃ link, network.link? id = some link ∧ protocol ∈ link.protocols := by
  obtain ⟨terms, hbound, hprotocol⟩ := hregistered
  have hid : id ∈ boundLinks past := List.mem_filterMap.mpr ⟨_, hbound, rfl⟩
  rw [haccounts.bound, List.mem_range] at hid
  obtain ⟨link, hlink⟩ := Network.exists_link? hid
  exact ⟨link, hlink, (haccounts.links id link hlink).protocols terms hbound ▸ hprotocol⟩

end AccountsFor

end Interplay

end NodeLink.Rehearsal
