import Mathlib.Tactic.SplitIfs
import NodeLink.Profile.Basic
import NodeLink.Proofs.Rehearsal.Network
import NodeLink.Service
/-!
# What a network keeps secret

A veil over the secrets: tokens show only whether they are blank, keys only how
long they are, and what is sent to sign in shows nothing.  All that a network
does can be done behind the veil, with the same outcome.
-/

namespace NodeLink

open NodeLink.Text

theorem map_modify {α β : Type} {look : α → β} {change : α → α} {later : β → β}
    (hchange : ∀ a, look (change a) = later (look a)) (items : List α) (id : Nat) :
    (items.modify id change).map look = (items.map look).modify id later := by
  induction items generalizing id with
  | nil => simp
  | cons item items ih =>
      cases id with
      | zero => simp [hchange]
      | succ id => simp [ih]

/-! ## Profiles -/

def NetworkKey.veiled (key : NetworkKey) : NetworkKey := ⟨List.replicate key.size 0⟩

def veiledToken (token : String) : String :=
  if isBlankText token then "" else "-"

namespace Profile

def veiled (profile : Profile) : Profile :=
  { profile with token := veiledToken profile.token, key := profile.key.map NetworkKey.veiled }

/-- Two profiles differ in their secrets only: neither token is blank unless both
are, and either there are no keys or two of one size. -/
structure Alike (profile other : Profile) : Prop where
  rest : other = { profile with token := other.token, key := other.key }
  tokens : isBlankText other.token = isBlankText profile.token
  keys : other.key.map NetworkKey.size = profile.key.map NetworkKey.size

theorem isBlankText_veiledToken (token : String) :
    isBlankText (veiledToken token) = isBlankText token := by
  unfold veiledToken
  split_ifs with hblank
  · rw [hblank]
    decide
  · rw [Bool.not_eq_true] at hblank
    rw [hblank]
    decide

theorem size_veiled (key : NetworkKey) : key.veiled.size = key.size :=
  List.length_replicate

theorem veiledKey_eq (key? : Option NetworkKey) :
    key?.map NetworkKey.veiled =
      (key?.map NetworkKey.size).map fun size => ⟨List.replicate size 0⟩ := by
  rw [Option.map_map]
  rfl

theorem Alike.veiled_eq {profile other : Profile} (halike : profile.Alike other) :
    other.veiled = profile.veiled := by
  rw [halike.rest]
  simp only [veiled, veiledToken, veiledKey_eq, halike.tokens, halike.keys]

theorem flaw?_veiled (profile : Profile) : profile.veiled.flaw? = profile.flaw? := by
  simp only [flaw?, veiled, isBlankText_veiledToken]

theorem redacted_veiled (profile : Profile) : profile.veiled.redacted = profile.redacted := by
  have hkey : (profile.key.map NetworkKey.veiled).map NetworkKey.redacted =
      profile.key.map NetworkKey.redacted := by
    cases profile.key with
    | none => rfl
    | some key => simp only [Option.map_some, NetworkKey.redacted, size_veiled]
  simp only [redacted, veiled, hkey]

/-- What is printed of a profile does not depend on its secrets. -/
theorem Alike.redacted_eq {profile other : Profile} (halike : profile.Alike other) :
    other.redacted = profile.redacted := by
  rw [← redacted_veiled, halike.veiled_eq, redacted_veiled]

end Profile

/-! ## Binding -/

namespace Link

def Terms.veiled (terms : Terms) : Terms :=
  { terms with key := terms.key.map fun key => List.replicate key.length 0 }

theorem checkKey_veiled (key? : Option (List UInt8)) :
    checkKey (key?.map fun key => List.replicate key.length 0) = checkKey key? := by
  cases key? with
  | none => rfl
  | some key => simp only [Option.map_some, checkKey, List.length_replicate]

theorem Terms.redacted_veiled (terms : Terms) : terms.veiled.redacted = terms.redacted := by
  simp only [redacted, veiled, Option.map_map]
  rfl

end Link

namespace Rehearsal

open NodeLink.Link (Terms)

/-! ## Links -/

/-- What a request shows of its payload. -/
def veiledPayload (protocol : String) (payload : List UInt8) : List UInt8 :=
  if protocol = Service.auth.protocol then [] else payload

def Call.veiled : Call → Call
  | .request protocol payload => .request protocol (veiledPayload protocol payload)
  | call => call

def Link.veiled (link : Link) : Link := { link with calls := link.calls.map Call.veiled }

namespace Network

def veiled (network : Network) : Network :=
  { network with
    binds := network.binds.map Terms.veiled
    links := network.links.map Link.veiled }

section

variable (network : Network) (id : LinkId)

@[simp] theorem script_veiled : network.veiled.script = network.script := rfl

@[simp] theorem link?_veiled : network.veiled.link? id = (network.link? id).map Link.veiled :=
  List.getElem?_map

@[simp] theorem isUp_veiled : network.veiled.isUp id = network.isUp id := by
  rw [isUp, link?_veiled, Option.any_map]
  rfl

@[simp] theorem isOpen_veiled : network.veiled.isOpen id = network.isOpen id := by
  rw [isOpen, link?_veiled, Option.any_map]
  rfl

@[simp] theorem openLinks_veiled : network.veiled.openLinks = network.openLinks := by
  have hopen : network.veiled.isOpen = network.isOpen := funext network.isOpen_veiled
  rw [openLinks, hopen, openLinks]
  simp [veiled]

theorem modify_veiled {change later : Link → Link}
    (hchange : ∀ link : Link, (change link).veiled = later link.veiled) :
    (network.modify id change).veiled = network.veiled.modify id later := by
  simp only [veiled, modify, map_modify hchange]

theorem record_veiled (call : Call) :
    (network.record id call).veiled = network.veiled.record id call.veiled :=
  network.modify_veiled id fun link => by simp [Link.record, Link.veiled]

theorem resolveEach_veiled (entries : List String) :
    (network.resolveEach id entries).veiled = network.veiled.resolveEach id entries := by
  induction entries generalizing network with
  | nil => rfl
  | cons entry entries ih =>
      rw [resolveEach_cons, resolveEach_cons, ih, record_veiled]
      rfl

theorem bind_veiled (terms : Terms) :
    network.veiled.bind terms.veiled = ((network.bind terms).1.veiled, (network.bind terms).2) := by
  have hfault : network.script.bindFault? terms.veiled = network.script.bindFault? terms := by
    simp only [Script.bindFault?, Terms.veiled, NodeLink.Link.checkKey_veiled]
  unfold bind
  simp only [script_veiled, hfault]
  cases network.script.bindFault? terms with
  | some error => simp [veiled]
  | none => simp [veiled, Link.veiled, Link.bound, Terms.veiled]

theorem endDial_veiled (failure : Option String) :
    network.veiled.endDial id failure =
      ((network.endDial id failure).1.veiled, (network.endDial id failure).2) := by
  unfold endDial
  rw [isOpen_veiled]
  split_ifs
  · cases failure with
    | some reason => rfl
    | none =>
        refine Prod.ext ?_ rfl
        dsimp only
        rw [network.modify_veiled id]
        exact fun _ => rfl
  · rfl

theorem answer_veiled (protocol : String) :
    network.veiled.answer id protocol =
      ((network.answer id protocol).1.veiled, (network.answer id protocol).2) := by
  unfold answer
  rw [script_veiled]
  cases network.script.replyTo protocol with
  | lost =>
      refine Prod.ext ?_ rfl
      dsimp only
      rw [network.modify_veiled id]
      exact fun _ => rfl
  | body bytes => rfl
  | timeout => rfl
  | reset => rfl

theorem reply_veiled (protocol : String) :
    network.veiled.reply id protocol =
      ((network.reply id protocol).1.veiled, (network.reply id protocol).2) := by
  unfold reply
  rw [link?_veiled]
  cases network.link? id with
  | none => rfl
  | some link =>
      simp only [Option.map_some, Link.veiled]
      split_ifs
      · rfl
      · rfl
      · exact answer_veiled network id protocol
      · rfl

theorem request_veiled (protocol : String) (payload : List UInt8) :
    network.veiled.request id protocol (veiledPayload protocol payload) =
      ((network.request id protocol payload).1.veiled,
        (network.request id protocol payload).2) := by
  have hrecord : network.veiled.record id (.request protocol (veiledPayload protocol payload)) =
      (network.record id (.request protocol payload)).veiled :=
    (network.record_veiled id (.request protocol payload)).symm
  unfold request
  rw [hrecord, reply_veiled]
  refine Prod.ext ?_ rfl
  dsimp only
  rw [modify_veiled _ id]
  exact fun _ => rfl

/-- What is sent to sign in shows nothing behind the veil. -/
theorem request_auth_veiled (payload : List UInt8) :
    network.veiled.request id Service.auth.protocol [] =
      ((network.request id Service.auth.protocol payload).1.veiled,
        (network.request id Service.auth.protocol payload).2) := by
  rw [← request_veiled, veiledPayload, if_pos rfl]

theorem close_veiled : (network.close id).veiled = network.veiled.close id := by
  unfold close
  rw [isOpen_veiled]
  split_ifs
  · exact network.modify_veiled id fun link => by simp [Link.record, Link.veiled, Call.veiled]
  · rfl

theorem release_veiled (id? : Option LinkId) :
    (network.release id?).veiled = network.veiled.release id? := by
  cases id? with
  | none => rfl
  | some id => exact network.close_veiled id

theorem cue_veiled (cue : Cue) : (network.cue cue).veiled = network.veiled.cue cue := by
  cases cue with
  | cut => simp [Network.cue, cut, veiled, Link.veiled]
  | reply protocol reply => rfl
  | failBind reason => rfl
  | failDial reason => rfl
  | delayDial delay => rfl
  | unresolvable entry => rfl

end

end Network

end Rehearsal

end NodeLink
