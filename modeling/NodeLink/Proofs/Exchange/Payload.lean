import NodeLink.Proofs.Exchange.Calls
import NodeLink.Proofs.Json.Reader
import NodeLink.Proofs.Session.LiveLink
import NodeLink.Proofs.Session.Log
/-!
# Payloads say what they were made of

The texts that a client puts into a request come from outside: the token of a profile,
the user agent of the options, the content of a post.  Each is written as one literal,
and a reader of the payload finds the same texts under the same names and nothing else.
The records of the links show that these payloads are the ones that are sent.
-/

namespace NodeLink.Exchange

open NodeLink.Json NodeLink.Text
open NodeLink.Rehearsal (Network LinkId)
open NodeLink.Session (Conforms Serves resolutions signature authPayload)

/-! ## Reading payloads -/

/-- Whatever the three texts are, the payload reads as an object of them. -/
theorem readBytes_authPayload (token userAgent name : String) :
    readBytes (authPayload token userAgent name) =
      .ok (.object [("clientId", .string name), ("sessionToken", .string token),
        ("userAgent", .string userAgent)]) := by
  have hexact : (Value.object [("sessionToken", .string token), ("userAgent", .string userAgent),
      ("clientId", .string name)]).Exact 1 := by
    apply Value.Exact.object
    simp only [List.forall_mem_cons, List.not_mem_nil, false_implies, implies_true, and_true]
    exact ⟨.string token, .string userAgent, .string name⟩
  have hsorted : (Value.object [("sessionToken", .string token), ("userAgent", .string userAgent),
      ("clientId", .string name)]).canonical =
      .object [("clientId", .string name), ("sessionToken", .string token),
        ("userAgent", .string userAgent)] := by
    have hagent : ¬ "userAgent" < "sessionToken" ∧ "userAgent" ≠ "sessionToken" := by decide
    have hname : "clientId" < "sessionToken" := by decide
    simp only [Value.canonical, canonicalMembers, Members.sorted, List.foldl_cons, List.foldl_nil,
      Members.insert, if_neg hagent.1, if_neg hagent.2, if_pos hname]
  rw [← hsorted]
  exact readBytes_write hexact (by decide)

theorem readBytes_single {value : Value} (hexact : value.Exact 0) (name : String) :
    readBytes (Utf8.encode (Value.object [(name, value)]).write) =
      .ok (.object [(name, value.canonical)]) :=
  readBytes_write (hexact.single name) (by decide)

theorem readBytes_post (content : String) :
    readBytes (Inquiry.post content).payload = .ok (.object [("content", .string content)]) :=
  readBytes_single (.string content) "content"

theorem readBytes_feed {limit : Nat} (hlimit : limit < Nat.pow 2 32) :
    readBytes (Inquiry.feed limit).payload = .ok (.object [("limit", .ofNat limit)]) := by
  have hfits : FitsWord limit := by
    have hword : Nat.pow 2 32 ≤ Numeral.maxWord64 := by decide
    constructor
    · have hsmallest : -(Nat.pow 2 63 : Int) ≤ 0 := by decide
      omega
    · omega
  exact readBytes_single (.integer hfits) "limit"

theorem payload_feed (limit : Nat) :
    (Inquiry.feed limit).payload =
      Utf8.bytesOf ("\x7b\"limit\":" ++ toString limit ++ "\x7d") := by
  have hwritten : (Inquiry.feed limit).body.write =
      ("\x7b\"limit\":" ++ toString limit ++ "\x7d").toList := by
    have hnumber : (Value.ofNat limit).write = (toString limit).toList := by
      rw [Nat.toString_eq_repr, Nat.repr, String.toList_ofList, Value.ofNat, Value.write]
      rfl
    rw [String.toList_append, String.toList_append, ← hnumber, Inquiry.body, Value.write,
      writeMembers]
    rfl
  rw [Inquiry.payload, hwritten]
  rfl

/-! ## The records -/

def isRequest : Rehearsal.Call → Bool
  | .request _ _ => true
  | _ => false

def firstRequest? (record : Rehearsal.Link) : Option Rehearsal.Call :=
  record.calls.find? isRequest

section

variable {userAgent : String} {profile : Profile} {link : LinkId} {record : Rehearsal.Link}

theorem find?_resolutions (profile : Profile) :
    (resolutions profile).find? isRequest = none := by
  rw [List.find?_eq_none]
  intro call hcall
  obtain ⟨entry, -, rfl⟩ := List.mem_map.mp hcall
  exact Bool.false_ne_true

/-- Signing in is the first use of a link, if there is any. -/
theorem firstRequest?_of_conforms (hconforms : Conforms userAgent profile link record) :
    firstRequest? record = none ∨
      firstRequest? record = some (signature userAgent profile link) := by
  obtain ⟨course, hcourse, hcalls⟩ := hconforms
  have hlast : (if record.closed then [Rehearsal.Call.close] else []).find? isRequest = none := by
    split <;> rfl
  rw [firstRequest?, hcalls, List.find?_append, hlast, Option.or_none]
  cases hcourse with
  | resolved => exact .inl (find?_resolutions profile)
  | dialed htarget =>
      rw [List.find?_append, find?_resolutions]
      exact .inl rfl
  | signed htarget hdialed =>
      rw [List.find?_append, find?_resolutions]
      exact .inr rfl
  | used htarget hdialed haccepted htraffic =>
      rw [List.append_assoc, List.find?_append, find?_resolutions]
      exact .inr rfl

/-- A link that serves a session was signed in on. -/
theorem firstRequest?_of_serves (hserves : Serves userAgent profile link record) :
    firstRequest? record = some (signature userAgent profile link) := by
  obtain ⟨target, traffic, -, -, hcalls⟩ := hserves.calls
  rw [firstRequest?, hcalls, List.append_assoc, List.find?_append, find?_resolutions]
  rfl

end

/-- One request is added to the record of a link, and nothing to any other record. -/
def Puts (session later : Session) (link : LinkId) (service : Service) (payload : List UInt8) :
    Prop :=
  (∃ record after, session.network.link? link = some record ∧
    later.network.link? link = some after ∧
    after.calls = record.calls ++ [.request service.protocol payload]) ∧
  ∀ other, other ≠ link → later.network.link? other = session.network.link? other

theorem ask_fst (session : Session) (inquiry : Inquiry) :
    (ask session inquiry).1 = (session.send inquiry.service inquiry.payload).1 := by
  unfold ask
  split
  next later error hsend => rw [hsend]
  next later body hsend =>
    rw [hsend]
    cases interpret body with
    | error message => rfl
    | ok reply? => rfl

section

variable {session : Session} {link : LinkId}

theorem puts_ask (hsound : session.Sound) (hphase : session.phase = .connected)
    (hlink : session.holdings.link = some link) (inquiry : Inquiry) :
    Puts session (ask session inquiry).1 link inquiry.service inquiry.payload := by
  have hnetwork := Session.network_send hphase hlink inquiry.service inquiry.payload
  obtain ⟨record, hrecord, -⟩ :=
    Network.isOpen_eq_true_iff.mp (hsound.holdsOpen.isOpen hlink)
  obtain ⟨lost, hafter⟩ :=
    Network.link?_request_self hrecord inquiry.service.protocol inquiry.payload
  have hagrees := session.network.agreesOff_request link inquiry.service.protocol inquiry.payload
  unfold Puts
  rw [ask_fst, hnetwork]
  exact ⟨⟨record, _, hrecord, hafter, rfl⟩, hagrees.elsewhere⟩

theorem signed_of_held (hsound : session.Sound) (hlogged : session.Logged)
    (hphase : session.phase = .connected) (hlink : session.holdings.link = some link) :
    ∃ profile record, session.holdings.profile = some profile ∧
      session.network.link? link = some record ∧
      firstRequest? record = some (signature session.options.userAgent profile link) := by
  obtain ⟨profile, hprofile⟩ :=
    Option.isSome_iff_exists.mp (hsound.rests_of_connected hphase hlink)
  obtain ⟨record, hrecord, -⟩ :=
    Network.isOpen_eq_true_iff.mp (hsound.holdsOpen.isOpen hlink)
  have hserves := hlogged.serves link profile record hphase hlink hprofile hrecord
  exact ⟨profile, record, hprofile, hrecord, firstRequest?_of_serves hserves⟩

end

/-- The payload of a sign-in reads as an object of the three texts it was made of, whatever
they are, and it is the first that goes over a link.  A post on a connected session puts
exactly its content on the link, and a feed exactly its limit. -/
theorem payloads_say_what_was_given (options : Session.Options) (acts : List Session.Act) :
    let session := (Session.initial options).run acts
    (∀ token userAgent name, readBytes (authPayload token userAgent name) =
      .ok (.object [("clientId", .string name), ("sessionToken", .string token),
        ("userAgent", .string userAgent)])) ∧
    (∀ (id : Nat) call link, session.calls[id]? = some call → call.link = some link →
      ∃ profile record, call.request = .connect profile ∧
        session.network.link? link = some record ∧
        ∀ first, firstRequest? record = some first → first = .request Service.auth.protocol
          (authPayload profile.token options.userAgent (Network.localName link))) ∧
    ∀ link, session.phase = .connected → session.holdings.link = some link →
      (∃ profile record, session.holdings.profile = some profile ∧
        session.network.link? link = some record ∧
        firstRequest? record = some (.request Service.auth.protocol
          (authPayload profile.token options.userAgent (Network.localName link)))) ∧
      (∀ content, ∃ payload, Puts session (ask session (.post content)).1 link .post payload ∧
        readBytes payload = .ok (.object [("content", .string content)])) ∧
      ∀ limit, limit < Nat.pow 2 32 → ∃ payload,
        Puts session (ask session (.feed limit)).1 link .timeline payload ∧
          payload = Utf8.bytesOf ("\x7b\"limit\":" ++ toString limit ++ "\x7d") ∧
          readBytes payload = .ok (.object [("limit", .ofNat limit)]) := by
  intro session
  have hsound : session.Sound := Session.sound_run options acts
  have hlogged : session.Logged := Session.logged_run options acts
  have hoptions : session.options = options := Session.options_run options acts
  refine ⟨readBytes_authPayload, ?_, ?_⟩
  · intro id call link hcall hlink
    obtain ⟨profile, record, hrequest, hrecord, hconforms⟩ :=
      hlogged.conform id call link hcall hlink
    refine ⟨profile, record, hrequest, hrecord, ?_⟩
    intro first hfirst
    rw [hoptions] at hconforms
    rcases firstRequest?_of_conforms hconforms with hnone | hsome
    · rw [hnone] at hfirst
      cases hfirst
    · rw [hsome] at hfirst
      exact (Option.some.inj hfirst).symm
  · intro link hphase hlink
    have hputs := puts_ask hsound hphase hlink
    refine ⟨?_, ?_, ?_⟩
    · obtain ⟨profile, record, hprofile, hrecord, hfirst⟩ :=
        signed_of_held hsound hlogged hphase hlink
      rw [hoptions] at hfirst
      exact ⟨profile, record, hprofile, hrecord, hfirst⟩
    · intro content
      exact ⟨_, hputs (.post content), readBytes_post content⟩
    · intro limit hlimit
      exact ⟨_, hputs (.feed limit), payload_feed limit, readBytes_feed hlimit⟩

/-- A token that would close its literal, a user agent of control characters and a line
separator, and then a post that would add a member. -/
theorem quotes_stay_in_their_texts :
    let token := "\",\"clientId\":\"\\"
    let options := { Session.Options.standard with userAgent := "\x00\u2028\n" }
    let content := "\"\x7d,\x7b\"id\":\"1"
    let acts : List Session.Act := .issue (.connect { Profile.Sample.direct with token }) ::
      List.replicate 5 (.advance 0)
    let session := (Session.initial options).run acts
    session.phase = .connected ∧ session.holdings.link = some 0 ∧
      (∃ payload, (session.network.link? 0).bind firstRequest? =
          some (.request Service.auth.protocol payload) ∧
        readBytes payload = .ok (.object [("clientId", .string "scripted-0"),
          ("sessionToken", .string token), ("userAgent", .string options.userAgent)])) ∧
      ∃ payload, Puts session (ask session (.post content)).1 0 .post payload ∧
        readBytes payload = .ok (.object [("content", .string content)]) := by
  intro token options content acts session
  have hphase : session.phase = .connected := by decide +kernel
  have hlink : session.holdings.link = some 0 := by decide +kernel
  have hprofile : session.holdings.profile.map (·.token) = some token := by decide +kernel
  have hholds := payloads_say_what_was_given options acts
  -- The run stands in it unfolded; here it goes by the name that it has in the goal.
  extract_lets at hholds
  obtain ⟨hreads, -, hsends⟩ := hholds
  obtain ⟨⟨profile, record, hheld, hrecord, hfirst⟩, hposts, -⟩ := hsends 0 hphase hlink
  have htoken : profile.token = token := by
    rw [hheld] at hprofile
    exact Option.some.inj hprofile
  refine ⟨hphase, hlink, ⟨_, ?_, hreads token options.userAgent "scripted-0"⟩, hposts content⟩
  rw [hrecord, Option.bind_some, hfirst, htoken]
  rfl

end NodeLink.Exchange
