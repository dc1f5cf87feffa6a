import NodeLink.Credential.Basic
import NodeLink.Proofs.Store.Profiles
import NodeLink.Proofs.Text.Blank
/-!
# A decoded credential provisions a profile

Decoding takes a peer and a token only if there is something in them, and trims them.
So a profile made from a decoded credential has no flaw, whatever the text was that the
credential was decoded from, and a store that has kept it gives it back.
-/

namespace NodeLink.Credential

open NodeLink.Json NodeLink.Text

/-! ## What decoding lets through -/

section

variable {members : List (String × Value)}

theorem isTidy_of_lookUp {names : List String} {text : String}
    (hfound : lookUp members names = .ok (some text)) : IsTidy text := by
  induction names with
  | nil => cases hfound
  | cons name names ih =>
      unfold lookUp at hfound
      split at hfound
      next => exact ih hfound
      next => exact ih hfound
      next given hgiven =>
        split at hfound
        next => exact ih hfound
        next hsolid =>
          obtain rfl : trim given = text := by simpa using hfound
          exact isTidy_trim (by simpa using hsolid)
      next => cases hfound

theorem exists_of_bind_eq_ok {α β : Type} {former : Except Error α} {latter : α → Except Error β}
    {result : β} (hbind : (former >>= latter) = .ok result) :
    ∃ value, former = .ok value ∧ latter value = .ok result := by
  cases former with
  | error error => cases hbind
  | ok value => exact ⟨value, rfl, hbind⟩

theorem isTidy_of_required {field : Field} {text : String}
    (hrequired : required members field = .ok text) : IsTidy text := by
  obtain ⟨found?, hfound, htaken⟩ := exists_of_bind_eq_ok hrequired
  cases found? with
  | none => cases htaken
  | some found =>
      obtain rfl : found = text := Except.ok.inj htaken
      exact isTidy_of_lookUp hfound

theorem isTidy_of_ofMembers {credential : Credential}
    (hread : ofMembers members = .ok credential) :
    IsTidy credential.peer ∧ IsTidy credential.token := by
  obtain ⟨peer, hpeer, hread⟩ := exists_of_bind_eq_ok hread
  obtain ⟨token, htoken, hread⟩ := exists_of_bind_eq_ok hread
  obtain ⟨key, -, hread⟩ := exists_of_bind_eq_ok hread
  obtain ⟨addresses, -, hread⟩ := exists_of_bind_eq_ok hread
  obtain rfl := Except.ok.inj hread
  exact ⟨isTidy_of_required hpeer, isTidy_of_required htoken⟩

end

theorem isTidy_of_decode {text : String} {credential : Credential}
    (hdecode : decode text = .ok credential) :
    IsTidy credential.peer ∧ IsTidy credential.token := by
  unfold decode at hdecode
  split at hdecode
  next => cases hdecode
  next => exact isTidy_of_ofMembers hdecode
  next => cases hdecode

/-! ## The profile -/

/-- Only the peer and the token can be a flaw of the profile of a credential. -/
theorem toProfile_of_tidy {credential : Credential} (hpeer : IsTidy credential.peer)
    (htoken : IsTidy credential.token) :
    credential.profile.flaw? = none ∧ credential.toProfile = .ok credential.profile := by
  have hflaw : credential.profile.flaw? = none := by
    have hpeer' : isBlankText credential.profile.peer = false := hpeer.solid
    have htoken' : isBlankText credential.profile.token = false := htoken.solid
    rw [Profile.flaw?, hpeer', htoken']
    rfl
  refine ⟨hflaw, ?_⟩
  rw [toProfile, Profile.check, hflaw]

/-- The slots of a profile take the first three addresses and no others. -/
theorem profile_of_take_eq {credential : Credential} {addresses : List (Option String)}
    (hfirst : addresses.take 3 = credential.addresses.take 3) :
    { credential with addresses }.profile = credential.profile := by
  have hsame (place : Nat) (hplace : place < 3) :
      addresses[place]? = credential.addresses[place]? := by
    rw [← List.getElem?_take_of_lt hplace, hfirst, List.getElem?_take_of_lt hplace]
  simp only [profile, networkKey?, hsame 0 (by decide), hsame 1 (by decide),
    hsame 2 (by decide)]

/-- A decoded credential always makes a profile.  The profile has no flaw, it holds what
the credential holds, with the first three addresses in its slots, and a store that has
taken it gives it back. -/
theorem decoded_credential_provisions {text : String} {credential : Credential}
    (hdecode : decode text = .ok credential) :
    IsTidy credential.peer ∧ IsTidy credential.token ∧
      ∃ profile, credential.toProfile = .ok profile ∧ profile.flaw? = none ∧
        profile =
          { peer := credential.peer
            lan := credential.addresses[0]?.join
            remote := credential.addresses[1]?.join
            relay := credential.addresses[2]?.join
            token := credential.token
            key := credential.networkKey?
            preferRelay := false
            bootstrap := defaultBootstrap } ∧
        (∀ addresses, addresses.take 3 = credential.addresses.take 3 →
          { credential with addresses }.toProfile = .ok profile) ∧
        ∀ store : Store, store.Rooted →
          ((store.save profile).2 = .ok () ↔ store.HasRoom Store.profileKey) ∧
            ((store.save profile).2 = .ok () → (store.save profile).1.load = some profile) := by
  obtain ⟨hpeer, htoken⟩ := isTidy_of_decode hdecode
  obtain ⟨hflaw, hprofile⟩ := toProfile_of_tidy hpeer htoken
  refine ⟨hpeer, htoken, credential.profile, hprofile, hflaw, rfl, ?_, ?_⟩
  · intro addresses hfirst
    rw [toProfile, profile_of_take_eq hfirst]
    exact hprofile
  · intro store hstore
    refine ⟨Store.put_eq_ok_iff _ Store.plainName_profileKey hstore, ?_⟩
    intro hsave
    obtain ⟨-, hget⟩ := Store.get_of_put hstore hsave
    rw [Store.load, Store.save, hget]
    simp only [Store.profileOf?_encode, hflaw, if_true]

/-- The second spelling of the peer, blanks of several kinds around the texts, and four
addresses of which the third is the first to hold anything. -/
theorem spaced_credential_provisions :
    let text := "\x7b\"peerId\":\" \",\"PeerId\":\"\u2003peer\u00a0\"," ++
      "\"sessionToken\":\"\\t\u3000to ken \"," ++
      "\"addresses\":[null,\"\u2029\",\" 192.0.2.1:4001 \",\"192.0.2.2:4001\"]\x7d"
    let credential : Credential :=
      { peer := "peer"
        addresses := [none, none, some "192.0.2.1:4001", some "192.0.2.2:4001"]
        token := "to ken"
        key := none
        expires := none }
    decode text = .ok credential ∧ (Store.memory []).HasRoom Store.profileKey ∧
      ∃ profile, credential.toProfile = .ok profile ∧ profile.relay = some "192.0.2.1:4001" ∧
        ((Store.memory []).save profile).1.load = some profile := by
  intro text credential
  have hdecode : decode text = .ok credential := by
    have hread : (decode text).toOption = some credential := by decide +kernel
    cases hresult : decode text with
    | error error => simp [hresult, Except.toOption] at hread
    | ok found =>
        rw [hresult] at hread
        exact congrArg Except.ok (Option.some.inj hread)
  obtain ⟨-, -, profile, hprofile, -, hparts, -, hkept⟩ := decoded_credential_provisions hdecode
  obtain ⟨hroom, hloads⟩ := hkept (.memory []) trivial
  have hrelay : profile.relay = some "192.0.2.1:4001" := by rw [hparts]; rfl
  exact ⟨hdecode, hroom.mp rfl, profile, hprofile, hrelay, hloads rfl⟩

end NodeLink.Credential
