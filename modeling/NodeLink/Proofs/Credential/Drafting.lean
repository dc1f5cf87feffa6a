import NodeLink.Credential.Draft
import NodeLink.Proofs.Credential.Spelling
import NodeLink.Proofs.Profile.NetworkKey
import NodeLink.Proofs.Text.Blank
/-!
# Drafted credentials are decoded

A draft holds one value under each name that was set, and its text is read as an object that
holds the same.  So decoding takes out of the text of a draft what was put in: the texts up to
blanks at their ends, an address for each address, and the bytes of the key.
-/

namespace NodeLink.Credential

open NodeLink.Json NodeLink.Text

/-! ## What a draft holds -/

namespace Draft

/-- A draft with one value for each name, all of which are read back as they are. -/
structure IsPlain (draft : Draft) : Prop where
  ascending : Members.Ascending draft.members
  exact : ∀ member ∈ draft.members, member.2.Exact 1

theorem isPlain_empty : empty.IsPlain where
  ascending := List.Pairwise.nil
  exact := by
    intro member hmember
    cases hmember

theorem IsPlain.set {draft : Draft} (hplain : draft.IsPlain) (name : String) {value : Value}
    (hvalue : value.Exact 1) : (draft.set name value).IsPlain where
  ascending := hplain.ascending.insert name value
  exact := by
    intro member hmember
    rcases Members.mem_of_mem_insert hmember with rfl | hformer
    · exact hvalue
    · exact hplain.exact member hformer

theorem IsPlain.find?_set {draft : Draft} (hplain : draft.IsPlain) (name : String) (value : Value)
    (other : String) : Members.find? (draft.set name value).members other =
      if name = other then some value else Members.find? draft.members other :=
  Members.find?_insert hplain.ascending name value other

theorem IsPlain.readText_text {draft : Draft} (hplain : draft.IsPlain) :
    Json.readText draft.text =
      .ok (.object (Members.sorted (canonicalMembers draft.members))) :=
  readText_object (.object hplain.exact) (by decide)

/-- A draft with the four members that are set by name. -/
def full (peer token : String) (addresses : List String) (key : List UInt8) : Draft :=
  (((empty.peer peer).token token).addresses addresses).key key

section

variable {peer token : String} {addresses : List String} {key : List UInt8}

theorem exact_addresses (addresses : List String) :
    (Value.array (addresses.map .string)).Exact 1 := by
  apply Value.Exact.array
  intro item hitem
  obtain ⟨address, -, rfl⟩ := List.mem_map.mp hitem
  exact .string address

theorem canonical_addresses (addresses : List String) :
    (Value.array (addresses.map .string)).canonical = .array (addresses.map .string) := by
  rw [Value.canonical, canonicalItems_eq, List.map_map]
  rfl

theorem isPlain_full : (full peer token addresses key).IsPlain :=
  (((isPlain_empty.set "peerId" (.string peer)).set "sessionToken" (.string token)).set
    "addresses" (exact_addresses addresses)).set "psk" (.string _)

theorem find?_full (name : String) :
    Members.find? (full peer token addresses key).members name =
      if "psk" = name then some (.string (Base64.encodeText key))
      else if "addresses" = name then some (.array (addresses.map .string))
      else if "sessionToken" = name then some (.string token)
      else if "peerId" = name then some (.string peer)
      else none := by
  have hpeer := isPlain_empty.set "peerId" (.string peer)
  have htoken := hpeer.set "sessionToken" (.string token)
  have haddresses := htoken.set "addresses" (exact_addresses addresses)
  simp only [full, Draft.peer, Draft.token, Draft.addresses, Draft.key, haddresses.find?_set,
    htoken.find?_set, hpeer.find?_set, isPlain_empty.find?_set]
  rfl

end

end Draft

/-! ## What decoding makes of it -/

section

variable {members : List (String × Value)} {field : Field} {text : String}

theorem lookUp_of_string (htext : Members.find? members field.name = some (.string text))
    (hnone : Members.find? members field.otherSpelling = none) :
    lookUp members field.spellings = .ok (if isBlankText text then none else some (trim text)) := by
  rw [lookUp_spellings, htext, hnone, weigh_of_saysNothing .absent, weigh]
  split
  next => rfl
  next => rfl

theorem required_of_string (htext : Members.find? members field.name = some (.string text))
    (hnone : Members.find? members field.otherSpelling = none) :
    required members field =
      if isBlankText text then .error (.missing field) else .ok (trim text) := by
  rw [required, lookUp_of_string htext hnone]
  split
  next => rfl
  next => rfl

end

theorem ofText?_encodeText {bytes : List UInt8} (hsome : bytes ≠ []) :
    NetworkKey.ofText? (Base64.encodeText bytes) = some ⟨bytes⟩ := by
  refine NetworkKey.ofText?_eq_some_iff.mpr ⟨hsome, .inl ?_⟩
  have hplain : ∀ c ∈ Base64.encode bytes, (!isBlank c) = true := by
    intro c hc
    rw [Base64.encode_not_blank bytes c hc]
    rfl
  rw [withoutBlanks, Base64.encodeText, String.toList_ofList, NetworkKey.toList_text]
  exact List.filter_eq_self.mpr hplain

theorem trim_encodeText (bytes : List UInt8) :
    trim (Base64.encodeText bytes) = Base64.encodeText bytes := by
  rw [trim, Base64.encodeText, String.toList_ofList, Base64.trimmed_encode]

/-- The text of some bytes has something in it, and that of none is empty. -/
theorem isBlankText_encodeText (bytes : List UInt8) :
    isBlankText (Base64.encodeText bytes) = bytes.isEmpty := by
  rw [isBlankText, Base64.encodeText, String.toList_ofList]
  have hplain := Base64.encode_not_blank bytes
  cases bytes with
  | nil => rfl
  | cons first rest =>
      cases hencoded : Base64.encode (first :: rest) with
      | nil =>
          have hnone := Base64.decode_encode (first :: rest)
          rw [hencoded] at hnone
          cases hnone
      | cons c digits =>
          rw [hencoded] at hplain
          simp [hplain c List.mem_cons_self]

/-- What is decoded of the four members of a full draft. -/
def fullyDrafted (peer token : String) (addresses : List String) (key : List UInt8) :
    Except Error Credential :=
  if isBlankText peer then .error (.missing .peer)
  else if isBlankText token then .error (.missing .token)
  else .ok
    { peer := trim peer
      token := trim token
      addresses := addresses.map fun address =>
        if isBlankText address then none else some (trim address)
      key := if key.isEmpty then none else some (Base64.encodeText key)
      expires := none }

theorem decode_full (peer token : String) (addresses : List String) (key : List UInt8) :
    decode (Draft.full peer token addresses key).text =
      fullyDrafted peer token addresses key := by
  let draft := Draft.full peer token addresses key
  let members := Members.sorted (canonicalMembers draft.members)
  have hfind (name : String) := (find?_sorted_canonical draft.members name).trans
    (congrArg (Option.map Value.canonical) (Draft.find?_full name))
  have hpeer : required members .peer =
      if isBlankText peer then .error (.missing .peer) else .ok (trim peer) :=
    required_of_string (hfind _) (hfind _)
  have htoken : required members .token =
      if isBlankText token then .error (.missing .token) else .ok (trim token) :=
    required_of_string (hfind _) (hfind _)
  have hkey : lookUp members Field.key.spellings = .ok
      (if isBlankText (Base64.encodeText key) then none
        else some (trim (Base64.encodeText key))) :=
    lookUp_of_string (hfind _) (hfind _)
  have haddresses : Members.find? members "addresses" = some (.array (addresses.map .string)) :=
    (hfind _).trans (congrArg some (Draft.canonical_addresses addresses))
  have hexpires : Members.find? members "expires" = none := hfind _
  have hitems : (addresses.map Value.string).map addressOf = addresses.map (fun address =>
      if isBlankText address then none else some (trim address)) := List.map_map
  rw [decode_of_readText Draft.isPlain_full.readText_text, fullyDrafted, ofMembers, hpeer, htoken,
    hkey, haddresses, hexpires, isBlankText_encodeText, trim_encodeText, ← hitems]
  split
  next => rfl
  next =>
    split
    next => rfl
    next => rfl

/-- The text of a full draft is decoded to what was put into the draft, trimmed, unless there
is nothing in the peer or else in the token. -/
theorem drafted_credential_is_decoded (peer token : String) (addresses : List String)
    (key : List UInt8) :
    let draft := (((Draft.empty.peer peer).token token).addresses addresses).key key
    (isBlankText peer = true → decode draft.text = .error (.missing .peer)) ∧
      (isBlankText peer = false → isBlankText token = true →
        decode draft.text = .error (.missing .token)) ∧
      (isBlankText peer = false → isBlankText token = false →
        ∃ credential, decode draft.text = .ok credential ∧
          credential.peer = trim peer ∧
          credential.token = trim token ∧
          credential.addresses = addresses.map (fun address =>
            if isBlankText address then none else some (trim address)) ∧
          credential.expires = none ∧
          credential.networkKey? = if key = [] then none else some ⟨key⟩) := by
  intro draft
  have hdecode : decode draft.text = fullyDrafted peer token addresses key :=
    decode_full peer token addresses key
  rw [hdecode, fullyDrafted]
  refine ⟨fun hblank => if_pos hblank, ?_, ?_⟩
  · intro hpeer hblank
    simp [hpeer, hblank]
  · intro hpeer htoken
    refine ⟨_, by simp only [hpeer, htoken]; rfl, rfl, rfl, rfl, rfl, ?_⟩
    cases key with
    | nil => rfl
    | cons first rest => exact ofText?_encodeText (List.cons_ne_nil first rest)

theorem padded_blank_and_missing_texts :
    (∃ credential,
      decode ((((Draft.empty.peer "\u00a0Qm1 ").token "t\n").addresses ["a ", " "]).key
          [0, 255]).text = .ok credential ∧
        credential.peer = "Qm1" ∧ credential.token = "t" ∧
        credential.addresses = [some "a", none] ∧ credential.expires = none ∧
        credential.networkKey? = some ⟨[0, 255]⟩) ∧
      decode ((((Draft.empty.peer "Qm1").token "\t").addresses []).key []).text =
        .error (.missing .token) ∧
      decode ((((Draft.empty.peer " ").token "").addresses []).key []).text =
        .error (.missing .peer) := by
  refine ⟨?_, ?_, ?_⟩
  · obtain ⟨credential, hdecode, hpeer, htoken, haddresses, hexpires, hkey⟩ :=
      (drafted_credential_is_decoded "\u00a0Qm1 " "t\n" ["a ", " "] [0, 255]).2.2
        (by decide) (by decide)
    exact ⟨credential, hdecode, hpeer.trans (by decide), htoken.trans (by decide),
      haddresses.trans (by decide), hexpires, hkey⟩
  · exact (drafted_credential_is_decoded "Qm1" "\t" [] []).2.1 (by decide) (by decide)
  · exact (drafted_credential_is_decoded " " "" [] []).1 (by decide)

end NodeLink.Credential
