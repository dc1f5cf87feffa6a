import Mathlib.Data.List.Nodup
import NodeLink.Profile.Stored
import NodeLink.Proofs.Json.Reader
import NodeLink.Proofs.Text.Base64
/-!
# A stored profile is read back

The JSON text of a profile holds everything that the profile holds.  The members
are texts, truth values and null, so the machine takes the text whole; each has a
reading that undoes its writing, and none of them falls back on its default.
-/

namespace NodeLink.Profile

open NodeLink.Json NodeLink.Text

/-! ## Members of one name -/

section

variable {members : List (String × Value)}

theorem length_filter_eq_count (members : List (String × Value)) (name : String) :
    (members.filter (·.1 = name)).length = (members.map (·.1)).count name := by
  rw [List.count, List.countP_map, List.countP_eq_length_filter]
  rfl

theorem repeatsName_eq_true_iff :
    repeatsName members = true ↔ ∃ name ∈ memberNames, 1 < (members.map (·.1)).count name := by
  simp [repeatsName, length_filter_eq_count]

theorem repeatsName_of_nodup (hnames : (members.map (·.1)).Nodup) :
    repeatsName members = false := by
  rw [Bool.eq_false_iff, Ne, repeatsName_eq_true_iff]
  rintro ⟨name, -, htwice⟩
  exact absurd (List.nodup_iff_count_le_one.mp hnames name) (Nat.not_le.mpr htwice)

theorem only?_of_count_le_one {name : String} {value : Value}
    (honce : (members.map (·.1)).count name ≤ 1) (hmem : (name, value) ∈ members) :
    only? members name = some value := by
  rw [← length_filter_eq_count] at honce
  have hfilter : (name, value) ∈ members.filter (·.1 = name) := by simp [hmem]
  obtain ⟨member, hsingle⟩ :=
    List.length_eq_one_iff.mp (Nat.le_antisymm honce (List.length_pos_of_mem hfilter))
  rw [hsingle, List.mem_singleton] at hfilter
  rw [only?, hsingle, ← hfilter]

theorem only?_of_nodup (hnames : (members.map (·.1)).Nodup) {name : String} {value : Value}
    (hmem : (name, value) ∈ members) : only? members name = some value :=
  only?_of_count_le_one (List.nodup_iff_count_le_one.mp hnames name) hmem

end

/-! ## Parts -/

theorem optionalTextOf?_ofText? (text? : Option String) :
    optionalTextOf? (.ofText? text?) = some text? := by
  cases text? <;> rfl

/-- A key is kept byte for byte, an empty one apart from a missing one. -/
theorem keyOf?_text (key? : Option NetworkKey) :
    keyOf? (.ofText? (key?.map NetworkKey.text)) = some key? := by
  cases key? with
  | none => rfl
  | some key =>
      have htrimmed : trimmed (NetworkKey.text key).toList = Base64.encode key.bytes := by
        rw [NetworkKey.text, Base64.encodeText, String.toList_ofList]
        exact Base64.trimmed_encode key.bytes
      simp only [Option.map_some, Value.ofText?, keyOf?, htrimmed, Base64.decode_encode]

theorem textsOf?_strings (texts : List String) :
    textsOf? (.array (texts.map Value.string)) = some texts := by
  unfold textsOf?
  induction texts with
  | nil => rfl
  | cons text texts ih =>
      dsimp only at ih ⊢
      rw [List.map_cons, List.mapM_cons, ih]
      rfl

/-! ## The whole profile -/

theorem textual_ofText? {depth : Nat} (text? : Option String) :
    (Value.ofText? text?).Textual depth := by
  cases text? with
  | none => exact .null
  | some text => exact .string text

theorem toJson_textual (profile : Profile) : profile.toJson.Textual 2 := by
  have hbootstrap : (Value.array (profile.bootstrap.map Value.string)).Textual 1 := by
    apply Value.Textual.array
    intro item hitem
    obtain ⟨text, -, rfl⟩ := List.mem_map.mp hitem
    exact .string text
  apply Value.Textual.object
  intro member hmember
  simp only [List.mem_cons, List.not_mem_nil, or_false] at hmember
  rcases hmember with rfl | rfl | rfl | rfl | rfl | rfl | rfl | rfl
  · exact .string profile.peer
  · exact textual_ofText? profile.lan
  · exact textual_ofText? profile.remote
  · exact textual_ofText? profile.relay
  · exact .string profile.token
  · exact textual_ofText? _
  · exact .bool profile.preferRelay
  · exact hbootstrap

theorem names_toJson (profile : Profile) : profile.toJson.names = memberNames := rfl

theorem ofJson?_toJson (profile : Profile) : ofJson? profile.toJson = some profile := by
  obtain ⟨members, hmembers⟩ : ∃ members, profile.toJson = .object members := ⟨_, rfl⟩
  have hnames : (members.map (·.1)).Nodup := by
    have hsame : members.map (·.1) = memberNames := by
      rw [← names_toJson profile, hmembers]
      rfl
    rw [hsame]
    decide
  have honly (name : String) (value : Value) (hmem : (name, value) ∈ members) :
      only? members name = some value := only?_of_nodup hnames hmem
  rw [hmembers, ofJson?, repeatsName_of_nodup hnames]
  injection hmembers with hmembers
  subst hmembers
  simp [ofGiven?, givenByName, honly, textOf?, optionalTextOf?_ofText?, keyOf?_text, flagOf?,
    textsOf?_strings]

theorem ofStored?_stored (profile : Profile) : ofStored? profile.stored = some profile := by
  have hread : Reader.readKnowing isMemberName profile.stored = .ok profile.toJson := by
    apply Reader.readKnowing_write profile.toJson_textual (by decide)
    intro name hname
    rw [names_toJson] at hname
    exact List.contains_iff_mem.mpr hname
  rw [ofStored?, hread]
  exact ofJson?_toJson profile

theorem ofStoredBytes?_encode_eq (text : List Char) :
    ofStoredBytes? (Utf8.encode text) = ofStored? text := by
  rw [ofStoredBytes?, Reader.readBytesKnowing_encode]
  rfl

theorem ofStoredBytes?_encode (profile : Profile) :
    ofStoredBytes? (Utf8.encode profile.stored) = some profile := by
  rw [ofStoredBytes?_encode_eq]
  exact ofStored?_stored profile

end NodeLink.Profile
