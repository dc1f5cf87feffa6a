import NodeLink.Proofs.Json.Members
import NodeLink.Proofs.Profile.Stored
/-!
# A stored profile depends on its known members

The members of a stored profile may stand in any order, with any white space between tokens and
with other members among them, and those with a default may be absent.  A name that is given
twice leaves no profile.
-/

namespace NodeLink.Profile

open NodeLink.Json NodeLink.Text

/-- The values that members have when they are absent. -/
def defaults : List (String × Value) :=
  [ ("lanAddress", .null),
    ("remoteAddress", .null),
    ("relayAddress", .null),
    ("psk", .null),
    ("useRelay", .bool false),
    ("bootstrapNodes", .array (defaultBootstrap.map Value.string)) ]

/-- Some members hold the values of a profile, and those that are absent have them by default. -/
structure IsGivenBy (profile : Profile) (members : List Member) : Prop where
  value : ∀ member ∈ members, ∀ value, profile.toJson.member? member.name = some value →
    SpellsValue value member.value
  absent : ∀ name ∈ memberNames, name ∉ members.map (·.name) →
    Members.find? defaults name = profile.toJson.member? name
  once : ∀ name ∈ memberNames, (members.map (·.name)).count name ≤ 1

/-! ## Values under known names -/

theorem isMemberName_eq_true_iff {name : String} :
    isMemberName name = true ↔ name ∈ memberNames :=
  List.contains_iff_mem

theorem only?_of_not_mem {members : List (String × Value)} {name : String}
    (habsent : name ∉ members.map (·.1)) : only? members name = none := by
  have hnone : members.filter (·.1 = name) = [] := by
    rw [← List.length_eq_zero_iff, length_filter_eq_count]
    exact List.count_eq_zero.mpr habsent
  rw [only?, hnone]

theorem exists_member?_toJson (profile : Profile) {name : String} (hname : name ∈ memberNames) :
    ∃ value, profile.toJson.member? name = some value := by
  simp only [memberNames, List.mem_cons, List.not_mem_nil, or_false] at hname
  rcases hname with rfl | rfl | rfl | rfl | rfl | rfl | rfl | rfl <;> exact ⟨_, rfl⟩

theorem IsGivenBy.isWanted {profile : Profile} {members : List Member}
    (hgiven : profile.IsGivenBy members) :
    ∀ member ∈ members, Reader.IsWanted isMemberName profile.toJson.member? member := by
  intro member hmember hknown
  obtain ⟨value, hvalue⟩ := profile.exists_member?_toJson (isMemberName_eq_true_iff.mp hknown)
  exact ⟨value, hvalue, hgiven.value member hmember value hvalue⟩

theorem or_eq_some_iff_getD {given : Option Value} {default value : Value} :
    given.or (some default) = some value ↔ given.getD default = value := by
  cases given <;> simp

/-- A profile is made up of the values under its eight names, be they given or default. -/
theorem ofGiven?_givenByName {found : List (String × Value)} {profile : Profile}
    (hvalues : ∀ name ∈ memberNames,
      (only? found name).or (Members.find? defaults name) = profile.toJson.member? name) :
    ofGiven? (givenByName found) = some profile := by
  have hpeer : only? found "peerId" = some (.string profile.peer) :=
    Option.or_none.symm.trans (hvalues "peerId" (by decide))
  have htoken : only? found "sessionToken" = some (.string profile.token) :=
    Option.or_none.symm.trans (hvalues "sessionToken" (by decide))
  have hlan : (only? found "lanAddress").getD .null = .ofText? profile.lan :=
    or_eq_some_iff_getD.mp (hvalues "lanAddress" (by decide))
  have hremote : (only? found "remoteAddress").getD .null = .ofText? profile.remote :=
    or_eq_some_iff_getD.mp (hvalues "remoteAddress" (by decide))
  have hrelay : (only? found "relayAddress").getD .null = .ofText? profile.relay :=
    or_eq_some_iff_getD.mp (hvalues "relayAddress" (by decide))
  have hkey : (only? found "psk").getD .null = .ofText? (profile.key.map NetworkKey.text) :=
    or_eq_some_iff_getD.mp (hvalues "psk" (by decide))
  have hprefer : (only? found "useRelay").getD (.bool false) = .bool profile.preferRelay :=
    or_eq_some_iff_getD.mp (hvalues "useRelay" (by decide))
  have hbootstrap : (only? found "bootstrapNodes").getD
      (.array (defaultBootstrap.map Value.string)) = .array (profile.bootstrap.map Value.string) :=
    or_eq_some_iff_getD.mp (hvalues "bootstrapNodes" (by decide))
  have hentries : textsOf? ((only? found "bootstrapNodes").getD
      (.array (defaultBootstrap.map Value.string))) = some profile.bootstrap := by
    rw [hbootstrap, textsOf?_strings]
  simp only [ofGiven?, givenByName, hpeer, htoken, hlan, hremote, hrelay, hkey, hprefer,
    optionalTextOf?_ofText?, keyOf?_text, flagOf?, textOf?, Option.bind_some, Option.bind_eq_bind]
  cases hgiven : only? found "bootstrapNodes" with
  | none =>
      rw [hgiven, Option.getD_none, textsOf?_strings] at hentries
      simp [Option.some.inj hentries]
  | some value =>
      rw [hgiven, Option.getD_some] at hentries
      simp [hentries]

section

variable {members : List Member} {found : List (String × Value)} {profile : Profile}

/-- Where every member is as a profile gives it, the value under each known name comes out. -/
theorem only?_or_default (hgiven : profile.IsGivenBy members)
    (hfound : List.Forall₂
      (Reader.Yields isMemberName profile.toJson.member?) members found)
    {name : String} (hname : name ∈ memberNames) :
    (only? found name).or (Members.find? defaults name) = profile.toJson.member? name := by
  have hnames := Reader.names_of_yields hfound
  by_cases hpresent : name ∈ members.map (·.name)
  · rw [← hnames] at hpresent
    obtain ⟨⟨other, value⟩, hmem, hsame⟩ := List.mem_map.mp hpresent
    obtain rfl : other = name := hsame
    have honce := hgiven.once other hname
    rw [← hnames] at honce
    have hvalue := Reader.wanted_of_yields hfound hgiven.isWanted
      (isMemberName_eq_true_iff.mpr hname) hmem
    rw [only?_of_count_le_one honce hmem, hvalue, Option.some_or]
  · rw [← hnames] at hpresent
    rw [only?_of_not_mem hpresent, Option.none_or]
    exact hgiven.absent name hname (hnames ▸ hpresent)

end

/-! ## Whole texts -/

section

variable {front back : List Char} (hfront : IsGap front) (hback : IsGap back)
  {members : List Member}

include hfront hback

theorem ofStored?_objectText_of_isGivenBy {profile : Profile} (hgiven : profile.IsGivenBy members) :
    ofStored? (objectText front members back) = some profile := by
  rcases Reader.readKnowing_objectText isMemberName profile.toJson.member? members
    hfront hback with ⟨found, hfound, hread⟩ | ⟨⟨member, hmember, hother⟩, -⟩
  · have honce : repeatsName found = false := by
      rw [Bool.eq_false_iff, Ne, repeatsName_eq_true_iff, Reader.names_of_yields hfound]
      rintro ⟨name, hname, htwice⟩
      exact absurd (hgiven.once name hname) (Nat.not_le.mpr htwice)
    have hvalues := ofGiven?_givenByName fun name => only?_or_default hgiven hfound
    rw [ofStored?, hread]
    show ofJson? (.object found) = some profile
    rw [ofJson?, honce]
    exact hvalues
  · exact absurd (hgiven.isWanted member hmember) hother

theorem ofStored?_objectText_of_twice {name : String} (hname : name ∈ memberNames)
    (htwice : 1 < (members.map (·.name)).count name) :
    ofStored? (objectText front members back) = none := by
  rcases Reader.readKnowing_objectText isMemberName (fun _ => none) members
    hfront hback with ⟨found, hfound, hread⟩ | ⟨-, hread⟩
  · have hrepeats : repeatsName found = true := by
      rw [repeatsName_eq_true_iff, Reader.names_of_yields hfound]
      exact ⟨name, hname, htwice⟩
    rw [ofStored?, hread]
    show ofJson? (.object found) = none
    rw [ofJson?, hrepeats]
    rfl
  · rw [ofStored?, hread]
    rfl

end

/-- An object whose members give a profile, in any order and spelling and among members of other
names, is read as that profile.  An object that gives a known name twice is not read at all. -/
theorem stored_depends_on_known_members {front back : List Char} (hfront : IsGap front)
    (hback : IsGap back) (members : List Member) :
    (∀ profile : Profile, profile.IsGivenBy members →
      ofStored? (objectText front members back) = some profile ∧
        ofStoredBytes? (Utf8.encode (objectText front members back)) = some profile) ∧
    ((∃ name ∈ memberNames, 1 < (members.map (·.name)).count name) →
      ofStored? (objectText front members back) = none ∧
        ofStoredBytes? (Utf8.encode (objectText front members back)) = none) := by
  simp only [ofStoredBytes?_encode_eq, and_self]
  constructor
  · exact fun profile hgiven => ofStored?_objectText_of_isGivenBy hfront hback hgiven
  · rintro ⟨name, hname, htwice⟩
    exact ofStored?_objectText_of_twice hfront hback hname htwice

/-- A member of another name is given twice, once with a number that is too great; the last
member has white space around its tokens and an escape in its name. -/
theorem scattered_members_give_a_profile :
    ofStored? (" \x7b\"x\":[1e999],\"sessionToken\":\"t\",\"x\":null," ++
        " \"\\u0070eerId\" : \"n\" \x7d").toList = some (.of "n" "t") ∧
      ofStored? "\x7b\"peerId\":\"n\",\"sessionToken\":\"t\",\"peerId\":\"n\"\x7d".toList =
        none := by
  have hwhole : IsWhole ['1'] := ⟨⟨by decide, List.all_eq_true.mp rfl⟩, .inr (by decide)⟩
  have hexponent : IsExponent ['e', '9', '9', '9'] :=
    .inr ⟨'e', [], ['9', '9', '9'], .inl rfl, .inl rfl,
      ⟨by decide, List.all_eq_true.mp rfl⟩, rfl⟩
  have hnumber := IsText.number (.of (.inl rfl) hwhole (.inl rfl) hexponent)
  have hforeign := IsText.array (.lastElement isGap_nil hnumber isGap_nil)
  have hpeer : SpellsValue (.string "n") (quote ['n']) := .string (IsPlain.spells (by decide))
  have htoken : SpellsValue (.string "t") (quote ['t']) := .string (IsPlain.spells (by decide))
  have hescaped : Spells "\\u0070eerId".toList "peerId".toList := by
    have hunit : IsUnit ['0', '0', '7', '0'] 0x70 := ⟨by decide, by decide⟩
    have hrest : Spells "eerId".toList "eerId".toList := IsPlain.spells (by decide)
    exact .unit hunit (by decide) (by decide) hrest
  have hblank : IsGap [' '] := by decide
  let peer : Member := .compact "peerId" (quote ['n']) (by decide) hpeer.isText
  let token : Member := .compact "sessionToken" (quote ['t']) (by decide) htoken.isText
  let spaced : Member := ⟨⟨[' '], "\\u0070eerId".toList, [' '], [' '], quote ['n'], [' ']⟩,
    "peerId", ⟨hblank, hblank, hblank, hblank⟩, hescaped, hpeer.isText⟩
  let scattered : List Member :=
    [.compact "x" _ (by decide) hforeign, token, .compact "x" _ (by decide) .null, spaced]
  have hgiven : (Profile.of "n" "t").IsGivenBy scattered := by
    have hnames : scattered.map (·.name) = ["x", "sessionToken", "x", "peerId"] := rfl
    refine ⟨?_, ?_, ?_⟩
    · intro member hmember value hvalue
      simp only [scattered, List.mem_cons, List.not_mem_nil, or_false] at hmember
      rcases hmember with rfl | rfl | rfl | rfl
      · cases hvalue
      · obtain rfl := Option.some.inj hvalue
        exact htoken
      · cases hvalue
      · obtain rfl := Option.some.inj hvalue
        exact hpeer
    · intro name hname habsent
      rw [hnames] at habsent
      simp only [memberNames, List.mem_cons, List.not_mem_nil, or_false] at hname
      rcases hname with rfl | rfl | rfl | rfl | rfl | rfl | rfl | rfl <;>
        first | rfl | exact absurd (by decide) habsent
    · rw [hnames]
      decide
  refine ⟨?_, ?_⟩
  · exact ((stored_depends_on_known_members hblank isGap_nil scattered).1 _ hgiven).1
  · exact ((stored_depends_on_known_members isGap_nil isGap_nil [peer, token, peer]).2
      ⟨"peerId", by decide, by simp [peer, token, Member.compact]⟩).1

end NodeLink.Profile
