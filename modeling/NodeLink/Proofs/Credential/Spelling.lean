import NodeLink.Credential.Basic
import NodeLink.Proofs.Json.Canonical
/-!
# Spellings of the fields of a credential

A field of a credential is looked for under its own name first and under its other
spelling only if nothing is said there.  So what counts under the name hides the other
spelling, a field under its other spelling alone is read as if it stood under its name,
and no member but the fields, the addresses and the expiry is looked at.
-/

namespace NodeLink.Credential

open NodeLink.Json NodeLink.Text

/-! ## What is found under a name -/

def Field.otherSpelling : Field → String
  | .peer => "PeerId"
  | .token => "SessionToken"
  | .key => "PSK"

theorem Field.spellings_eq (field : Field) :
    field.spellings = [field.name, field.otherSpelling] := by
  cases field with
  | peer | token | key => rfl

/-- Nothing is said under a name: it is missing, or null or a blank text stands there. -/
inductive SaysNothing : Option Value → Prop
  | absent : SaysNothing none
  | null : SaysNothing (some .null)
  | blank {text : String} (hblank : isBlankText text = true) : SaysNothing (some (.string text))

/-- A text with something in it stands under a name. -/
inductive SaysText : Option Value → Prop
  | text {text : String} (hsolid : isBlankText text = false) : SaysText (some (.string text))

/-- What looking under a name comes to, given what the names behind it come to. -/
def weigh (name : String) (found : Option Value) (behind : Except Error (Option String)) :
    Except Error (Option String) :=
  match found with
  | none => behind
  | some .null => behind
  | some (.string text) => if isBlankText text then behind else .ok (some (trim text))
  | some value => .error (.notString name value)

theorem lookUp_cons (members : List (String × Value)) (name : String) (names : List String) :
    lookUp members (name :: names) =
      weigh name (Members.find? members name) (lookUp members names) := by
  rw [lookUp]
  rfl

theorem weigh_of_saysNothing {found : Option Value} (hnothing : SaysNothing found) (name : String)
    (behind : Except Error (Option String)) : weigh name found behind = behind := by
  cases hnothing with
  | absent => rfl
  | null => rfl
  | blank hblank => exact if_pos hblank

theorem weigh_of_saysText {found : Option Value} (htext : SaysText found) (name : String)
    (behind other : Except Error (Option String)) :
    weigh name found behind = weigh name found other := by
  obtain ⟨hsolid⟩ := htext
  simp only [weigh, hsolid]
  rfl

/-! ## Errors up to spelling -/

/-- The name of a field in the place of its other spelling. -/
def plainName (name : String) : String :=
  match [Field.peer, Field.token, Field.key].find? (·.otherSpelling = name) with
  | some field => field.name
  | none => name

/-- An error as it would be if all fields stood under their names. -/
def Error.plain : Error → Error
  | .notString name value => .notString (plainName name) value
  | error => error

theorem plainName_otherSpelling (field : Field) :
    plainName field.otherSpelling = plainName field.name := by
  cases field with
  | peer | token | key => decide

theorem weigh_otherSpelling (field : Field) (found : Option Value) :
    (weigh field.otherSpelling found (.ok none)).mapError Error.plain =
      (weigh field.name found (.ok none)).mapError Error.plain := by
  cases found with
  | none => rfl
  | some value =>
      cases value with
      | null | string => rfl
      | bool | number | array | object =>
          simp only [weigh, Except.mapError, Error.plain, plainName_otherSpelling]

/-! ## Looking up a field -/

section

variable {members others : List (String × Value)} {field : Field}

def HoldSame (members others : List (String × Value)) (name : String) : Prop :=
  Members.find? members name = Members.find? others name

/-- Two objects say the same about a field: they hold the same under its name, and under
its other spelling too unless the name hides that. -/
structure AgreeOn (members others : List (String × Value)) (field : Field) : Prop where
  name : HoldSame members others field.name
  otherSpelling : SaysText (Members.find? members field.name) ∨
    HoldSame members others field.otherSpelling

/-- The first object says nothing under the name of a field, and the second one has moved
there what stands under the other spelling. -/
structure MovesTo (members others : List (String × Value)) (field : Field) : Prop where
  nothing : SaysNothing (Members.find? members field.name)
  moved : Members.find? others field.name = Members.find? members field.otherSpelling
  gone : Members.find? others field.otherSpelling = none

theorem lookUp_spellings (members : List (String × Value)) (field : Field) :
    lookUp members field.spellings =
      weigh field.name (Members.find? members field.name)
        (weigh field.otherSpelling (Members.find? members field.otherSpelling) (.ok none)) := by
  rw [field.spellings_eq, lookUp_cons, lookUp_cons, lookUp]

theorem AgreeOn.lookUp_eq (hagree : AgreeOn members others field) :
    lookUp members field.spellings = lookUp others field.spellings := by
  rw [lookUp_spellings, lookUp_spellings, ← hagree.name]
  rcases hagree.otherSpelling with htext | hsame
  · exact weigh_of_saysText htext field.name _ _
  · rw [hsame]

theorem MovesTo.lookUp_eq (hmoves : MovesTo members others field) :
    (lookUp members field.spellings).mapError Error.plain =
      (lookUp others field.spellings).mapError Error.plain := by
  rw [lookUp_spellings, lookUp_spellings, weigh_of_saysNothing hmoves.nothing, hmoves.moved,
    hmoves.gone, weigh_of_saysNothing .absent]
  exact weigh_otherSpelling field _

/-! ## Whole credentials -/

theorem mapError_bind_congr {α β ε ε' : Type} {translate : ε → ε'} {former latter : Except ε α}
    {next next' : α → Except ε β}
    (hsame : former.mapError translate = latter.mapError translate)
    (hnext : ∀ value, (next value).mapError translate = (next' value).mapError translate) :
    (former >>= next).mapError translate = (latter >>= next').mapError translate := by
  cases former with
  | error error =>
      cases latter with
      | error other => exact congrArg (Except.error (α := β)) (Except.error.inj hsame)
      | ok value => cases hsame
  | ok value =>
      cases latter with
      | error error => cases hsame
      | ok other =>
          obtain rfl : value = other := Except.ok.inj hsame
          exact hnext value

/-- A credential is made of what the three fields come to, the addresses and the expiry. -/
theorem mapError_ofMembers {translate : Error → Error}
    (hfields : ∀ field : Field, (lookUp members field.spellings).mapError translate =
      (lookUp others field.spellings).mapError translate)
    (haddresses : HoldSame members others "addresses")
    (hexpires : HoldSame members others "expires") :
    (ofMembers members).mapError translate = (ofMembers others).mapError translate := by
  have hrequired (field : Field) : (required members field).mapError translate =
      (required others field).mapError translate :=
    mapError_bind_congr (hfields field) fun _ => rfl
  refine mapError_bind_congr (hrequired .peer) fun peer => ?_
  refine mapError_bind_congr (hrequired .token) fun token => ?_
  refine mapError_bind_congr (hfields .key) fun key => ?_
  rw [haddresses, hexpires]

theorem mapError_id {α ε : Type} (result : Except ε α) : result.mapError id = result := by
  cases result with
  | error | ok => rfl

theorem ofMembers_congr (hfields : ∀ field : Field, AgreeOn members others field)
    (haddresses : HoldSame members others "addresses")
    (hexpires : HoldSame members others "expires") : ofMembers members = ofMembers others := by
  have hsame : (ofMembers members).mapError id = (ofMembers others).mapError id :=
    mapError_ofMembers (fun field => congrArg (Except.mapError id) (hfields field).lookUp_eq)
      haddresses hexpires
  rwa [mapError_id, mapError_id] at hsame

theorem decode_of_readText {text : String} (hread : Json.readText text = .ok (.object members)) :
    decode text = ofMembers members := by
  rw [decode, hread]

end

/-- The result of decoding depends on an object only by its addresses, its expiry and what it
says about the three fields.  A text under the name of a field hides the other spelling,
whatever stands there.  If nothing is said under the name, the result is what it would be if
the value under the other spelling stood under the name, but for the name that an error tells. -/
theorem first_spelling_counts {text other : String} {members others : List (String × Value)}
    (htext : Json.readText text = .ok (.object members))
    (hother : Json.readText other = .ok (.object others))
    (haddresses : Members.find? members "addresses" = Members.find? others "addresses")
    (hexpires : Members.find? members "expires" = Members.find? others "expires") :
    ((∀ field, AgreeOn members others field) → decode text = decode other) ∧
      ((∀ field, AgreeOn members others field ∨ MovesTo members others field) →
        (decode text).mapError Error.plain = (decode other).mapError Error.plain) := by
  rw [decode_of_readText htext, decode_of_readText hother]
  constructor
  · intro hfields
    exact ofMembers_congr hfields haddresses hexpires
  · intro hfields
    refine mapError_ofMembers (fun field => ?_) haddresses hexpires
    rcases hfields field with hagree | hmoves
    · exact congrArg (Except.mapError Error.plain) hagree.lookUp_eq
    · exact hmoves.lookUp_eq

/-- Two values that are hidden behind the name of the peer, and a list that is told as a fault
under either spelling of the token. -/
theorem hidden_peer_and_moved_token :
    let members (hidden : Value) : List (String × Value) :=
      [("PeerId", hidden), ("peerId", .string " a "), ("SessionToken", .array [.string "t"]),
        ("sessionToken", .null)]
    let moved : List (String × Value) :=
      [("peerId", .string " a "), ("sessionToken", .array [.string "t"]), ("version", .null)]
    let text := (Value.object (members (.bool true))).text
    let other := (Value.object (members (.string "b"))).text
    decode text = decode other ∧
      (decode other).mapError Error.plain =
        (decode (Value.object moved).text).mapError Error.plain ∧
      (decode other).mapError Error.message = .error
        "malformed credential payload: field `SessionToken` must be a string, got [\"t\"]" ∧
      (decode (Value.object moved).text).mapError Error.message = .error
        "malformed credential payload: field `sessionToken` must be a string, got [\"t\"]" := by
  intro members moved text other
  have htoken : (Value.array [.string "t"]).Exact 1 := .array (by simpa using .string "t")
  have hexact (hidden : Value) (hhidden : hidden.Exact 1) :
      (Value.object (members hidden)).Exact 2 :=
    .object (by simpa [members] using ⟨hhidden, .string _, htoken, .null⟩)
  have hmoved : (Value.object moved).Exact 2 :=
    .object (by simpa [moved] using ⟨.string _, htoken, .null⟩)
  have htext := readText_object (hexact _ (.bool true)) (by decide)
  have hother := readText_object (hexact _ (.string "b")) (by decide)
  have hfound (hidden : Value) := find?_sorted_canonical (members hidden)
  have hfound' := find?_sorted_canonical moved
  obtain ⟨hprecedence, -⟩ := first_spelling_counts htext hother
    (by rw [hfound, hfound]; rfl) (by rw [hfound, hfound]; rfl)
  obtain ⟨-, hfallback⟩ := first_spelling_counts hother (readText_object hmoved (by decide))
    (by rw [hfound, hfound']; rfl) (by rw [hfound, hfound']; rfl)
  have hpeer (hidden : Value) : SaysText (Members.find?
      (Members.sorted (canonicalMembers (members hidden))) Field.peer.name) := by
    rw [hfound]
    exact .text (by decide)
  have hnothing (hidden : Value) : SaysNothing (Members.find?
      (Members.sorted (canonicalMembers (members hidden))) Field.token.name) := by
    rw [hfound]
    exact .null
  refine ⟨hprecedence ?_, hfallback ?_, by decide +kernel, by decide +kernel⟩
  · intro field
    refine ⟨by rw [HoldSame, hfound, hfound]; cases field <;> rfl, ?_⟩
    cases field with
    | peer => exact .inl (hpeer _)
    | token | key => exact .inr (by rw [HoldSame, hfound, hfound]; rfl)
  · intro field
    cases field with
    | peer => exact .inl ⟨by rw [HoldSame, hfound, hfound']; rfl, .inl (hpeer _)⟩
    | token =>
        exact .inr ⟨hnothing _, by rw [hfound, hfound']; rfl, by rw [hfound']; rfl⟩
    | key =>
        exact .inl ⟨by rw [HoldSame, hfound, hfound']; rfl,
          .inr (by rw [HoldSame, hfound, hfound']; rfl)⟩

end NodeLink.Credential
