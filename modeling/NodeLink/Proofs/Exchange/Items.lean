import NodeLink.Proofs.Exchange.Calls
/-!
# Items are returned as they were served

A list of items that a node serves as JSON is read back item by item.  No text is too
strange and no timestamp of 64 bits too large for that, and it does not matter in which
order the members of the items are written.
-/

namespace NodeLink.Exchange

open NodeLink.Json NodeLink.Text

/-- The list that a call asks for, if it asks for one. -/
def Inquiry.listing? : Inquiry → Option Listing
  | .feed _ => some .feed
  | .post _ => none
  | .notifications => some .notifications
  | .messages => some .messages

def served (listing : Listing) (items : List Item) : Value :=
  .object [(listing.member, .array (items.map (Item.toJson listing)))]

def Item.HasTime (item : Item) : Prop :=
  leastTimestamp ≤ item.timestamp ∧ item.timestamp ≤ greatestTimestamp

/-! ## The order of members does not matter -/

theorem textOf?_canonical (value? : Option Value) :
    textOf? (value?.map Value.canonical) = textOf? value? := by
  cases value? with
  | none => rfl
  | some value => cases value <;> simp [textOf?, Value.canonical]

theorem timestampOf?_canonical (value? : Option Value) :
    timestampOf? (value?.map Value.canonical) = timestampOf? value? := by
  cases value? with
  | none => rfl
  | some value => cases value <;> simp [timestampOf?, Value.canonical]

theorem ofParts?_canonical (id tag content timestamp : Option Value) :
    Item.ofParts? (id.map Value.canonical) (tag.map Value.canonical)
        (content.map Value.canonical) (timestamp.map Value.canonical) =
      Item.ofParts? id tag content timestamp := by
  simp only [Item.ofParts?, textOf?_canonical, timestampOf?_canonical]

theorem ofJson?_canonical (listing : Listing) (value : Value) :
    Item.ofJson? listing value.canonical = Item.ofJson? listing value := by
  cases value with
  | object members =>
      have hmember (name : String) := member?_canonical (.object members) name
      simp only [Value.canonical] at hmember ⊢
      simp only [Item.ofJson?, hmember, ofParts?_canonical]
  | array items =>
      rw [Value.canonical, canonicalItems_eq]
      rcases items with _ | ⟨id, _ | ⟨tag, _ | ⟨content, _ | ⟨timestamp, _ | ⟨more, rest⟩⟩⟩⟩⟩
      · rfl
      · exact ofParts?_canonical (some id) none none none
      · exact ofParts?_canonical (some id) (some tag) none none
      · exact ofParts?_canonical (some id) (some tag) (some content) none
      · exact ofParts?_canonical (some id) (some tag) (some content) (some timestamp)
      · rfl
  | null | bool | number | string => rfl

theorem mapM_canonicalItems (listing : Listing) (items : List Value) :
    (canonicalItems items).mapM (Item.ofJson? listing) = items.mapM (Item.ofJson? listing) := by
  rw [canonicalItems_eq, List.mapM_map]
  congr 1
  funext value
  exact ofJson?_canonical listing value

theorem read_canonical (listing : Listing) (value : Value) :
    listing.read value.canonical = listing.read value := by
  cases value with
  | array items => simp only [Value.canonical, Listing.read, mapM_canonicalItems]
  | object members =>
      have hmember := member?_canonical (.object members) listing.member
      simp only [Value.canonical, Listing.read] at hmember ⊢
      rw [hmember]
      cases (Value.object members).member? listing.member with
      | none => rfl
      | some value =>
          cases value with
          | array items => simp only [Option.map_some, Value.canonical, mapM_canonicalItems]
          | null | bool | number | string | object => rfl
  | null | bool | number | string => rfl

/-! ## Served items -/

section

variable {listing : Listing} {items : List Item}

theorem Item.HasTime.fitsWord {item : Item} (htime : item.HasTime) : FitsWord item.timestamp :=
  ⟨htime.1, Int.le_trans htime.2 (by decide)⟩

theorem exact_toJson {item : Item} (htime : item.HasTime) : (item.toJson listing).Exact 1 := by
  apply Value.Exact.object
  intro member hmember
  simp only [List.mem_cons, List.not_mem_nil, or_false] at hmember
  rcases hmember with rfl | rfl | rfl | rfl
  · exact .string item.id
  · exact .string item.tag
  · exact .string item.content
  · exact .integer htime.fitsWord

theorem exact_served (htimes : ∀ item ∈ items, item.HasTime) : (served listing items).Exact 3 := by
  apply Value.Exact.single
  apply Value.Exact.array
  intro value hvalue
  obtain ⟨item, hitem, rfl⟩ := List.mem_map.mp hvalue
  exact exact_toJson (htimes item hitem)

theorem ofJson?_toJson {item : Item} (htime : item.HasTime) :
    Item.ofJson? listing (item.toJson listing) = some item := by
  have htimestamp : timestampOf? (some (.ofInt item.timestamp)) = some item.timestamp := by
    simp only [timestampOf?, Value.ofInt]
    exact if_pos htime
  cases listing with
  | feed | notifications | messages =>
      show Item.ofParts? (some (.string item.id)) (some (.string item.tag))
        (some (.string item.content)) (some (.ofInt item.timestamp)) = some item
      simp [Item.ofParts?, textOf?, htimestamp]

theorem read_served (htimes : ∀ item ∈ items, item.HasTime) :
    listing.read (served listing items) = items := by
  have hitems : (items.map (Item.toJson listing)).mapM (Item.ofJson? listing) = some items := by
    induction items with
    | nil => rfl
    | cons item items ih =>
        have hrest := ih fun other hother => htimes other (List.mem_cons_of_mem item hother)
        rw [List.map_cons, List.mapM_cons, ofJson?_toJson (htimes item List.mem_cons_self), hrest]
        rfl
  have hread : listing.read (served listing items) =
      ((items.map (Item.toJson listing)).mapM (Item.ofJson? listing)).getD [] := by
    cases listing <;> rfl
  rw [hread, hitems]
  rfl

theorem member?_served {name : String} (hname : name ≠ listing.member) :
    (served listing items).member? name = none := by
  rw [served, Value.member?, Members.find?_eq_none]
  intro member hmember
  obtain rfl := List.mem_singleton.mp hmember
  exact hname.symm

end

/-- A written value that is no envelope and signals no error is read as it is. -/
theorem interpret_write {depth : Nat} {value : Value} (hexact : value.Exact depth)
    (hdepth : depth ≤ greatestDepth) (hdata : value.member? "data" = none)
    (herror : value.member? "error" = none) :
    interpret (Utf8.encode value.write) = .ok (some value.canonical) := by
  have hquiet : signalled? value.canonical = none := by
    rw [signalled?, member?_canonical_of_none herror]
  rw [interpret, readBytes_write hexact hdepth]
  simp only [interpretValue_bare (member?_canonical_of_none hdata), hquiet]

theorem read_of_listing {inquiry : Inquiry} {listing : Listing}
    (hlisting : inquiry.listing? = some listing) (reply? : Option Value) :
    inquiry.read reply? = readList listing reply? := by
  cases inquiry with
  | feed | notifications | messages =>
      obtain rfl := Option.some.inj hlisting
      rfl
  | post => cases hlisting

/-- A list of items that is served as JSON, whether its members are written in their own
order or sorted by name, is what the call for it returns. -/
theorem served_items_come_back {session : Session} {inquiry : Inquiry} {listing : Listing}
    {items : List Item} {body : List UInt8} (hlisting : inquiry.listing? = some listing)
    (htimes : ∀ item ∈ items, item.HasTime)
    (hbody : body = Utf8.encode (served listing items).write ∨
      body = Utf8.encode (served listing items).canonical.write)
    (hanswered : IsAnswered session inquiry body) :
    (ask session inquiry).2 = .ok (.items listing items) := by
  have hdata : (served listing items).member? "data" = none :=
    member?_served (by cases listing <;> decide)
  have herror : (served listing items).member? "error" = none :=
    member?_served (by cases listing <;> decide)
  have hexact : (served listing items).Exact 3 := exact_served htimes
  have hreply : ∃ reply, interpret body = .ok (some reply) ∧ listing.read reply = items := by
    rcases hbody with rfl | rfl
    · refine ⟨_, interpret_write hexact (by decide) hdata herror, ?_⟩
      rw [read_canonical, read_served htimes]
    · refine ⟨_, interpret_write hexact.canonical (by decide) (member?_canonical_of_none hdata)
        (member?_canonical_of_none herror), ?_⟩
      rw [read_canonical, read_canonical, read_served htimes]
  obtain ⟨reply, hinterpret, hread⟩ := hreply
  rw [hanswered.ask_eq, hinterpret]
  simp only [read_of_listing hlisting, readList, Option.elim_some, hread]

/-- Quotes, control characters, line separators and the two ends of the range of times. -/
theorem strange_messages_come_back :
    let items : List Item :=
      [⟨"\"\\\x00", "\u2028", "\x7b😀\x7d", leastTimestamp⟩, ⟨"", "", "", greatestTimestamp⟩]
    let session := sampleSession.cue
      (.reply Service.messages.protocol (.body (Utf8.encode (served .messages items).write)))
    Inquiry.messages.listing? = some .messages ∧ (∀ item ∈ items, item.HasTime) ∧
      (ask session .messages).2 = .ok (.items .messages items) := by
  intro items session
  have htimes : ∀ item ∈ items, item.HasTime := by
    simp only [items, List.forall_mem_cons, List.not_mem_nil, false_implies, implies_true,
      and_true, Item.HasTime]
    decide
  exact ⟨rfl, htimes, served_items_come_back rfl htimes (.inl rfl)
    (isAnswered_sampleSession .messages _)⟩

end NodeLink.Exchange
