import NodeLink.Proofs.Exchange.Items
/-!
# Lists are returned as a whole or not at all

A reply serves a list as itself or under the name of the list, and each element of it
stands for an item or for none.  A call returns an item for each element, in the order
in which they are served, or else it returns nothing of the list.
-/

namespace NodeLink.Exchange

open NodeLink.Json NodeLink.Text

/-- The text that a part of an item stands for. -/
inductive Tells : Option Value → String → Prop
  | missing : Tells none ""
  | text (text : String) : Tells (some (.string text)) text

/-- The time that a part of an item stands for.  Neither numbers beyond 64 bits with a
sign nor those with a fraction stand for one. -/
inductive Dates : Option Value → Int → Prop
  | missing : Dates none 0
  | integer {n : Int} (hleast : -Nat.pow 2 63 ≤ n) (hgreatest : n < Nat.pow 2 63) :
      Dates (some (.number (.integer n))) n

structure Item.Fills (item : Item) (id tag content timestamp : Option Value) : Prop where
  id : Tells id item.id
  tag : Tells tag item.tag
  content : Tells content item.content
  timestamp : Dates timestamp item.timestamp

/-- The item that an element of a list stands for.  Its parts are the members of those
names, or the first four elements of an array that has no more. -/
inductive Listing.Decodes (listing : Listing) : Value → Item → Prop
  | named {members : List (String × Value)} {part : String → Option Value} {item : Item}
      (hpart : ∀ name value, part name = some value ↔ (name, value) ∈ members)
      (hfills : item.Fills (part "id") (part listing.tagMember) (part "content")
        (part "timestamp")) :
      listing.Decodes (.object members) item
  | placed {parts : List Value} {item : Item} (hlength : parts.length ≤ 4)
      (hfills : item.Fills parts[0]? parts[1]? parts[2]? parts[3]?) :
      listing.Decodes (.array parts) item

/-- The list that a reply serves. -/
inductive Listing.Serves (listing : Listing) : Value → List Value → Prop
  | bare (values : List Value) : listing.Serves (.array values) values
  | named {members : List (String × Value)} {values : List Value}
      (hmember : (listing.member, .array values) ∈ members) :
      listing.Serves (.object members) values

/-! ## Elements -/

theorem textOf?_eq_some_iff {part : Option Value} {text : String} :
    textOf? part = some text ↔ Tells part text := by
  constructor
  · intro htext
    cases part with
    | none =>
        obtain rfl := Option.some.inj htext
        exact .missing
    | some value =>
        cases value with
        | string told =>
            obtain rfl := Option.some.inj htext
            exact .text told
        | null | bool | number | array | object => cases htext
  · intro htells
    cases htells with
    | missing | text => rfl

theorem timestampOf?_eq_some_iff {part : Option Value} {time : Int} :
    timestampOf? part = some time ↔ Dates part time := by
  have hrange (n : Int) : leastTimestamp ≤ n ∧ n ≤ greatestTimestamp ↔
      -Nat.pow 2 63 ≤ n ∧ n < Nat.pow 2 63 := by
    rw [leastTimestamp, greatestTimestamp, Int.le_sub_one_iff]
  constructor
  · intro htime
    cases part with
    | none =>
        obtain rfl := Option.some.inj htime
        exact .missing
    | some value =>
        cases value with
        | number number =>
            cases number with
            | integer n =>
                simp only [timestampOf?, hrange] at htime
                split at htime
                next hfits =>
                  obtain rfl := Option.some.inj htime
                  exact .integer hfits.1 hfits.2
                next => cases htime
            | binary => cases htime
        | null | bool | string | array | object => cases htime
  · intro hdates
    cases hdates with
    | missing => rfl
    | integer hleast hgreatest =>
        simp only [timestampOf?, hrange]
        exact if_pos ⟨hleast, hgreatest⟩

theorem ofParts?_eq_some_iff {id tag content timestamp : Option Value} {item : Item} :
    Item.ofParts? id tag content timestamp = some item ↔ item.Fills id tag content timestamp := by
  simp only [Item.ofParts?, Option.pure_def, Option.bind_eq_bind, Option.bind_eq_some_iff,
    textOf?_eq_some_iff, timestampOf?_eq_some_iff]
  constructor
  · rintro ⟨idText, hid, tagText, htag, contentText, hcontent, time, htime, hitem⟩
    obtain rfl := Option.some.inj hitem
    exact ⟨hid, htag, hcontent, htime⟩
  · intro hfills
    exact ⟨_, hfills.id, _, hfills.tag, _, hfills.content, _, hfills.timestamp, rfl⟩

theorem ofJson?_eq_some_iff {listing : Listing} {value : Value} (hcanonical : IsCanonical value)
    {item : Item} : Item.ofJson? listing value = some item ↔ listing.Decodes value item := by
  cases value with
  | object members =>
      have hfound (name : String) (value : Value) :
          (Value.object members).member? name = some value ↔ (name, value) ∈ members :=
        hcanonical.member?_eq_some_iff
      simp only [Item.ofJson?, ofParts?_eq_some_iff]
      constructor
      · intro hfills
        exact .named hfound hfills
      · intro hdecodes
        cases hdecodes with
        | named hpart hfills =>
            rename_i part
            have hsame (name : String) : (Value.object members).member? name = part name :=
              Option.ext fun value => (hfound name value).trans (hpart name value).symm
            simpa only [hsame] using hfills
  | array parts =>
      have hplaced : listing.Decodes (.array parts) item ↔
          parts.length ≤ 4 ∧ item.Fills parts[0]? parts[1]? parts[2]? parts[3]? := by
        constructor
        · intro hdecodes
          cases hdecodes with
          | placed hlength hfills => exact ⟨hlength, hfills⟩
        · rintro ⟨hlength, hfills⟩
          exact .placed hlength hfills
      rw [hplaced]
      rcases parts with
        _ | ⟨id, _ | ⟨tag, _ | ⟨content, _ | ⟨timestamp, _ | ⟨more, rest⟩⟩⟩⟩⟩
      · simp [Item.ofJson?, ofParts?_eq_some_iff]
      · simp [Item.ofJson?, ofParts?_eq_some_iff]
      · simp [Item.ofJson?, ofParts?_eq_some_iff]
      · simp [Item.ofJson?, ofParts?_eq_some_iff]
      · simp [Item.ofJson?, ofParts?_eq_some_iff]
      · simp [Item.ofJson?]
  | null | bool | number | string =>
      constructor
      · intro hitem
        cases hitem
      · intro hdecodes
        cases hdecodes

/-! ## Lists -/

section

variable {listing : Listing} {values : List Value} {items : List Item}

/-- Elements that are all read give their items one by one. -/
theorem mapM_ofJson?_eq_some_iff :
    values.mapM (Item.ofJson? listing) = some items ↔
      values.map (Item.ofJson? listing) = items.map some := by
  induction values generalizing items with
  | nil => cases items <;> simp
  | cons value values ih =>
      simp only [List.mapM_cons, Option.bind_eq_bind, Option.pure_def, Option.bind_eq_some_iff,
        Option.some.injEq, ih, List.map_cons]
      constructor
      · rintro ⟨item, hitem, rest, hrest, rfl⟩
        rw [hitem, hrest, List.map_cons]
      · intro heach
        cases items with
        | nil => cases heach
        | cons item rest =>
            obtain ⟨hitem, hrest⟩ := List.cons.inj heach
            exact ⟨item, hitem, rest, hrest, rfl⟩

theorem exists_mapM_ofJson?
    (hread : ∀ value ∈ values, ∃ item, Item.ofJson? listing value = some item) :
    ∃ items, values.mapM (Item.ofJson? listing) = some items := by
  induction values with
  | nil => exact ⟨[], rfl⟩
  | cons value values ih =>
      obtain ⟨hfirst, hrest⟩ := List.forall_mem_cons.mp hread
      obtain ⟨item, hitem⟩ := hfirst
      obtain ⟨items, hitems⟩ := ih hrest
      exact ⟨item :: items, by simp [List.mapM_cons, hitem, hitems]⟩

theorem Listing.Serves.isCanonical {reply : Value} (hserves : listing.Serves reply values)
    (hcanonical : IsCanonical reply) : ∀ value ∈ values, IsCanonical value := by
  cases hserves with
  | bare => exact hcanonical.of_items
  | named hmember => exact (hcanonical.of_members.2 _ hmember).of_items

theorem Listing.Serves.read_eq {reply : Value} (hserves : listing.Serves reply values)
    (hcanonical : IsCanonical reply) :
    listing.read reply = (values.mapM (Item.ofJson? listing)).getD [] := by
  cases hserves with
  | bare => rfl
  | named hmember => simp only [Listing.read, hcanonical.member?_eq_some_iff.mpr hmember]

theorem Listing.read_eq_nil_or_serves (listing : Listing) {reply : Value}
    (hcanonical : IsCanonical reply) :
    listing.read reply = [] ∨ ∃ values, listing.Serves reply values := by
  cases reply with
  | array values => exact .inr ⟨values, .bare values⟩
  | object members =>
      cases hfound : (Value.object members).member? listing.member with
      | none => exact .inl (by simp [Listing.read, hfound])
      | some value =>
          cases value with
          | array values =>
              exact .inr ⟨values, .named (hcanonical.member?_eq_some_iff.mp hfound)⟩
          | null | bool | number | string | object =>
              exact .inl (by simp [Listing.read, hfound])
  | null | bool | number | string => exact .inl rfl

/-- A list of which every element stands for an item is read element by element. -/
theorem Listing.Serves.whole {reply : Value} (hserves : listing.Serves reply values)
    (hcanonical : IsCanonical reply)
    (hdecodes : ∀ value ∈ values, ∃ item, listing.Decodes value item) :
    (listing.read reply).length = values.length ∧
      ∀ (i : Nat) (item : Item), (listing.read reply)[i]? = some item ↔
        ∃ value, values[i]? = some value ∧ listing.Decodes value item := by
  have hvalues := hserves.isCanonical hcanonical
  have hread : ∀ value ∈ values, ∃ item, Item.ofJson? listing value = some item := by
    intro value hvalue
    obtain ⟨item, hitem⟩ := hdecodes value hvalue
    exact ⟨item, (ofJson?_eq_some_iff (hvalues value hvalue)).mpr hitem⟩
  obtain ⟨items, hitems⟩ := exists_mapM_ofJson? hread
  have heach := mapM_ofJson?_eq_some_iff.mp hitems
  rw [hserves.read_eq hcanonical, hitems, Option.getD_some]
  refine ⟨?_, ?_⟩
  · simpa using (congrArg List.length heach).symm
  · intro i item
    have hat : (values[i]?).map (Item.ofJson? listing) = (items[i]?).map some := by
      simpa using congrArg (fun each : List (Option Item) => each[i]?) heach
    have hitem : items[i]? = some item ↔ (items[i]?).map some = some (some item) := by simp
    rw [hitem, ← hat, Option.map_eq_some_iff]
    refine exists_congr fun value => and_congr_right fun hvalue => ?_
    exact ofJson?_eq_some_iff (hvalues value (List.mem_of_getElem? hvalue))

/-- One element that stands for no item is enough to lose the list. -/
theorem Listing.Serves.spoilt {reply : Value} (hserves : listing.Serves reply values)
    (hcanonical : IsCanonical reply)
    (hspoilt : ∃ value ∈ values, ∀ item, ¬ listing.Decodes value item) :
    listing.read reply = [] := by
  rw [hserves.read_eq hcanonical]
  cases hitems : values.mapM (Item.ofJson? listing) with
  | none => rfl
  | some items =>
      obtain ⟨value, hvalue, hfails⟩ := hspoilt
      have hread : Item.ofJson? listing value ∈ items.map some := by
        rw [← mapM_ofJson?_eq_some_iff.mp hitems]
        exact List.mem_map_of_mem hvalue
      obtain ⟨item, -, hitem⟩ := List.mem_map.mp hread
      exact absurd ((ofJson?_eq_some_iff (hserves.isCanonical hcanonical value hvalue)).mp
        hitem.symm) (hfails item)

end

/-- A call for a list that is answered without an error returns the list that the answer
leaves, with the item of each element in its place, if every element stands for one.  If
some element stands for none, or if no list is left, it returns no items. -/
theorem listed_items_are_all_or_none {session : Session} {inquiry : Inquiry} {listing : Listing}
    {body : List UInt8} (hlisting : inquiry.listing? = some listing)
    (hanswered : IsAnswered session inquiry body) (hquiet : ∀ message, ¬ Reports body message) :
    ∃ items, (ask session inquiry).2 = .ok (.items listing items) ∧
      (∀ reply values, Leaves body reply → listing.Serves reply values →
        (∀ value ∈ values, ∃ item, listing.Decodes value item) →
        items.length = values.length ∧
          ∀ (i : Nat) (item : Item), items[i]? = some item ↔
            ∃ value, values[i]? = some value ∧ listing.Decodes value item) ∧
      ((∀ reply values, Leaves body reply → listing.Serves reply values →
        ∃ value ∈ values, ∀ item, ¬ listing.Decodes value item) → items = []) := by
  rw [hanswered.ask_eq]
  cases hinterpret : interpret body with
  | error message => exact absurd (interpret_eq_error_iff.mp hinterpret) (hquiet message)
  | ok reply? =>
      refine ⟨reply?.elim [] listing.read, ?_, ?_, ?_⟩
      · simp only [read_of_listing hlisting, readList]
      · intro reply values hleaves hserves hdecodes
        have hreply := hinterpret.symm.trans (interpret_eq_ok_some_iff.mpr hleaves)
        obtain rfl := Except.ok.inj hreply
        exact hserves.whole hleaves.isCanonical hdecodes
      · intro hspoilt
        cases reply? with
        | none => rfl
        | some reply =>
            have hleaves := interpret_eq_ok_some_iff.mp hinterpret
            have hcanonical := hleaves.isCanonical
            rcases listing.read_eq_nil_or_serves hcanonical with hnil | ⟨values, hserves⟩
            · exact hnil
            · exact hserves.spoilt hcanonical (hspoilt reply values hleaves hserves)

/-- An object with a member that is unknown, next to an array that stops after its first part. -/
theorem mixed_feed_comes_whole :
    let values : List Value :=
      [.object [("author", .string "ana"), ("id", .string "1"), ("seen", .bool true)],
        .array [.string "2"]]
    let reply : Value := .object [("items", .array values)]
    let body := Utf8.encode reply.write
    let session := sampleSession.cue (.reply Service.timeline.protocol (.body body))
    (∀ message, ¬ Reports body message) ∧ Leaves body reply ∧ Listing.feed.Serves reply values ∧
      ∃ items, (ask session (.feed 20)).2 = .ok (.items .feed items) ∧ items.length = 2 ∧
        items[0]? = some ⟨"1", "ana", "", 0⟩ ∧ items[1]? = some ⟨"2", "", "", 0⟩ := by
  intro values reply body session
  have hexact : reply.Exact 3 := by
    refine Value.Exact.single (.array ?_) _
    simp only [values, List.forall_mem_cons, List.not_mem_nil, false_implies, implies_true,
      and_true]
    refine ⟨.object ?_, .array ?_⟩
    · simp only [List.forall_mem_cons, List.not_mem_nil, false_implies, implies_true, and_true]
      exact ⟨.string "ana", .string "1", .bool true⟩
    · simp only [List.forall_mem_cons, List.not_mem_nil, false_implies, implies_true, and_true]
      exact .string "2"
  have hcanonical : IsCanonical reply := ⟨reply, rfl⟩
  have hinterpret : interpret body = .ok (some reply) :=
    interpret_write hexact (by decide) rfl rfl
  have hquiet (message : String) : ¬ Reports body message := by
    intro hreports
    cases hinterpret.symm.trans (interpret_eq_error_iff.mpr hreports)
  have hleaves : Leaves body reply := interpret_eq_ok_some_iff.mp hinterpret
  have hserves : Listing.feed.Serves reply values := .named List.mem_cons_self
  have hvalues := hserves.isCanonical hcanonical
  have hfirst : Listing.feed.Decodes values[0] ⟨"1", "ana", "", 0⟩ :=
    (ofJson?_eq_some_iff (hvalues _ (List.getElem_mem _))).mp rfl
  have hsecond : Listing.feed.Decodes values[1] ⟨"2", "", "", 0⟩ :=
    (ofJson?_eq_some_iff (hvalues _ (List.getElem_mem _))).mp rfl
  have hanswered : IsAnswered session (.feed 20) body := isAnswered_sampleSession _ _
  obtain ⟨items, hasked, hwhole, -⟩ := listed_items_are_all_or_none rfl hanswered hquiet
  obtain ⟨hlength, hitems⟩ := hwhole reply values hleaves hserves (by
    simp only [values, List.forall_mem_cons, List.not_mem_nil, false_implies, implies_true,
      and_true]
    exact ⟨⟨_, hfirst⟩, ⟨_, hsecond⟩⟩)
  exact ⟨hquiet, hleaves, hserves, items, hasked, hlength, (hitems 0 _).mpr ⟨_, rfl, hfirst⟩,
    (hitems 1 _).mpr ⟨_, rfl, hsecond⟩⟩

/-- One time beyond 64 bits with a sign loses the good item before it too. -/
example : Listing.messages.read
    (.array [.array [.string "1"], .object [("timestamp", .ofNat (2 ^ 63))]]) = [] := by
  decide

end NodeLink.Exchange
