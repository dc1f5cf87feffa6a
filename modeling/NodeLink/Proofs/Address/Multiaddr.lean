import NodeLink.Address.Reader
import NodeLink.Proofs.Address.Literal
import NodeLink.Proofs.Text.Blank
/-!
# Addresses written as paths

A path names a host, a transport and a port, component by component, and then
perhaps the node behind them.  The texts that are read as a path are given by a
grammar, which also says what they denote.
-/

namespace NodeLink.Address

open NodeLink.Text

/-! ## Host names -/

def IsHostChar (c : Char) : Prop := c.isAlphanum = true ∨ c = '-'

/-- A label of a host name: 1 to 63 bytes, all of them ASCII letters, digits and hyphens. -/
structure IsHostLabel (label : List Char) : Prop where
  solid : label ≠ []
  short : (Utf8.encode label).length ≤ 63
  plain : ∀ c ∈ label, IsHostChar c
  lead : label.head? ≠ some '-'

/-- A host name: labels with dots between them, of no more than 253 bytes. -/
structure IsHostName (name : List Char) : Prop where
  labelled : ∃ labels, labels ≠ [] ∧ name = ['.'].intercalate labels ∧
    ∀ label ∈ labels, IsHostLabel label
  short : (Utf8.encode name).length ≤ 253

theorem toNat_lt_of_isHostChar {c : Char} (hc : IsHostChar c) : c.toNat < 0x80 := by
  rcases hc with hletter | rfl
  · delta Char.isAlphanum Char.isAlpha Char.isUpper Char.isLower Char.isDigit at hletter
    simp only [Bool.or_eq_true, Bool.and_eq_true, decide_eq_true_eq, ge_iff_le,
      UInt32.le_iff_toNat_le] at hletter
    show c.val.toNat < 0x80
    rcases hletter with (⟨-, hmost⟩ | ⟨-, hmost⟩) | ⟨-, hmost⟩
    · exact Nat.lt_of_le_of_lt hmost (by decide)
    · exact Nat.lt_of_le_of_lt hmost (by decide)
    · exact Nat.lt_of_le_of_lt hmost (by decide)
  · decide

/-- ASCII characters take a byte each. -/
theorem length_encode {text : List Char} (hplain : ∀ c ∈ text, c.toNat < 0x80) :
    (Utf8.encode text).length = text.length := by
  induction text with
  | nil => rfl
  | cons c text ih =>
      have hbyte : Utf8.encodeChar c = [Utf8.byte c.toNat] :=
        if_pos (hplain c List.mem_cons_self)
      have hrest := ih fun d hd => hplain d (List.mem_cons_of_mem c hd)
      simp only [Utf8.encode, List.flatMap_cons, hbyte, List.length_append, List.length_cons,
        List.length_nil] at hrest ⊢
      omega

theorem isLabel_iff {label : List Char} : isLabel label = true ↔ IsHostLabel label := by
  have hbytes (hplain : ∀ c ∈ label, IsHostChar c) : (Utf8.encode label).length = label.length :=
    length_encode fun c hc => toNat_lt_of_isHostChar (hplain c hc)
  simp only [isLabel, isLabelChar, Bool.and_eq_true, Bool.not_eq_true', List.isEmpty_eq_false_iff,
    decide_eq_true_eq, bne_iff_ne, List.all_eq_true, Bool.or_eq_true, beq_iff_eq]
  constructor
  · rintro ⟨⟨⟨hsolid, hshort⟩, hlead⟩, hplain⟩
    exact ⟨hsolid, by rwa [hbytes hplain], hplain, hlead⟩
  · rintro ⟨hsolid, hshort, hplain, hlead⟩
    exact ⟨⟨⟨hsolid, by rwa [hbytes hplain] at hshort⟩, hlead⟩, hplain⟩

theorem mem_of_mem_intercalate {separator : Char} {parts : List (List Char)} {c : Char}
    (hc : c ∈ [separator].intercalate parts) : c = separator ∨ ∃ part ∈ parts, c ∈ part := by
  induction parts with
  | nil => simp at hc
  | cons part parts ih =>
      cases parts with
      | nil => exact .inr ⟨part, List.mem_cons_self, by simpa using hc⟩
      | cons next parts =>
          rw [List.intercalate_cons_cons] at hc
          simp only [List.append_assoc, List.mem_append, List.mem_singleton] at hc
          rcases hc with hpart | hseparator | hrest
          · exact .inr ⟨part, List.mem_cons_self, hpart⟩
          · exact .inl hseparator
          · rcases ih hrest with hseparator | ⟨other, hother, hmem⟩
            · exact .inl hseparator
            · exact .inr ⟨other, List.mem_cons_of_mem part hother, hmem⟩

theorem namesHost_iff {name : List Char} : namesHost name = true ↔ IsHostName name := by
  have hbytes {labels : List (List Char)} (hname : name = ['.'].intercalate labels)
      (hlabels : ∀ label ∈ labels, IsHostLabel label) :
      (Utf8.encode name).length = name.length := by
    apply length_encode
    intro c hc
    rw [hname] at hc
    rcases mem_of_mem_intercalate hc with rfl | ⟨label, hlabel, hmem⟩
    · decide
    · exact toNat_lt_of_isHostChar ((hlabels label hlabel).plain c hmem)
  simp only [namesHost, splitAt, Bool.and_eq_true, Bool.not_eq_true', List.isEmpty_eq_false_iff,
    decide_eq_true_eq, List.all_eq_true, isLabel_iff]
  constructor
  · rintro ⟨⟨hsolid, hshort⟩, hlabels⟩
    have hname : name = ['.'].intercalate (name.splitOn '.') := (List.intercalate_splitOn '.').symm
    exact ⟨⟨_, List.splitOn_ne_nil '.' name, hname, hlabels⟩, by rwa [hbytes hname hlabels]⟩
  · rintro ⟨⟨labels, hsome, hname, hlabels⟩, hshort⟩
    have hdots : ∀ label ∈ labels, '.' ∉ label := by
      intro label hlabel hdot
      exact absurd ((hlabels label hlabel).plain '.' hdot) (by simp [IsHostChar])
    rw [hbytes hname hlabels] at hshort
    have hsplit : name.splitOn '.' = labels := by
      rw [hname, List.splitOn_intercalate '.' hdots hsome]
    refine ⟨⟨?_, hshort⟩, by rwa [hsplit]⟩
    rintro rfl
    rw [List.splitOn_nil] at hsplit
    exact (hlabels [] (by rw [← hsplit]; exact List.mem_cons_self)).solid rfl

/-! ## Paths -/

/-- The components of a path: the four that say where, the marks of a protocol above the
transport, the node, and an empty one if the path ends in a slash. -/
structure Multiaddr where
  protocol : List Char
  host : List Char
  transport : List Char
  port : List Char
  marks : List (List Char)
  peer : Option (List Char)
  isClosed : Bool

namespace Multiaddr

def tail (address : Multiaddr) : List (List Char) :=
  address.marks ++ (address.peer.map fun peer => ["p2p".toList, peer]).getD [] ++
    if address.isClosed then [[]] else []

def components (address : Multiaddr) : List (List Char) :=
  address.protocol :: address.host :: address.transport :: address.port :: address.tail

/-- A path has a slash before each of its components. -/
def text (address : Multiaddr) : List Char :=
  address.components.flatMap fun component => '/' :: component

end Multiaddr

/-- What a host component stands for at a port, by the protocol before it. -/
inductive Places : List Char → List Char → (UInt16 → Destination) → Prop
  | ip4 (ip : Ipv4) : Places "ip4".toList ip.render fun port => .socket (.v4 ip port)
  | ip6 {host : List Char} {ip : Ipv6} (hhost : Ipv6.Literal host ip.words) :
      Places "ip6".toList host fun port => .socket (.v6 ip 0 port)
  | dns {host : List Char} (hhost : IsHostName host) :
      Places "dns".toList host fun port => .host host port .any
  | dns4 {host : List Char} (hhost : IsHostName host) :
      Places "dns4".toList host fun port => .host host port .v4
  | dns6 {host : List Char} (hhost : IsHostName host) :
      Places "dns6".toList host fun port => .host host port .v6

def IsMark (component : List Char) : Prop :=
  component = "quic".toList ∨ component = "quic-v1".toList

/-- A path denotes a destination and perhaps a node.  No component has a slash in it. -/
structure Multiaddr.Denotes (address : Multiaddr) (parsed : Parsed) : Prop where
  separate : ∀ component ∈ address.components, '/' ∉ component
  destination : ∃ place port, Places address.protocol address.host place ∧
    Numeral.Spells address.port port ∧ 0 < port ∧ port < 65536 ∧
    parsed.destination = place (UInt16.ofNat port)
  transport : address.transport = "tcp".toList ∨ address.transport = "udp".toList
  marks : ∀ mark ∈ address.marks, IsMark mark
  peer : parsed.peer = address.peer.map String.ofList ∧ address.peer ≠ some []

/-! ## Reading the components -/

theorem bind_eq_ok_iff {ε α β : Type} {former : Except ε α} {latter : α → Except ε β} {result : β} :
    (former >>= latter) = .ok result ↔ ∃ value, former = .ok value ∧ latter value = .ok result := by
  cases former with
  | error error => simp [bind, Except.bind]
  | ok value => simp [bind, Except.bind]

theorem component_eq_ok_iff {name : String} {parts rest : List (List Char)} {part : List Char} :
    component name parts = .ok (part, rest) ↔ parts = part :: rest ∧ part ≠ [] := by
  cases parts with
  | nil => simp [component]
  | cons first others =>
      cases first with
      | nil =>
          simp only [component, List.cons.injEq, reduceCtorEq, false_iff, not_and, not_not]
          rintro ⟨rfl, rfl⟩
          rfl
      | cons c cs =>
          simp only [component, Except.ok.injEq, Prod.mk.injEq, List.cons.injEq]
          constructor
          · rintro ⟨rfl, rfl⟩
            exact ⟨⟨rfl, rfl⟩, by simp⟩
          · rintro ⟨hsame, -⟩
            exact hsame

theorem ofList_eq_iff {letters : List Char} {text : String} :
    String.ofList letters = text ↔ letters = text.toList := by
  constructor
  · rintro rfl
    rw [String.toList_ofList]
  · rintro rfl
    rw [String.ofList_toList]

theorem transportOf_eq_ok_iff {name : List Char} :
    transportOf name = .ok () ↔ name = "tcp".toList ∨ name = "udp".toList := by
  simp only [transportOf, ofList_eq_iff]
  split_ifs with hname
  · exact iff_of_true rfl hname
  · exact iff_of_false (fun herror => by cases herror) hname

theorem portOf_eq_ok_iff {text : List Char} {port : UInt16} :
    portOf text = .ok port ↔
      ∃ n, Numeral.Spells text n ∧ 0 < n ∧ n < 65536 ∧ port = UInt16.ofNat n := by
  have hword : Numeral.maxWord16 = 65535 := rfl
  have hread (n : Nat) : Numeral.within? Numeral.maxWord16 text = some n ↔
      Numeral.Spells text n ∧ n ≤ Numeral.maxWord16 := Numeral.within?_eq_some_iff
  unfold portOf
  split
  next hnone =>
    simp only [hnone, reduceCtorEq, false_iff, not_and, not_le] at hread ⊢
    rintro ⟨n, hspells, -, hsmall, -⟩
    have := hread n hspells
    omega
  next hzero =>
    simp only [reduceCtorEq, false_iff]
    rintro ⟨n, hspells, hpositive, hsmall, -⟩
    have hn := (hread n).mpr ⟨hspells, by omega⟩
    rw [hzero] at hn
    cases hn
    omega
  next n hsome =>
    obtain ⟨hspells, hsmall⟩ := (hread (n + 1)).mp hsome
    constructor
    · intro hport
      exact ⟨n + 1, hspells, by omega, by omega, (Except.ok.inj hport).symm⟩
    · rintro ⟨m, hm, -, hmost, rfl⟩
      have hother := (hread m).mpr ⟨hm, by omega⟩
      obtain rfl : n + 1 = m := Option.some.inj (hsome.symm.trans hother)
      rfl

theorem ipv4_ofText?_of_literal {host : List Char} {words : List UInt16}
    (hliteral : Ipv6.Literal host words) : Ipv4.ofText? host = none := by
  cases hread : Ipv4.ofText? host with
  | none => rfl
  | some ip =>
      have hcolon := hliteral.colon_mem
      rw [Ipv4.ofText?_eq_some_iff.mp hread] at hcolon
      exact absurd hcolon ip.colon_not_mem_render

theorem hostOf_literalV4_eq_ok_iff {host : List Char} {place : UInt16 → Destination} :
    hostOf .literalV4 host = .ok place ↔
      ∃ ip : Ipv4, host = ip.render ∧ place = fun port => .socket (.v4 ip port) := by
  simp only [hostOf, ← Ipv4.ofText?_eq_some_iff]
  split
  next ip _ hip => simp [hip, eq_comm]
  next hnone _ => simp [hnone]
  next hnone _ => simp [hnone]

theorem hostOf_literalV6_eq_ok_iff {host : List Char} {place : UInt16 → Destination} :
    hostOf .literalV6 host = .ok place ↔
      ∃ ip : Ipv6, Ipv6.Literal host ip.words ∧ place = fun port => .socket (.v6 ip 0 port) := by
  simp only [hostOf]
  split
  next hv4 =>
    constructor
    · intro herror
      cases herror
    · rintro ⟨ip, hliteral, -⟩
      rw [ipv4_ofText?_of_literal hliteral] at hv4
      cases hv4
  next ip _ hip => simp [← Ipv6.ofText?_eq_some_iff, hip, eq_comm]
  next _ hnone => simp [← Ipv6.ofText?_eq_some_iff, hnone]

theorem hostOf_named_eq_ok_iff {host : List Char} {family : Family}
    {place : UInt16 → Destination} :
    hostOf (.named family) host = .ok place ↔
      IsHostName host ∧ place = fun port => .host host port family := by
  simp only [hostOf, ← namesHost_iff]
  split_ifs with hname
  · simp [hname, eq_comm]
  · simp [hname]

theorem places_of_hostOf {protocol host : List Char} {kind : HostKind}
    {place : UInt16 → Destination} (hkind : hostKind? (String.ofList protocol) = some kind)
    (hhost : hostOf kind host = .ok place) : Places protocol host place := by
  unfold hostKind? at hkind
  simp only [ofList_eq_iff] at hkind
  split_ifs at hkind with hip4 hip6 hdns hdns4 hdns6
  · cases hkind
    obtain ⟨ip, rfl, rfl⟩ := hostOf_literalV4_eq_ok_iff.mp hhost
    exact hip4 ▸ .ip4 ip
  · cases hkind
    obtain ⟨ip, hliteral, rfl⟩ := hostOf_literalV6_eq_ok_iff.mp hhost
    exact hip6 ▸ .ip6 hliteral
  · cases hkind
    obtain ⟨hname, rfl⟩ := hostOf_named_eq_ok_iff.mp hhost
    exact hdns ▸ .dns hname
  · cases hkind
    obtain ⟨hname, rfl⟩ := hostOf_named_eq_ok_iff.mp hhost
    exact hdns4 ▸ .dns4 hname
  · cases hkind
    obtain ⟨hname, rfl⟩ := hostOf_named_eq_ok_iff.mp hhost
    exact hdns6 ▸ .dns6 hname

theorem places_iff {protocol host : List Char} {place : UInt16 → Destination} :
    (∃ kind, hostKindOf protocol = .ok kind ∧ hostOf kind host = .ok place) ↔
      Places protocol host place := by
  constructor
  · rintro ⟨kind, hkind, hhost⟩
    unfold hostKindOf at hkind
    split at hkind
    next found hfound =>
      obtain rfl := Except.ok.inj hkind
      exact places_of_hostOf hfound hhost
    next => cases hkind
  · intro hplaces
    cases hplaces with
    | ip4 ip => exact ⟨.literalV4, rfl, hostOf_literalV4_eq_ok_iff.mpr ⟨ip, rfl, rfl⟩⟩
    | ip6 hhost => exact ⟨.literalV6, rfl, hostOf_literalV6_eq_ok_iff.mpr ⟨_, hhost, rfl⟩⟩
    | dns hhost => exact ⟨.named .any, rfl, hostOf_named_eq_ok_iff.mpr ⟨hhost, rfl⟩⟩
    | dns4 hhost => exact ⟨.named .v4, rfl, hostOf_named_eq_ok_iff.mpr ⟨hhost, rfl⟩⟩
    | dns6 hhost => exact ⟨.named .v6, rfl, hostOf_named_eq_ok_iff.mpr ⟨hhost, rfl⟩⟩

theorem Places.solid {protocol host : List Char} {place : UInt16 → Destination}
    (hplaces : Places protocol host place) : protocol ≠ [] ∧ host ≠ [] := by
  have hname (hhost : IsHostName host) : host ≠ [] := by
    rintro rfl
    have hnames := namesHost_iff.mpr hhost
    cases hnames
  cases hplaces with
  | ip4 ip =>
      refine ⟨by decide, fun hnone => ?_⟩
      have hlength := congrArg List.length hnone
      simp [Ipv4.render] at hlength
  | ip6 hhost => exact ⟨by decide, List.ne_nil_of_mem hhost.colon_mem⟩
  | dns hhost => exact ⟨by decide, hname hhost⟩
  | dns4 hhost => exact ⟨by decide, hname hhost⟩
  | dns6 hhost => exact ⟨by decide, hname hhost⟩

theorem solid_of_spells {text : List Char} {n : Nat} (hspells : Numeral.Spells text n) :
    text ≠ [] := by
  cases hspells with
  | plain hdigits => exact hdigits.solid
  | signed hdigits => simp

/-! ## What stands behind the port -/

theorem tailOf_marks {marks : List (List Char)} (hmarks : ∀ mark ∈ marks, IsMark mark)
    (parts : List (List Char)) : tailOf none (marks ++ parts) = tailOf none parts := by
  induction marks with
  | nil => rfl
  | cons mark marks ih =>
      have hmark : mark = "quic".toList ∨ mark = "quic-v1".toList := hmarks mark List.mem_cons_self
      rw [List.cons_append, tailOf.eq_def]
      simp only [ofList_eq_iff, and_true]
      rw [if_pos hmark]
      exact ih fun other hother => hmarks other (List.mem_cons_of_mem mark hother)

/-- Once the node is named, nothing may follow but an empty component. -/
theorem tailOf_some_eq_ok {peer : String} {parts : List (List Char)} {found : Option String}
    (htail : tailOf (some peer) parts = .ok found) :
    found = some peer ∧ ∃ isClosed, parts = if isClosed = true then [[]] else [] := by
  cases parts with
  | nil => exact ⟨(Except.ok.inj htail).symm, false, rfl⟩
  | cons part rest =>
      unfold tailOf at htail
      simp only [reduceCtorEq, and_false, if_false] at htail
      split_ifs at htail with hcircuit hlast
      obtain ⟨rfl, rfl⟩ := hlast
      exact ⟨(Except.ok.inj htail).symm, true, rfl⟩

/-- Behind the port there are marks, then perhaps the node, then perhaps an empty component. -/
theorem tailOf_eq_ok_iff {parts : List (List Char)} {found : Option String} :
    tailOf none parts = .ok found ↔
      ∃ marks peer isClosed, (∀ mark ∈ marks, IsMark mark) ∧ peer ≠ some [] ∧
        found = peer.map String.ofList ∧
        parts = marks ++ (peer.map fun peer => ["p2p".toList, peer]).getD [] ++
          if isClosed = true then [[]] else [] := by
  constructor
  · intro htail
    induction parts generalizing found with
    | nil => exact ⟨[], none, false, by simp, by simp, (Except.ok.inj htail).symm, rfl⟩
    | cons part rest ih =>
        unfold tailOf at htail
        simp only [ofList_eq_iff, and_true] at htail
        split_ifs at htail with hmark hpeer hcircuit hlast
        · obtain ⟨marks, peer, isClosed, hmarks, hsolid, rfl, rfl⟩ := ih htail
          refine ⟨part :: marks, peer, isClosed, ?_, hsolid, rfl, by simp⟩
          intro mark hmem
          rcases List.mem_cons.mp hmem with rfl | hrest
          · exact hmark
          · exact hmarks mark hrest
        · split at htail
          next => cases htail
          next => cases htail
          next c cs rest =>
            obtain ⟨rfl, isClosed, rfl⟩ := tailOf_some_eq_ok htail
            exact ⟨[], some (c :: cs), isClosed, by simp, by simp, rfl, by rw [hpeer]; rfl⟩
        · obtain ⟨rfl, rfl⟩ := hlast
          exact ⟨[], none, true, by simp, by simp, (Except.ok.inj htail).symm, rfl⟩
  · rintro ⟨marks, peer, isClosed, hmarks, hsolid, rfl, rfl⟩
    rw [List.append_assoc, tailOf_marks hmarks]
    cases peer with
    | none => cases isClosed <;> rfl
    | some peer =>
        cases peer with
        | nil => exact absurd rfl hsolid
        | cons c cs => cases isClosed <;> rfl

theorem ofComponents_eq_ok_iff {parts : List (List Char)} {parsed : Parsed} :
    ofComponents parts = .ok parsed ↔
      ∃ protocol host transport port rest place n,
        parts = protocol :: host :: transport :: port :: rest ∧ Places protocol host place ∧
        (transport = "tcp".toList ∨ transport = "udp".toList) ∧
        Numeral.Spells port n ∧ 0 < n ∧ n < 65536 ∧
        parsed.destination = place (UInt16.ofNat n) ∧ tailOf none rest = .ok parsed.peer := by
  constructor
  · intro hread
    simp only [ofComponents, bind_eq_ok_iff] at hread
    obtain ⟨⟨protocol, _⟩, hprotocol, ⟨host, _⟩, hhost, kind, hkind, place, hplace,
      ⟨transport, _⟩, htransport, _, hknown, ⟨port, rest⟩, hport, number, hnumber, peer, hpeer,
      hparsed⟩ := hread
    obtain ⟨rfl, -⟩ := component_eq_ok_iff.mp hprotocol
    obtain ⟨rfl, -⟩ := component_eq_ok_iff.mp hhost
    obtain ⟨rfl, -⟩ := component_eq_ok_iff.mp htransport
    obtain ⟨rfl, -⟩ := component_eq_ok_iff.mp hport
    obtain ⟨n, hspells, hpositive, hsmall, rfl⟩ := portOf_eq_ok_iff.mp hnumber
    obtain rfl := Except.ok.inj hparsed
    exact ⟨protocol, host, transport, port, rest, place, n, rfl,
      places_iff.mp ⟨kind, hkind, hplace⟩, transportOf_eq_ok_iff.mp hknown, hspells, hpositive,
      hsmall, rfl, hpeer⟩
  · rintro ⟨protocol, host, transport, port, rest, place, n, rfl, hplaces, htransport, hspells,
      hpositive, hsmall, hdestination, hpeer⟩
    obtain ⟨hprotocol, hhost⟩ := hplaces.solid
    obtain ⟨kind, hkind, hplace⟩ := places_iff.mpr hplaces
    have hnamed : transport ≠ [] := by
      rcases htransport with rfl | rfl <;> decide
    have hnumber := portOf_eq_ok_iff.mpr ⟨n, hspells, hpositive, hsmall, rfl⟩
    simp only [ofComponents, bind_eq_ok_iff]
    refine ⟨_, component_eq_ok_iff.mpr ⟨rfl, hprotocol⟩, _, component_eq_ok_iff.mpr ⟨rfl, hhost⟩,
      kind, hkind, place, hplace, _, component_eq_ok_iff.mpr ⟨rfl, hnamed⟩, (),
      transportOf_eq_ok_iff.mpr htransport, _,
      component_eq_ok_iff.mpr ⟨rfl, solid_of_spells hspells⟩, _, hnumber, _, hpeer, ?_⟩
    rw [← hdestination]
    rfl

/-! ## The grammar -/

theorem not_mem_of_mem_splitOn {separator : Char} {text part : List Char}
    (hpart : part ∈ text.splitOn separator) : separator ∉ part := by
  induction text generalizing part with
  | nil =>
      rw [List.splitOn_nil, List.mem_singleton] at hpart
      rw [hpart]
      exact List.not_mem_nil
  | cons c text ih =>
      rw [List.splitOn_cons_eq_if_modifyHead] at hpart
      split_ifs at hpart with hc
      · rcases List.mem_cons.mp hpart with rfl | hrest
        · exact List.not_mem_nil
        · exact ih hrest
      · cases hsplit : text.splitOn separator with
        | nil => exact absurd hsplit (List.splitOn_ne_nil separator text)
        | cons first others =>
            rw [hsplit] at hpart ih
            rcases List.mem_cons.mp hpart with rfl | hrest
            · have hfirst := ih List.mem_cons_self
              simp only [beq_iff_eq] at hc
              simp [hfirst, Ne.symm hc]
            · exact ih (List.mem_cons_of_mem first hrest)

theorem cons_intercalate {parts : List (List Char)} (hsome : parts ≠ []) (separator : Char) :
    separator :: [separator].intercalate parts = parts.flatMap fun part => separator :: part := by
  induction parts with
  | nil => exact absurd rfl hsome
  | cons part parts ih =>
      cases parts with
      | nil => simp
      | cons next parts =>
          rw [List.flatMap_cons, ← ih (by simp), List.intercalate_cons_cons]
          simp

theorem splitAt_eq_iff {separator : Char} {text : List Char} {parts : List (List Char)}
    (hsome : parts ≠ []) :
    splitAt separator text = parts ↔
      separator :: text = (parts.flatMap fun part => separator :: part) ∧
        ∀ part ∈ parts, separator ∉ part := by
  rw [← cons_intercalate hsome, List.cons.injEq]
  constructor
  · rintro rfl
    exact ⟨⟨rfl, (List.intercalate_splitOn separator).symm⟩, fun _ => not_mem_of_mem_splitOn⟩
  · rintro ⟨⟨-, rfl⟩, hparts⟩
    exact List.splitOn_intercalate separator hparts hsome

theorem read_eq_ok_iff {text : String} {parsed : Parsed} :
    read text = .ok parsed ↔ ofTrimmed (trimmed text.toList) = .ok parsed := by
  simp only [read]
  cases ofTrimmed (trimmed text.toList) <;> simp [Except.mapError]

theorem read_path_eq_ok_iff {text : String} {rest : List Char} {parsed : Parsed}
    (hpath : trimmed text.toList = '/' :: rest) :
    read text = .ok parsed ↔ ofComponents (splitAt '/' rest) = .ok parsed := by
  rw [read_eq_ok_iff, hpath, ofTrimmed]

theorem ofComponents_eq_ok_iff_denotes {rest : List Char} {parsed : Parsed} :
    ofComponents (splitAt '/' rest) = .ok parsed ↔
      ∃ address : Multiaddr, '/' :: rest = address.text ∧ address.Denotes parsed := by
  rw [ofComponents_eq_ok_iff]
  constructor
  · rintro ⟨protocol, host, transport, port, more, place, n, hsplit, hplaces, htransport, hspells,
      hpositive, hsmall, hdestination, hpeer⟩
    obtain ⟨marks, peer, isClosed, hmarks, hsolid, hfound, rfl⟩ := tailOf_eq_ok_iff.mp hpeer
    obtain ⟨htext, hseparate⟩ := (splitAt_eq_iff (by simp)).mp hsplit
    exact ⟨⟨protocol, host, transport, port, marks, peer, isClosed⟩, htext,
      ⟨hseparate, ⟨place, n, hplaces, hspells, hpositive, hsmall, hdestination⟩, htransport,
        hmarks, hfound, hsolid⟩⟩
  · rintro ⟨address, htext, hdenotes⟩
    obtain ⟨place, n, hplaces, hspells, hpositive, hsmall, hdestination⟩ := hdenotes.destination
    have hsome : address.components ≠ [] := by simp [Multiaddr.components]
    have hsplit := (splitAt_eq_iff hsome).mpr ⟨htext, hdenotes.separate⟩
    have hpeer := tailOf_eq_ok_iff.mpr ⟨address.marks, address.peer, address.isClosed,
      hdenotes.marks, hdenotes.peer.2, hdenotes.peer.1, rfl⟩
    exact ⟨_, _, _, _, _, place, n, hsplit, hplaces, hdenotes.transport, hspells, hpositive,
      hsmall, hdestination, hpeer⟩

theorem exists_of_marks {marks rest before after : List (List Char)} {part : List Char}
    (hmarks : ∀ mark ∈ marks, IsMark mark) (hpart : ¬ IsMark part)
    (hsplit : marks ++ rest = before ++ part :: after) :
    ∃ more, before = marks ++ more ∧ rest = more ++ part :: after := by
  induction marks generalizing before with
  | nil => exact ⟨before, rfl, hsplit⟩
  | cons mark marks ih =>
      cases before with
      | nil =>
          obtain rfl : mark = part := (List.cons.inj hsplit).1
          exact absurd (hmarks mark List.mem_cons_self) hpart
      | cons first before =>
          simp only [List.cons_append, List.cons.injEq] at hsplit
          obtain ⟨rfl, hsplit⟩ := hsplit
          obtain ⟨more, rfl, hrest⟩ :=
            ih (fun other hother => hmarks other (List.mem_cons_of_mem mark hother)) hsplit
          exact ⟨more, rfl, hrest⟩

theorem closing_ne {isClosed : Bool} {before after : List (List Char)} {part : List Char}
    (hpart : part ≠ []) : (if isClosed = true then [[]] else []) ≠ before ++ part :: after := by
  intro hsplit
  have hmem : part ∈ before ++ part :: after := by simp
  rw [← hsplit] at hmem
  cases isClosed
  · cases hmem
  · exact hpart (List.mem_singleton.mp hmem)

theorem circuit_of_tail {address : Multiaddr} {before after : List (List Char)}
    (hmarks : ∀ mark ∈ address.marks, IsMark mark)
    (htail : address.tail = before ++ "p2p-circuit".toList :: after) :
    before.getLast? = some "p2p".toList ∧ address.peer = some "p2p-circuit".toList := by
  have hcircuit : ¬ IsMark "p2p-circuit".toList := by
    rintro (hquic | hquic) <;> cases hquic
  rw [Multiaddr.tail, List.append_assoc] at htail
  obtain ⟨more, rfl, hmore⟩ := exists_of_marks hmarks hcircuit htail
  cases hpeer : address.peer with
  | none =>
      rw [hpeer] at hmore
      exact absurd hmore (closing_ne (by decide))
  | some peer =>
      simp only [hpeer, Option.map_some, Option.getD_some, List.cons_append,
        List.nil_append] at hmore
      match more with
      | [] => cases (List.cons.inj hmore).1
      | [first] =>
          simp only [List.cons_append, List.nil_append, List.cons.injEq] at hmore
          obtain ⟨rfl, rfl, -⟩ := hmore
          exact ⟨by rw [List.getLast?_append]; rfl, rfl⟩
      | first :: second :: more =>
          simp only [List.cons_append, List.cons.injEq] at hmore
          exact absurd hmore.2.2 (closing_ne (by decide))

/-- A circuit through a relay is named in a path only as the host or as the node. -/
theorem Multiaddr.Denotes.circuit {address : Multiaddr} {parsed : Parsed}
    (hdenotes : address.Denotes parsed) {before after : List (List Char)}
    (hcomponents : address.components = before ++ "p2p-circuit".toList :: after) :
    before.length = 1 ∨
      before.getLast? = some "p2p".toList ∧ parsed.peer = some "p2p-circuit" := by
  obtain ⟨place, n, hplaces, hspells, -⟩ := hdenotes.destination
  have htransport := hdenotes.transport
  simp only [Multiaddr.components] at hcomponents
  match before with
  | [] =>
      rw [(List.cons.inj hcomponents).1] at hplaces
      cases hplaces
  | [_] => exact .inl rfl
  | [_, _] =>
      simp only [List.cons_append, List.nil_append, List.cons.injEq] at hcomponents
      rw [hcomponents.2.2.1] at htransport
      rcases htransport with htcp | hudp
      · cases htcp
      · cases hudp
  | [_, _, _] =>
      simp only [List.cons_append, List.nil_append, List.cons.injEq] at hcomponents
      rw [hcomponents.2.2.2.1] at hspells
      cases hspells with
      | plain hdigits => exact absurd (hdigits.decimal 'p' (by decide)) (by decide)
  | first :: second :: third :: fourth :: before =>
      simp only [List.cons_append, List.cons.injEq] at hcomponents
      obtain ⟨-, -, -, -, htail⟩ := hcomponents
      obtain ⟨hlast, hpeer⟩ := circuit_of_tail hdenotes.marks htail
      refine .inr ⟨?_, ?_⟩
      · simp only [List.getLast?_cons, hlast, Option.getD_some]
      · rw [hdenotes.peer.1, hpeer]
        rfl

/-- The texts of paths are read as the grammar says and no others are, and a circuit through a
relay is refused unless it is named where a host or a node is. -/
theorem paths_follow_grammar {text : String} (hpath : (trimmed text.toList).head? = some '/') :
    (∀ parsed, read text = .ok parsed ↔
      ∃ address : Multiaddr, trimmed text.toList = address.text ∧ address.Denotes parsed) ∧
      ∀ before after, splitAt '/' (trimmed text.toList) = before ++ "p2p-circuit".toList :: after →
        (∃ error, read text = .error error) ∨ before.length = 2 ∨
          before.getLast? = some "p2p".toList ∧
            ∃ parsed, read text = .ok parsed ∧ parsed.peer = some "p2p-circuit" := by
  obtain ⟨rest, htext⟩ := List.head?_eq_some_iff.mp hpath
  constructor
  · intro parsed
    rw [read_path_eq_ok_iff htext, ofComponents_eq_ok_iff_denotes, htext]
  · intro before after hsplit
    cases hread : read text with
    | error error => exact .inl ⟨error, rfl⟩
    | ok parsed =>
        right
        obtain ⟨address, haddress, hdenotes⟩ :=
          ofComponents_eq_ok_iff_denotes.mp ((read_path_eq_ok_iff htext).mp hread)
        have hcomponents : splitAt '/' rest = address.components :=
          (splitAt_eq_iff (by simp [Multiaddr.components])).mpr ⟨haddress, hdenotes.separate⟩
        have hwhole : splitAt '/' (trimmed text.toList) = [] :: address.components := by
          rw [htext, ← hcomponents]
          exact List.splitOn_append_cons_self [] rest
        rw [hwhole] at hsplit
        cases before with
        | nil => cases (List.cons.inj hsplit).1
        | cons first before =>
            rcases hdenotes.circuit (List.cons.inj hsplit).2 with hhost | ⟨hlast, hpeer⟩
            · exact .inl (congrArg Nat.succ hhost)
            · refine .inr ⟨?_, parsed, rfl, hpeer⟩
              rw [List.getLast?_cons, hlast, Option.getD_some]

theorem spaced_path_is_read :
    let text := " /ip6/::FFFF:192.0.2.1/udp/+04001/quic/quic-v1/p2p/p2p-circuit/\u2003"
    let socket := Socket.v6 ⟨[0, 0, 0, 0, 0, 0xFFFF, 0xC000, 0x0201], rfl⟩ 0 4001
    (trimmed text.toList).head? = some '/' ∧
      ∃ address : Multiaddr, trimmed text.toList = address.text ∧
        address.Denotes { destination := .socket socket, peer := some "p2p-circuit" } := by
  intro text socket
  have hpath : (trimmed text.toList).head? = some '/' := by decide
  refine ⟨hpath, ((paths_follow_grammar hpath).1 _).mp ?_⟩
  have hread : (read text).toOption =
      some { destination := .socket socket, peer := some "p2p-circuit" } := by decide +kernel
  cases hresult : read text with
  | error error => simp [hresult, Except.toOption] at hread
  | ok parsed =>
      rw [hresult] at hread
      exact congrArg Except.ok (Option.some.inj hread)

/-- A host may have the name of the component that asks for a circuit. -/
theorem circuit_may_be_a_host :
    let text := "/dns/p2p-circuit/tcp/80"
    splitAt '/' (trimmed text.toList) =
        [[], "dns".toList, "p2p-circuit".toList, "tcp".toList, "80".toList] ∧
      read text = .ok { destination := .host "p2p-circuit".toList 80 .any, peer := none } := by
  exact ⟨by decide, rfl⟩

end NodeLink.Address
