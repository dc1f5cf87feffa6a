import NodeLink.Proofs.Address.Plain
/-!
# Paths and plain forms

The path and the plain form of one place lead to the same destination, whatever the
path says of the transport, of the protocols above it and of the node.
-/

namespace NodeLink.Address

open NodeLink.Text

/-- How a node is named in a path: not by blanks alone, and without a slash. -/
structure IsPeer (peer : List Char) : Prop where
  solid : ∃ c ∈ peer, isBlank c = false
  separate : '/' ∉ peer

/-- What a path says besides the host and its port. -/
structure Trail where
  transport : List Char
  marks : List (List Char)
  peer : Option (List Char)

namespace Trail

structure IsSound (trail : Trail) : Prop where
  transport : trail.transport = "tcp".toList ∨ trail.transport = "udp".toList
  marks : ∀ mark ∈ trail.marks, IsMark mark
  peer : ∀ peer, trail.peer = some peer → IsPeer peer

def path (trail : Trail) (protocol host : List Char) (port : UInt16) : Multiaddr where
  protocol := protocol
  host := host
  transport := trail.transport
  port := Numeral.ofNat port.toNat
  marks := trail.marks
  peer := trail.peer
  isClosed := false

end Trail

/-- A text is read as an address of a destination. -/
def LeadsTo (text : List Char) (destination : Destination) : Prop :=
  ∃ parsed, read (String.ofList text) = .ok parsed ∧ parsed.destination = destination

/-! ## Paths with blanks at their end -/

theorem trimmed_append {front back : List Char} (hsome : front ≠ [])
    (hfront : ∀ c ∈ front, isBlank c = false) (hback : ∃ c ∈ back, isBlank c = false) :
    trimmed (front ++ back) = front ++ back.rdropWhile isBlank := by
  have hstart : (front ++ back).dropWhile isBlank = front ++ back := by
    cases front with
    | nil => exact absurd rfl hsome
    | cons c front => exact List.dropWhile_cons_of_neg (by simp [hfront c List.mem_cons_self])
  have hend : ¬ (back.reverse.dropWhile isBlank).isEmpty = true := by
    rw [List.isEmpty_iff, List.dropWhile_eq_nil_iff]
    obtain ⟨c, hc, hsolid⟩ := hback
    intro hall
    have hblank := hall c (List.mem_reverse.mpr hc)
    rw [hsolid] at hblank
    cases hblank
  rw [trimmed_eq, hstart, List.rdropWhile, List.reverse_append, List.dropWhile_append, if_neg hend,
    List.reverse_append, List.reverse_reverse, List.rdropWhile]

theorem IsPeer.rdropWhile {peer : List Char} (hpeer : IsPeer peer) :
    peer.rdropWhile isBlank ≠ [] ∧ '/' ∉ peer.rdropWhile isBlank := by
  constructor
  · intro hnone
    obtain ⟨c, hc, hsolid⟩ := hpeer.solid
    have hblank := List.rdropWhile_eq_nil_iff.mp hnone c hc
    rw [hsolid] at hblank
    cases hblank
  · intro hmem
    have hfront := List.rdropWhile_prefix isBlank peer
    exact hpeer.separate (hfront.subset hmem)

theorem IsMark.isPlain {mark : List Char} (hmark : IsMark mark) : IsPlain mark := by
  rcases hmark with rfl | rfl
  · decide
  · decide

theorem Places.isPlain {protocol host : List Char} {place : UInt16 → Destination}
    (hplaces : Places protocol host place) : IsPlain protocol ∧ IsPlain host := by
  cases hplaces with
  | ip4 ip => exact ⟨by decide, ip.isPlain_render⟩
  | ip6 hhost => exact ⟨by decide, hhost.isPlain⟩
  | dns hhost => exact ⟨by decide, hhost.isPlain⟩
  | dns4 hhost => exact ⟨by decide, hhost.isPlain⟩
  | dns6 hhost => exact ⟨by decide, hhost.isPlain⟩

namespace Trail

variable {trail : Trail} {protocol host : List Char} {place : UInt16 → Destination}
  {port : UInt16}

/-- The components up to the node. -/
def stem (trail : Trail) (protocol host : List Char) (port : UInt16) : List (List Char) :=
  [protocol, host, trail.transport, Numeral.ofNat port.toNat] ++ trail.marks

theorem components_path (trail : Trail) (protocol host : List Char) (port : UInt16) :
    (trail.path protocol host port).components = trail.stem protocol host port ++
      (trail.peer.map fun peer => ["p2p".toList, peer]).getD [] := by
  simp [Multiaddr.components, Multiaddr.tail, path, stem]

theorem isPlain_stem (htrail : trail.IsSound) (hplaces : Places protocol host place)
    (port : UInt16) : ∀ component ∈ trail.stem protocol host port, IsPlain component := by
  have htransport : IsPlain trail.transport := by
    rcases htrail.transport with htcp | hudp
    · rw [htcp]
      decide
    · rw [hudp]
      decide
  intro component hmem
  simp only [stem, List.cons_append, List.nil_append, List.mem_cons] at hmem
  rcases hmem with rfl | rfl | rfl | rfl | hmark
  · exact hplaces.isPlain.1
  · exact hplaces.isPlain.2
  · exact htransport
  · exact isPlain_ofNat port.toNat
  · exact (htrail.marks component hmark).isPlain

theorem isBlank_flatMap {parts : List (List Char)} (hparts : ∀ part ∈ parts, IsPlain part) :
    ∀ c ∈ parts.flatMap (fun part => '/' :: part), isBlank c = false := by
  intro c hc
  obtain ⟨part, hpart, hmem⟩ := List.mem_flatMap.mp hc
  rcases List.mem_cons.mp hmem with rfl | hinner
  · decide
  · exact (hparts part hpart).isBlank c hinner

/-- What reading leaves of the blanks behind the name of a node. -/
def tidy (trail : Trail) : Trail :=
  { trail with peer := trail.peer.map (List.rdropWhile isBlank) }

theorem trimmed_path (htrail : trail.IsSound) (hplaces : Places protocol host place)
    (port : UInt16) :
    trimmed (trail.path protocol host port).text = (trail.tidy.path protocol host port).text := by
  have hstem := isBlank_flatMap (isPlain_stem htrail hplaces port)
  simp only [Multiaddr.text, components_path, List.flatMap_append, tidy]
  show trimmed (_ ++ _) = List.flatMap _ (trail.stem protocol host port) ++ _
  cases hpeer : trail.peer with
  | none =>
      simp only [Option.map_none, Option.getD_none, List.flatMap_nil, List.append_nil]
      exact trimmed_of_not_blank hstem
  | some peer =>
      have hparts : ∀ part ∈ trail.stem protocol host port ++ ["p2p".toList, []],
          IsPlain part := by
        intro part hpart
        rcases List.mem_append.mp hpart with hmem | hmem
        · exact isPlain_stem htrail hplaces port part hmem
        · rcases List.mem_pair.mp hmem with rfl | rfl
          · decide
          · decide
      have htrimmed := trimmed_append (by simp) (isBlank_flatMap hparts)
        (htrail.peer peer hpeer).solid
      simpa using htrimmed

theorem denotes_tidy (htrail : trail.IsSound) (hplaces : Places protocol host place)
    (hport : port ≠ 0) :
    (trail.tidy.path protocol host port).Denotes
      { destination := place port, peer := trail.tidy.peer.map String.ofList } where
  separate := by
    intro component hmem
    rw [components_path] at hmem
    rcases List.mem_append.mp hmem with hstem | hpeer
    · exact (isPlain_stem htrail hplaces port component hstem).slash_not_mem
    · cases hname : trail.peer with
      | none => simp [tidy, hname] at hpeer
      | some peer =>
          simp only [tidy, hname, Option.map_some, Option.getD_some, List.mem_cons,
            List.not_mem_nil, or_false] at hpeer
          rcases hpeer with hp2p | hpeer
          · rw [hp2p]
            decide
          · rw [hpeer]
            exact (htrail.peer peer hname).rdropWhile.2
  destination := ⟨place, port.toNat, hplaces, .plain (Numeral.denotes_toDigits port.toNat),
    toNat_pos hport, port.toNat_lt, by rw [UInt16.ofNat_toNat]⟩
  transport := htrail.transport
  marks := htrail.marks
  peer := by
    refine ⟨rfl, ?_⟩
    cases hname : trail.peer with
    | none => simp [path, tidy, hname]
    | some peer =>
        simp only [path, tidy, hname, Option.map_some, ne_eq, Option.some.injEq]
        exact (htrail.peer peer hname).rdropWhile.1

theorem leadsTo_path (htrail : trail.IsSound) (hplaces : Places protocol host place)
    (hport : port ≠ 0) : LeadsTo (trail.path protocol host port).text (place port) := by
  have htext : trimmed (String.ofList (trail.path protocol host port).text).toList =
      (trail.tidy.path protocol host port).text := by
    rw [String.toList_ofList, trimmed_path htrail hplaces]
  obtain ⟨rest, hpath⟩ : ∃ rest, (trail.tidy.path protocol host port).text = '/' :: rest :=
    ⟨_, rfl⟩
  have hread := ofComponents_eq_ok_iff_denotes.mpr
    ⟨_, hpath.symm, denotes_tidy htrail hplaces hport⟩
  exact ⟨_, (read_path_eq_ok_iff (htext.trans hpath)).mpr hread, rfl⟩

end Trail

/-! ## Two forms of one place -/

theorem leadsTo_socket (socket : Socket) : LeadsTo socket.render (.socket socket) :=
  ⟨_, read_socket socket, rfl⟩

/-- A path leads to the address, or the host, and the port that are written in it, and so does the
plain form with the same address or host and port. -/
theorem paths_agree_with_plain_forms {trail : Trail} (htrail : trail.IsSound) {port : UInt16}
    (hport : port ≠ 0) :
    (∀ ip : Ipv4,
      LeadsTo (trail.path "ip4".toList ip.render port).text (.socket (.v4 ip port)) ∧
        LeadsTo (ip.render ++ Socket.portText port) (.socket (.v4 ip port))) ∧
      (∀ ip : Ipv6,
        LeadsTo (trail.path "ip6".toList ip.render port).text (.socket (.v6 ip 0 port)) ∧
          LeadsTo ('[' :: ip.render ++ ']' :: Socket.portText port) (.socket (.v6 ip 0 port))) ∧
      ∀ name, IsHostName name → (∀ ip : Ipv4, name ≠ ip.render) →
        LeadsTo (trail.path "dns".toList name port).text (.host name port .any) ∧
          LeadsTo (name ++ Socket.portText port) (.host name port .any) := by
  refine ⟨fun ip => ?_, fun ip => ?_, fun name hname hother => ?_⟩
  · exact ⟨Trail.leadsTo_path htrail (.ip4 ip) hport, leadsTo_socket (.v4 ip port)⟩
  · have hplaces := Places.ip6 (Ipv6.literal_render ip)
    have hrender : Socket.render (.v6 ip 0 port) =
        '[' :: ip.render ++ ']' :: Socket.portText port := by
      simp [Socket.render, Socket.zoneText]
    exact ⟨Trail.leadsTo_path htrail hplaces hport, hrender ▸ leadsTo_socket (.v6 ip 0 port)⟩
  · exact ⟨Trail.leadsTo_path htrail (.dns hname) hport, _, read_host hname hother hport, rfl⟩

/-- The blank behind the name of the node is no part of it. -/
theorem path_to_named_node_agrees :
    let trail : Trail := ⟨"udp".toList, ["quic-v1".toList], some "node ".toList⟩
    (trail.IsSound ∧ (4001 : UInt16) ≠ 0) ∧
      LeadsTo "/ip4/192.0.2.1/udp/4001/quic-v1/p2p/node ".toList
        (.socket (.v4 ⟨192, 0, 2, 1⟩ 4001)) ∧
      LeadsTo "192.0.2.1:4001".toList (.socket (.v4 ⟨192, 0, 2, 1⟩ 4001)) := by
  intro trail
  have htrail : trail.IsSound := by
    refine ⟨.inr rfl, ?_, ?_⟩
    · intro mark hmark
      exact .inr (List.mem_singleton.mp hmark)
    · intro peer hpeer
      obtain rfl := Option.some.inj hpeer
      exact ⟨⟨'n', by decide, by decide⟩, by decide⟩
  have hport : (4001 : UInt16) ≠ 0 := by decide
  exact ⟨⟨htrail, hport⟩, (paths_agree_with_plain_forms htrail hport).1 ⟨192, 0, 2, 1⟩⟩

end NodeLink.Address
