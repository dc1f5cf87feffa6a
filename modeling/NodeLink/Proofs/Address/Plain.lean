import NodeLink.Proofs.Address.Multiaddr
import NodeLink.Proofs.Address.Socket
/-!
# Plain forms of addresses

A socket address and a named host with a port have a plain form, which is also the
text that shows them.  It is read back as what it shows, but for a host whose name is
an IPv4 address, and it agrees with the path that leads to the same place.
-/

namespace NodeLink.Address

open NodeLink.Text

/-! ## The characters of plain forms -/

/-- Only visible ASCII characters, and no slash among them. -/
def IsPlain (text : List Char) : Prop :=
  ∀ c ∈ text, 0x20 < c.toNat ∧ c.toNat < 0x7F ∧ c ≠ '/'

instance (text : List Char) : Decidable (IsPlain text) := List.decidableBAll _ text

theorem IsPlain.append {front back : List Char} (hfront : IsPlain front) (hback : IsPlain back) :
    IsPlain (front ++ back) := by
  intro c hc
  rcases List.mem_append.mp hc with hmem | hmem
  · exact hfront c hmem
  · exact hback c hmem

theorem IsPlain.cons {c : Char} {text : List Char}
    (hc : 0x20 < c.toNat ∧ c.toNat < 0x7F ∧ c ≠ '/') (htext : IsPlain text) :
    IsPlain (c :: text) := by
  intro d hd
  rcases List.mem_cons.mp hd with rfl | hmem
  · exact hc
  · exact htext d hmem

theorem IsPlain.isBlank {text : List Char} (hplain : IsPlain text) :
    ∀ c ∈ text, isBlank c = false := by
  intro c hc
  obtain ⟨hleast, hmost, -⟩ := hplain c hc
  simp only [Text.isBlank, Bool.or_eq_false_iff, Bool.and_eq_false_iff, decide_eq_false_iff_not,
    beq_eq_false_iff_ne]
  omega

theorem IsPlain.slash_not_mem {text : List Char} (hplain : IsPlain text) : '/' ∉ text :=
  fun hmem => (hplain '/' hmem).2.2 rfl

theorem ne_slash {c : Char} (hcode : c.toNat ≠ 0x2F) : c ≠ '/' := by
  rintro rfl
  exact hcode rfl

theorem isPlain_ofNat (n : Nat) : IsPlain (Numeral.ofNat n) := by
  intro c hc
  obtain ⟨hleast, hmost⟩ := Numeral.isDigit_iff.mp (Numeral.isDigit_of_mem_toDigits hc)
  exact ⟨by omega, by omega, ne_slash (by omega)⟩

theorem isPlain_portText (port : UInt16) : IsPlain (Socket.portText port) :=
  .cons (by decide) (isPlain_ofNat port.toNat)

theorem isPlain_zoneText (zone : UInt32) : IsPlain (Socket.zoneText zone) := by
  unfold Socket.zoneText
  split_ifs
  · intro c hc
    cases hc
  · exact .cons (by decide) (isPlain_ofNat zone.toNat)

theorem Ipv4.isPlain_render (ip : Ipv4) : IsPlain ip.render := by
  have hoctet (octet : UInt8) : IsPlain (octetText octet) := isPlain_ofNat octet.toNat
  exact .append (hoctet ip.a) (.cons (by decide) (.append (hoctet ip.b) (.cons (by decide)
    (.append (hoctet ip.c) (.cons (by decide) (hoctet ip.d))))))

namespace Ipv6

theorem IsWord.isPlain {digits : List Char} {word : UInt16} (hword : IsWord digits word) :
    IsPlain digits := by
  intro c hc
  have hdigit := hword.solid.2 c hc
  simp only [Hex.isDigit, Hex.value?, Bool.and_eq_true, decide_eq_true_eq] at hdigit
  split_ifs at hdigit with hdecimal hlower hupper
  · exact ⟨by omega, by omega, ne_slash (by omega)⟩
  · exact ⟨by omega, by omega, ne_slash (by omega)⟩
  · exact ⟨by omega, by omega, ne_slash (by omega)⟩
  · cases hdigit

theorem Words.isPlain {embeds : Bool} {text : List Char} {words : List UInt16}
    (hwords : Words embeds text words) : IsPlain text := by
  induction hwords with
  | one hword => exact hword.isPlain
  | embedded ip => exact ip.isPlain_render
  | cons hword _ ih => exact hword.isPlain.append (.cons (by decide) ih)

theorem Side.isPlain {embeds : Bool} {text : List Char} {words : List UInt16}
    (hside : Side embeds text words) : IsPlain text := by
  cases hside with
  | none =>
      intro c hc
      cases hc
  | some hwords => exact hwords.isPlain

theorem Literal.isPlain {text : List Char} {words : List UInt16}
    (hliteral : Literal text words) : IsPlain text := by
  cases hliteral with
  | full hwords _ => exact hwords.isPlain
  | shortened hhead htail _ =>
      exact hhead.isPlain.append (.cons (by decide) (.cons (by decide) htail.isPlain))

end Ipv6

theorem Socket.isPlain_render (socket : Socket) : IsPlain socket.render := by
  cases socket with
  | v4 ip port => exact ip.isPlain_render.append (isPlain_portText port)
  | v6 ip zone port =>
      have hip : IsPlain ip.render := (Ipv6.literal_render ip).isPlain
      exact .cons (by decide) ((hip.append (isPlain_zoneText zone)).append
        (.cons (by decide) (isPlain_portText port)))

/-- A host name has letters, digits, hyphens and dots in it. -/
theorem IsHostName.mem {name : List Char} (hname : IsHostName name) :
    ∀ c ∈ name, IsHostChar c ∨ c = '.' := by
  obtain ⟨⟨labels, -, rfl, hlabels⟩, -⟩ := hname
  intro c hc
  rcases mem_of_mem_intercalate hc with rfl | ⟨label, hlabel, hmem⟩
  · exact .inr rfl
  · exact .inl ((hlabels label hlabel).plain c hmem)

theorem IsHostName.not_mem {name : List Char} (hname : IsHostName name) {c : Char}
    (hletter : c.isAlphanum = false) (hhyphen : c ≠ '-') (hdot : c ≠ '.') : c ∉ name := by
  intro hmem
  rcases hname.mem c hmem with (hother | hother) | hother
  · rw [hletter] at hother
    cases hother
  · exact hhyphen hother
  · exact hdot hother

theorem IsHostName.solid {name : List Char} (hname : IsHostName name) : name ≠ [] :=
  (Places.dns hname).solid.2

theorem isPlain_of_isAlphanum {c : Char} (hletter : c.isAlphanum = true) :
    0x20 < c.toNat ∧ c.toNat < 0x7F ∧ c ≠ '/' := by
  have hother : c ≠ '/' := by
    rintro rfl
    cases hletter
  delta Char.isAlphanum Char.isAlpha Char.isUpper Char.isLower Char.isDigit at hletter
  simp only [Bool.or_eq_true, Bool.and_eq_true, decide_eq_true_eq, ge_iff_le,
    UInt32.le_iff_toNat_le] at hletter
  have hrange : 0x20 < c.val.toNat ∧ c.val.toNat < 0x7F := by
    rcases hletter with (⟨hleast, hmost⟩ | ⟨hleast, hmost⟩) | ⟨hleast, hmost⟩
    · exact ⟨Nat.lt_of_lt_of_le (by decide) hleast, Nat.lt_of_le_of_lt hmost (by decide)⟩
    · exact ⟨Nat.lt_of_lt_of_le (by decide) hleast, Nat.lt_of_le_of_lt hmost (by decide)⟩
    · exact ⟨Nat.lt_of_lt_of_le (by decide) hleast, Nat.lt_of_le_of_lt hmost (by decide)⟩
  exact ⟨hrange.1, hrange.2, hother⟩

theorem IsHostName.isPlain {name : List Char} (hname : IsHostName name) : IsPlain name := by
  intro c hc
  rcases hname.mem c hc with (hletter | rfl) | rfl
  · exact isPlain_of_isAlphanum hletter
  · decide
  · decide

/-! ## Reading plain forms -/

theorem splitScheme?_plain {text : List Char} (hplain : IsPlain text) :
    RelayUrl.splitScheme? text = none := by
  have hopening (scheme : Scheme) : scheme.opening.isPrefixOf text = false := by
    rw [Bool.eq_false_iff, ne_eq, List.isPrefixOf_iff_prefix]
    intro hopens
    exact hplain.slash_not_mem (hopens.subset (by simp [Scheme.opening]))
  simp only [RelayUrl.splitScheme?, hopening, Bool.false_eq_true, if_false, Option.or_self]

/-- A text without blanks and slashes is neither a path nor the URL of a relay. -/
theorem read_plain {text : List Char} (hsome : text ≠ []) (hplain : IsPlain text) :
    read (String.ofList text) =
      (ofPlain text).mapError (Link.Error.invalidAddress (String.ofList text)) := by
  have htrimmed : trimmed (String.ofList text).toList = text := by
    rw [String.toList_ofList, trimmed_of_not_blank hplain.isBlank]
  have hform : ofTrimmed text = ofPlain text := by
    unfold ofTrimmed
    split
    next => exact absurd rfl hsome
    next => exact absurd List.mem_cons_self hplain.slash_not_mem
    next => rw [splitScheme?_plain hplain]
  rw [read, htrimmed, hform]

theorem takeWhile_colon {front back : List Char} (hfront : ':' ∉ front) :
    (front ++ ':' :: back).takeWhile (· ≠ ':') = front := by
  apply takeWhile_append_of_stop
  · intro c hc
    rw [decide_eq_true_eq]
    rintro rfl
    exact hfront hc
  · exact stop_cons rfl back

theorem splitLastColon_append {front back : List Char} (hback : ':' ∉ back) :
    splitLastColon (front ++ ':' :: back) = some (front, back) := by
  have hbehind : (front ++ ':' :: back).reverse.takeWhile (· ≠ ':') = back.reverse := by
    rw [List.reverse_append, List.reverse_cons, List.append_assoc]
    exact takeWhile_colon (mt List.mem_reverse.mp hback)
  unfold splitLastColon
  rw [if_pos (by simp), hbehind]
  simp only [List.reverse_reverse, List.length_append, List.length_cons]
  rw [show front.length + (back.length + 1) - back.length - 1 = front.length by omega,
    List.take_left]

theorem colon_not_mem_ofNat (n : Nat) : ':' ∉ Numeral.ofNat n :=
  fun hmem => absurd (Numeral.isDigit_of_mem_toDigits hmem) (by decide)

theorem toNat_pos {port : UInt16} (hport : port ≠ 0) : 0 < port.toNat :=
  Nat.pos_of_ne_zero fun hzero => hport (UInt16.toNat_inj.mp hzero)

theorem portOf_ofNat {port : UInt16} (hport : port ≠ 0) :
    portOf (Numeral.ofNat port.toNat) = .ok port :=
  portOf_eq_ok_iff.mpr ⟨port.toNat, .plain (Numeral.denotes_toDigits port.toNat),
    toNat_pos hport, port.toNat_lt, UInt16.ofNat_toNat.symm⟩

/-- Before a port, a host name is read as a socket address only if it is an IPv4 address. -/
theorem socket_eq_none_of_host {name : List Char} (hname : IsHostName name)
    (hother : ∀ ip : Ipv4, name ≠ ip.render) (port : UInt16) :
    Socket.ofText? (name ++ Socket.portText port) = none := by
  rw [Option.eq_none_iff_forall_ne_some]
  intro socket hread
  rcases Socket.shape_of_ofText? hread with ⟨ip, rest, htext⟩ | ⟨rest, htext⟩
  -- neither the name nor the address has a colon, so both end at the first one
  · have hcolon : ':' ∉ name := hname.not_mem rfl (by decide) (by decide)
    have hfront := congrArg (List.takeWhile (· ≠ ':')) htext
    rw [Socket.portText, takeWhile_colon hcolon, takeWhile_colon ip.colon_not_mem_render] at hfront
    exact hother ip hfront
  · cases name with
    | nil => exact hname.solid rfl
    | cons c name =>
        obtain rfl : c = '[' := (List.cons.inj htext).1
        exact hname.not_mem rfl (by decide) (by decide) List.mem_cons_self

theorem read_host {name : List Char} (hname : IsHostName name)
    (hother : ∀ ip : Ipv4, name ≠ ip.render) {port : UInt16} (hport : port ≠ 0) :
    read (String.ofList (name ++ Socket.portText port)) =
      .ok { destination := .host name port .any, peer := none } := by
  have hplain : IsPlain (name ++ Socket.portText port) :=
    hname.isPlain.append (isPlain_portText port)
  have hform : ofPlain (name ++ Socket.portText port) =
      .ok { destination := .host name port .any, peer := none } := by
    have hsplit : splitLastColon (name ++ Socket.portText port) =
        some (name, Numeral.ofNat port.toNat) :=
      splitLastColon_append (colon_not_mem_ofNat port.toNat)
    simp only [ofPlain, socket_eq_none_of_host hname hother, ofHostAndPort, hsplit,
      namesHost_iff.mpr hname, if_true, portOf_ofNat hport, Except.map]
  rw [read_plain (by simp [hname.solid]) hplain, hform]
  rfl

theorem read_socket (socket : Socket) :
    read (String.ofList socket.render) = .ok { destination := .socket socket, peer := none } := by
  have hsome : socket.render ≠ [] := by
    intro hnone
    have hread := socket.ofText?_render
    rw [hnone] at hread
    cases hread
  rw [read_plain hsome socket.isPlain_render, ofPlain, socket.ofText?_render]
  rfl

/-! ## Destinations that are shown -/

/-- What the text that shows a destination says: a host by the name of an IPv4 address is shown as
that address, and of no host does it say by which records it is found. -/
inductive ShownAs : Destination → Destination → Prop
  | socket (place : Socket) : ShownAs (.socket place) (.socket place)
  | literal (ip : Ipv4) (port : UInt16) (family : Family) :
      ShownAs (.host ip.render port family) (.socket (.v4 ip port))
  | host {name : List Char} (hother : ∀ ip : Ipv4, name ≠ ip.render) (port : UInt16)
      (family : Family) : ShownAs (.host name port family) (.host name port .any)

theorem ShownAs.render_eq {shown again : Destination} (hshown : ShownAs shown again) :
    again.render = shown.render := by
  cases hshown with
  | socket place => rfl
  | literal ip port family => rfl
  | host _ port family => rfl

/-- A host that an address leads to has a name, and a port other than zero. -/
def Destination.IsSound : Destination → Prop
  | .host name port _ => IsHostName name ∧ port ≠ 0
  | _ => True

theorem port_ne_zero {n : Nat} (hpositive : 0 < n) (hsmall : n < 65536) : UInt16.ofNat n ≠ 0 := by
  intro hzero
  have hvalue := congrArg UInt16.toNat hzero
  rw [UInt16.toNat_ofNat', UInt16.toNat_zero] at hvalue
  omega

theorem Places.isSound {protocol host : List Char} {place : UInt16 → Destination}
    (hplaces : Places protocol host place) {port : UInt16} (hport : port ≠ 0) :
    (place port).IsSound := by
  cases hplaces with
  | ip4 ip => trivial
  | ip6 hhost => trivial
  | dns hhost => exact ⟨hhost, hport⟩
  | dns4 hhost => exact ⟨hhost, hport⟩
  | dns6 hhost => exact ⟨hhost, hport⟩

theorem isSound_of_ofPlain {text : List Char} {parsed : Parsed}
    (hread : ofPlain text = .ok parsed) : parsed.destination.IsSound := by
  unfold ofPlain at hread
  split at hread
  next =>
    obtain rfl := Except.ok.inj hread
    trivial
  next =>
    unfold ofHostAndPort at hread
    split at hread
    next => cases hread
    next host digits _ =>
      split_ifs at hread with hname
      cases hport : portOf digits with
      | error error =>
          rw [hport] at hread
          cases hread
      | ok port =>
          rw [hport] at hread
          obtain rfl := Except.ok.inj hread
          obtain ⟨n, -, hpositive, hsmall, rfl⟩ := portOf_eq_ok_iff.mp hport
          exact ⟨namesHost_iff.mp hname, port_ne_zero hpositive hsmall⟩

theorem isSound_of_read {text : String} {parsed : Parsed} (hread : read text = .ok parsed) :
    parsed.destination.IsSound := by
  have htrimmed : ofTrimmed (trimmed text.toList) = .ok parsed := read_eq_ok_iff.mp hread
  unfold ofTrimmed at htrimmed
  split at htrimmed
  next => cases htrimmed
  next =>
    obtain ⟨_, _, _, _, _, place, n, -, hplaces, -, -, hpositive, hsmall, hdestination, -⟩ :=
      ofComponents_eq_ok_iff.mp htrimmed
    rw [hdestination]
    exact hplaces.isSound (port_ne_zero hpositive hsmall)
  next =>
    split at htrimmed
    next =>
      split at htrimmed
      next =>
        obtain rfl := Except.ok.inj htrimmed
        trivial
      next => cases htrimmed
    next => exact isSound_of_ofPlain htrimmed

theorem exists_shownAs {destination : Destination} (hsound : destination.IsSound)
    (hdirect : ∀ url, destination ≠ .relay url) :
    ∃ again, ShownAs destination again ∧
      read destination.text = .ok { destination := again, peer := none } := by
  cases destination with
  | socket place => exact ⟨_, .socket place, read_socket place⟩
  | relay url => exact absurd rfl (hdirect url)
  | host name port family =>
      obtain ⟨hname, hport⟩ := hsound
      by_cases hliteral : ∃ ip : Ipv4, name = ip.render
      · obtain ⟨ip, rfl⟩ := hliteral
        exact ⟨_, .literal ip port family, read_socket (.v4 ip port)⟩
      · have hother : ∀ ip : Ipv4, name ≠ ip.render := fun ip hip => hliteral ⟨ip, hip⟩
        exact ⟨_, .host hother port family, read_host hname hother hport⟩

/-- The text that shows the destination of an address is itself an address, without a node and with
the same text. -/
theorem shown_destinations_read_back {text : String} {parsed : Parsed}
    (hread : read text = .ok parsed) (hdirect : ∀ url, parsed.destination ≠ .relay url) :
    ∃ again, ShownAs parsed.destination again ∧
      read parsed.destination.text = .ok { destination := again, peer := none } ∧
      again.text = parsed.destination.text := by
  obtain ⟨again, hshown, hagain⟩ := exists_shownAs (isSound_of_read hread) hdirect
  exact ⟨again, hshown, hagain, congrArg String.ofList hshown.render_eq⟩

/-- With a sign before its port an IPv4 address is read as the name of a host. -/
theorem signed_port_is_shown_plain :
    let parsed : Parsed := { destination := .host "192.0.2.1".toList 80 .any, peer := none }
    read "192.0.2.1:+80" = .ok parsed ∧ (∀ url, parsed.destination ≠ .relay url) ∧
      ∃ again, ShownAs parsed.destination again ∧
        read parsed.destination.text = .ok { destination := again, peer := none } ∧
        again.text = parsed.destination.text := by
  intro parsed
  have hread : read "192.0.2.1:+80" = .ok parsed := rfl
  have hdirect : ∀ url, parsed.destination ≠ .relay url := by
    intro url hrelay
    cases hrelay
  exact ⟨hread, hdirect, shown_destinations_read_back hread hdirect⟩

end NodeLink.Address
