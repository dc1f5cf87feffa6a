import NodeLink.Proofs.Address.Plain
/-!
# The ports of addresses

The port of a host, and the port in a path, is never zero.  A socket address that is
written out keeps the port it is written with, and zero is among those.
-/

namespace NodeLink.Address

open NodeLink.Text

/-- A relay is reached without a port. -/
def Destination.port? : Destination → Option UInt16
  | .socket place => some place.port
  | .host _ port _ => some port
  | .relay _ => none

theorem Places.port? {protocol host : List Char} {place : UInt16 → Destination}
    (hplaces : Places protocol host place) (port : UInt16) : (place port).port? = some port := by
  cases hplaces with
  | ip4 | ip6 | dns | dns4 | dns6 => rfl

/-! ## Socket addresses that are written out -/

/-- A socket address begins with a digit or a bracket. -/
theorem Socket.exists_head {text : List Char} {place : Socket}
    (hread : Socket.ofText? text = some place) :
    ∃ c, text.head? = some c ∧ (Numeral.isDigit c = true ∨ c = '[') := by
  rcases Socket.shape_of_ofText? hread with ⟨ip, rest, rfl⟩ | ⟨rest, rfl⟩
  · cases hoctet : Ipv4.octetText ip.a with
    | nil => exact absurd hoctet Nat.toDigits_ne_nil
    | cons c digits =>
        have hmem : c ∈ Ipv4.octetText ip.a := hoctet ▸ List.mem_cons_self
        have hdigit := Numeral.isDigit_of_mem_toDigits hmem
        exact ⟨c, by simp [Ipv4.render, hoctet], .inl (Numeral.isDigit_eq c ▸ hdigit)⟩
  · exact ⟨'[', rfl, .inr rfl⟩

theorem splitScheme?_of_head {c : Char} {rest : List Char} (hc : c ≠ 'h') :
    RelayUrl.splitScheme? (c :: rest) = none := by
  have hopening (scheme : Scheme) : scheme.opening.isPrefixOf (c :: rest) = false := by
    cases scheme <;> simp [Scheme.opening, Scheme.name, List.isPrefixOf, Ne.symm hc]
  simp only [RelayUrl.splitScheme?, hopening, Bool.false_eq_true, if_false, Option.or_self]

/-- A socket address is looked for only in a text that is no path and no URL, and none is either. -/
theorem ofTrimmed_literal {text : List Char} {place : Socket}
    (hplace : Socket.ofText? text = some place) :
    ofTrimmed text = .ok { destination := .socket place, peer := none } := by
  obtain ⟨c, hhead, hc⟩ := Socket.exists_head hplace
  obtain ⟨rest, rfl⟩ := List.head?_eq_some_iff.mp hhead
  have hother : c ≠ '/' ∧ c ≠ 'h' := by
    constructor <;> rintro rfl <;> exact absurd hc (by decide)
  unfold ofTrimmed
  split
  next hnone => cases hnone
  next hpath => exact absurd (List.cons.inj hpath).1 hother.1
  next => simp only [splitScheme?_of_head hother.2, ofPlain, hplace]

/-! ## Other forms -/

theorem port_ne_zero_of_ofComponents {parts : List (List Char)} {parsed : Parsed}
    (hread : ofComponents parts = .ok parsed) : parsed.destination.port? ≠ some 0 := by
  obtain ⟨_, _, _, _, _, place, n, -, hplaces, -, -, hpositive, hsmall, hdestination, -⟩ :=
    ofComponents_eq_ok_iff.mp hread
  rw [hdestination, hplaces.port?, ne_eq, Option.some.injEq]
  exact port_ne_zero hpositive hsmall

theorem port_ne_zero_of_ofHostAndPort {text : List Char} {parsed : Parsed}
    (hread : ofHostAndPort text = .ok parsed) : parsed.destination.port? ≠ some 0 := by
  unfold ofHostAndPort at hread
  split at hread
  next => cases hread
  next host digits _ =>
    split_ifs at hread
    cases hport : portOf digits with
    | error reason =>
        rw [hport] at hread
        cases hread
    | ok port =>
        rw [hport] at hread
        obtain rfl := Except.ok.inj hread
        obtain ⟨n, -, hpositive, hsmall, rfl⟩ := portOf_eq_ok_iff.mp hport
        rw [Destination.port?, ne_eq, Option.some.injEq]
        exact port_ne_zero hpositive hsmall

theorem literal_of_port_zero {text : List Char} {parsed : Parsed}
    (hread : ofTrimmed text = .ok parsed) (hport : parsed.destination.port? = some 0) :
    ∃ place, Socket.ofText? text = some place ∧
      parsed = { destination := .socket place, peer := none } := by
  unfold ofTrimmed at hread
  split at hread
  next => cases hread
  next => exact absurd hport (port_ne_zero_of_ofComponents hread)
  next =>
    split at hread
    next =>
      split at hread
      next =>
        obtain rfl := Except.ok.inj hread
        cases hport
      next => cases hread
    next =>
      unfold ofPlain at hread
      split at hread
      next place hplace => exact ⟨place, hplace, (Except.ok.inj hread).symm⟩
      next => exact absurd hport (port_ne_zero_of_ofHostAndPort hread)

/-- The addresses with port zero are the socket addresses that are written out with it. -/
theorem port_zero_iff_literal (text : String) (parsed : Parsed) :
    (read text = .ok parsed ∧ parsed.destination.port? = some 0) ↔
      ∃ place : Socket, Socket.ofText? (trimmed text.toList) = some place ∧ place.port = 0 ∧
        parsed = { destination := .socket place, peer := none } := by
  rw [read_eq_ok_iff]
  constructor
  · rintro ⟨hread, hport⟩
    obtain ⟨place, hplace, rfl⟩ := literal_of_port_zero hread hport
    exact ⟨place, hplace, Option.some.inj hport, rfl⟩
  · rintro ⟨place, hplace, hport, rfl⟩
    exact ⟨ofTrimmed_literal hplace, congrArg some hport⟩

/-- A host and a path are refused with the port that a socket address may have. -/
theorem literal_with_port_zero_is_read :
    let place : Socket := .v4 ⟨192, 0, 2, 1⟩ 0
    read "192.0.2.1:0" = .ok { destination := .socket place, peer := none } ∧ place.port = 0 ∧
      read "node:0" = .error (.invalidAddress "node:0" (.badPort "0")) ∧
      read "/ip4/192.0.2.1/udp/0" =
        .error (.invalidAddress "/ip4/192.0.2.1/udp/0" (.badPort "0")) := by
  exact ⟨rfl, rfl, rfl, rfl⟩

end NodeLink.Address
