import NodeLink.Address.Socket
import NodeLink.Proofs.Address.Literal
/-!
# The texts of socket addresses

The text that shows a socket address is read back as that address.  For an IPv6
address this means that the one text in which it is shown, with its longest run of
zeros left out, is among the many texts in which it may be written.
-/

namespace NodeLink.Address

open NodeLink.Text

/-! ## Words in hexadecimal -/

namespace Ipv6

theorem value?_digitChar {n : Nat} (hn : n < 16) : Hex.value? (Nat.digitChar n) = some n := by
  have hall : ∀ m < 16, Hex.value? (Nat.digitChar m) = some m := by decide
  exact hall n hn

theorem foldlM_toDigits (n : Nat) :
    (Nat.toDigits 16 n).foldlM (fun total c => (Hex.value? c).map (total * 16 + ·)) 0 =
      some n := by
  induction n using Nat.strongRecOn with
  | ind n ih =>
      by_cases hsmall : n < 16
      · simp [Nat.toDigits_of_lt_base hsmall, value?_digitChar hsmall]
      · have hlast : n % 16 < 16 := Nat.mod_lt n (by decide)
        rw [Nat.toDigits_of_base_le (by decide) (Nat.not_lt.mp hsmall), List.foldlM_append,
          ih (n / 16) (by omega)]
        simp [value?_digitChar hlast, Nat.div_add_mod']

theorem isWord_wordText (word : UInt16) : IsWord (wordText word) word := by
  constructor
  · exact (Nat.length_toDigits_le_iff (by decide) (by decide)).mpr word.toNat_lt
  · have hvalue := foldlM_toDigits word.toNat
    unfold wordText Hex.number?
    split
    next hnone => exact absurd hnone Nat.toDigits_ne_nil
    next => exact hvalue

theorem side_joinWords (words : List UInt16) : Side false (joinWords words) words := by
  cases words with
  | nil => exact .none
  | cons word words =>
      apply Side.some
      induction words generalizing word with
      | nil => exact .one (isWord_wordText word)
      | cons next words ih => exact .cons (isWord_wordText word) (ih next)

/-! ## Runs of zeros -/

theorem zeros_prefix (words : List UInt16) :
    words = List.replicate (zeros words) 0 ++ words.drop (zeros words) := by
  induction words with
  | nil => rfl
  | cons word words ih =>
      unfold zeros
      split_ifs with hzero
      · subst hzero
        rw [List.replicate_succ, List.cons_append, List.drop_succ_cons, ← ih]
      · rfl

theorem exists_longestRun (words : List UInt16) (start : Nat) :
    ∃ before after, words = before ++ List.replicate (longestRun words start).2 0 ++ after ∧
      (longestRun words start).1 = start + before.length := by
  induction words generalizing start with
  | nil => exact ⟨[], [], rfl, rfl⟩
  | cons word words ih =>
      unfold longestRun
      simp only
      split_ifs with hlonger
      -- the run in front, if it is no shorter than the longest one behind
      · exact ⟨[], _, zeros_prefix (word :: words), rfl⟩
      · obtain ⟨before, after, hwords, hstart⟩ := ih (start + 1)
        refine ⟨word :: before, after, ?_, ?_⟩
        · rw [List.cons_append, List.cons_append, ← hwords]
        · rw [hstart, List.length_cons]
          omega

theorem literal_compressed {words : List UInt16} (hall : words.length = 8) :
    Literal (compressed words) words := by
  obtain ⟨before, after, hwords, hstart⟩ := exists_longestRun words 0
  unfold compressed
  generalize longestRun words 0 = run at hwords hstart
  obtain ⟨start, length⟩ := run
  simp only [Nat.zero_add] at hwords hstart
  simp only
  split_ifs with hshort
  · have hside := side_joinWords words
    generalize joinWords words = text at hside ⊢
    cases hside with
    | none => cases hall
    | some hfull => exact .full hfull hall
  -- what is left out is the run, between the words before it and those after it
  · subst hstart
    have hlength := congrArg List.length hwords
    simp only [List.length_append, List.length_replicate] at hlength
    have htake : words.take before.length = before := by simp [hwords]
    have hdrop : words.drop (before.length + length) = after := by
      have hfront : (before ++ List.replicate length 0).length = before.length + length := by simp
      rw [hwords, ← hfront, List.drop_left]
    have hcount : 8 - before.length - after.length = length := by omega
    have hliteral := Literal.shortened (side_joinWords before) (side_joinWords after) (by omega)
    rw [hcount, ← hwords] at hliteral
    rwa [htake, hdrop]

/-! ## IPv4 addresses in the last two words -/

theorem words_ofNat (high low : UInt16) :
    (Ipv4.ofNat (high.toNat * 65536 + low.toNat)).words = [high, low] := by
  have hhigh := high.toNat_lt
  have hlow := low.toNat_lt
  have hpow24 : Nat.pow 2 24 = 16777216 := rfl
  have hpow16 : Nat.pow 2 16 = 65536 := rfl
  have hpow8 : Nat.pow 2 8 = 256 := rfl
  simp only [Ipv4.words, Ipv4.ofNat, hpow24, hpow16, hpow8, UInt8.toNat_ofNat', List.cons.injEq,
    and_true]
  constructor
  · apply UInt16.toNat_inj.mp
    rw [UInt16.toNat_ofNat']
    omega
  · apply UInt16.toNat_inj.mp
    rw [UInt16.toNat_ofNat']
    omega

/-- An IPv4 address behind `::ffff:`. -/
theorem literal_mapped (v4 : Ipv4) :
    Literal ([':', ':', 'f', 'f', 'f', 'f', ':'] ++ v4.render)
      ([0, 0, 0, 0, 0, 0xFFFF] ++ v4.words) := by
  have hmark : IsWord ['f', 'f', 'f', 'f'] 0xFFFF := ⟨by decide, by decide⟩
  exact .shortened .none (.some (.cons hmark (.embedded v4))) (by simp [Ipv4.length_words])

/-- The text that shows an address is one of its texts. -/
theorem literal_render (ip : Ipv6) : Literal ip.render ip.words := by
  unfold render
  split
  next v4 hmapped =>
    unfold mapped? at hmapped
    split at hmapped
    next high low hwords =>
      obtain rfl := Option.some.inj hmapped
      have hliteral := literal_mapped (Ipv4.ofNat (high.toNat * 65536 + low.toNat))
      rw [words_ofNat] at hliteral
      rw [hwords]
      exact hliteral
    next => cases hmapped
  next => exact literal_compressed ip.length_eq

end Ipv6

/-! ## Ports and zones -/

theorem readNumber_ofNat {n bound : Nat} (hbound : n ≤ bound) {rest : List Char}
    (hstop : ∀ c, rest.head? = some c → Numeral.isDigit c = false) :
    readNumber bound (Numeral.ofNat n ++ rest) = some (n, rest) := by
  have hdigits : ∀ c ∈ Numeral.ofNat n, Numeral.isDigit c = true := by
    intro c hc
    rw [Numeral.isDigit_eq]
    exact Numeral.isDigit_of_mem_toDigits hc
  have hread := Numeral.digitsWithin?_eq_some_iff.mpr ⟨Numeral.denotes_toDigits n, hbound⟩
  rw [readNumber, takeWhile_append_of_stop hdigits hstop, dropWhile_append_of_stop hdigits hstop]
  rw [Numeral.ofNat, hread, Option.map_some]

namespace Socket

theorem readPort_portText (port : UInt16) : readPort (portText port) = some (port, []) := by
  have hread : readNumber Numeral.maxWord16 (Numeral.ofNat port.toNat ++ []) =
      some (port.toNat, []) :=
    readNumber_ofNat (Nat.le_of_lt_succ port.toNat_lt) (by simp)
  rw [List.append_nil] at hread
  simp only [readPort, portText, expect, if_true, Option.bind_eq_bind, Option.bind_some, hread,
    Option.pure_def, UInt16.ofNat_toNat]

theorem readZone_zoneText (zone : UInt32) (rest : List Char) :
    readZone (zoneText zone ++ ']' :: rest) = (zone, ']' :: rest) := by
  unfold zoneText
  split_ifs with hzero
  · subst hzero
    rfl
  · have hread : readNumber (Nat.pow 2 32 - 1) (Numeral.ofNat zone.toNat ++ ']' :: rest) =
        some (zone.toNat, ']' :: rest) :=
      readNumber_ofNat (Nat.le_sub_one_of_lt zone.toNat_lt) (stop_cons rfl rest)
    simp only [readZone, List.cons_append, expect, if_true, Option.bind_some, hread,
      UInt32.ofNat_toNat]

/-- What stands behind an IPv6 address in brackets ends the reading of its words. -/
theorem stops_zoneText (zone : UInt32) (rest : List Char) :
    Ipv6.Stops (zoneText zone ++ ']' :: rest) := by
  unfold zoneText
  split_ifs
  · exact .foreign rest rfl (by decide) (by decide)
  · exact .foreign _ rfl (by decide) (by decide)

theorem readV4_render (ip : Ipv4) (port : UInt16) :
    readV4 (ip.render ++ portText port) = some (.v4 ip port, []) := by
  have hread : Ipv4.read (ip.render ++ portText port) = some (ip, portText port) :=
    Ipv4.read_append (stop_cons rfl _)
  simp only [readV4, hread, Option.bind_eq_bind, Option.bind_some, readPort_portText,
    Option.pure_def]

theorem readV6_render (ip : Ipv6) (zone : UInt32) (port : UInt16) :
    readV6 (Socket.render (.v6 ip zone port)) = some (.v6 ip zone port, []) := by
  have hread := Ipv6.read_of_literal (Ipv6.literal_render ip) (stops_zoneText zone (portText port))
  rw [← List.append_assoc] at hread
  simp only [readV6, render, expect, if_true, Option.bind_eq_bind, Option.bind_some, hread,
    readZone_zoneText, readPort_portText, Option.pure_def]

/-- A text in brackets does not begin with an IPv4 address. -/
theorem readV4_bracket (rest : List Char) : readV4 ('[' :: rest) = none := by
  have hread : Ipv4.read ('[' :: rest) = none := by
    cases hread : Ipv4.read ('[' :: rest) with
    | none => rfl
    | some pair =>
        have hdot := Ipv4.dot_of_read hread
        rw [List.dropWhile_cons_of_neg (by decide)] at hdot
        cases hdot
  rw [readV4, hread]
  rfl

/-- The text that shows a socket address is read as that address. -/
theorem ofText?_render (socket : Socket) : ofText? socket.render = some socket := by
  cases socket with
  | v4 ip port =>
      rw [ofText?, render, readV4_render, Option.some_or]
  | v6 ip zone port =>
      have hread := readV6_render ip zone port
      have hother : readV4 (Socket.render (.v6 ip zone port)) = none := readV4_bracket _
      rw [ofText?, hother, hread, Option.none_or]

/-- A socket address is written with an IPv4 address before a colon, or in brackets. -/
theorem shape_of_ofText? {text : List Char} {socket : Socket} (hread : ofText? text = some socket) :
    (∃ (ip : Ipv4) (rest : List Char), text = ip.render ++ ':' :: rest) ∨
      ∃ rest, text = '[' :: rest := by
  unfold ofText? at hread
  split at hread
  next found hfound =>
    rcases Option.or_eq_some_iff.mp hfound with hv4 | ⟨-, hv6⟩
    · simp only [readV4, readPort, Option.bind_eq_bind, Option.bind_eq_some_iff,
        expect_eq_some_iff] at hv4
      obtain ⟨⟨ip, after⟩, hip, ⟨port, rest⟩, ⟨behind, rfl, -⟩, -⟩ := hv4
      exact .inl ⟨ip, behind, Ipv4.read_eq_some hip⟩
    · simp only [readV6, Option.bind_eq_bind, Option.bind_eq_some_iff, expect_eq_some_iff] at hv6
      obtain ⟨inner, rfl, -⟩ := hv6
      exact .inr ⟨inner, rfl⟩
  next => cases hread

end Socket

end NodeLink.Address
