import NodeLink.Text.Utf8
/-!
# UTF-8 is exact

Reading takes exactly what writing produces.  A character has one spelling: the
range of its second byte rules out spellings that are longer than they have to
be, surrogates, and what lies beyond the last character.
-/

namespace NodeLink.Text.Utf8

/-! ## Bytes -/

theorem toNat_byte {n : Nat} (hn : n < 256) : (byte n).toNat = n := by
  simp only [byte, UInt8.toNat_ofNat']
  omega

theorem toNat_tailByte (n : Nat) : (tailByte n).toNat = 0x80 + n % 64 := by
  apply toNat_byte
  omega

theorem eq_byte {b : UInt8} {n : Nat} (hn : b.toNat = n) : b = byte n := by
  apply UInt8.toNat_inj.mp
  rw [hn, toNat_byte]
  rw [← hn]
  exact b.toNat_lt

theorem eq_tailByte {b : UInt8} {n : Nat} (hn : b.toNat = 0x80 + n % 64) : b = tailByte n :=
  eq_byte hn

theorem isTail_iff {low high : Nat} {b : UInt8} :
    isTail low high b = true ↔ low ≤ b.toNat ∧ b.toNat ≤ high := by
  simp [isTail]

theorem isTail_tailByte (n : Nat) : isTail 0x80 0xBF (tailByte n) = true := by
  rw [isTail_iff, toNat_tailByte]
  omega

theorem isTail_secondRange_iff {lead : Nat} {b : UInt8} :
    isTail (secondRange lead).1 (secondRange lead).2 b = true ↔
      0x80 ≤ b.toNat ∧ b.toNat ≤ 0xBF ∧
        (lead = 0xE0 → 0xA0 ≤ b.toNat) ∧ (lead = 0xED → b.toNat ≤ 0x9F) ∧
        (lead = 0xF0 → 0x90 ≤ b.toNat) ∧ (lead = 0xF4 → b.toNat ≤ 0x8F) := by
  unfold secondRange
  rw [isTail_iff]
  split
  next => omega
  next =>
    split
    next => omega
    next =>
      split
      next => omega
      next =>
        split
        next => omega
        next => omega

/-! ## Spellings -/

/-- The bytes of one character. -/
inductive Spells (first : UInt8) : List UInt8 → Char → Prop
  | one (hfirst : first.toNat < 0x80) : Spells first [] (Char.ofNat first.toNat)
  | two {second : UInt8} (hleast : 0xC2 ≤ first.toNat) (hmost : first.toNat < 0xE0)
      (hsecond : isTail 0x80 0xBF second = true) :
      Spells first [second] (charOf 0 0 (first.toNat - 0xC0) second.toNat)
  | three {second third : UInt8} (hleast : 0xE0 ≤ first.toNat) (hmost : first.toNat < 0xF0)
      (hsecond : isTail (secondRange first.toNat).1 (secondRange first.toNat).2 second = true)
      (hthird : isTail 0x80 0xBF third = true) :
      Spells first [second, third] (charOf 0 (first.toNat - 0xE0) second.toNat third.toNat)
  | four {second third fourth : UInt8} (hleast : 0xF0 ≤ first.toNat)
      (hmost : first.toNat ≤ 0xF4)
      (hsecond : isTail (secondRange first.toNat).1 (secondRange first.toNat).2 second = true)
      (hthird : isTail 0x80 0xBF third = true) (hfourth : isTail 0x80 0xBF fourth = true) :
      Spells first [second, third, fourth]
        (charOf (first.toNat - 0xF0) second.toNat third.toNat fourth.toNat)

variable {first : UInt8} {rest tail : List UInt8} {c : Char}

theorem spells_of_decodeChar {used : Nat} (hdecode : decodeChar first rest = .ok (c, used)) :
    ∃ tail latter, rest = tail ++ latter ∧ tail.length = used ∧ Spells first tail c := by
  simp only [decodeChar] at hdecode
  split at hdecode
  next hone =>
    cases hdecode
    exact ⟨[], rest, rfl, rfl, .one hone⟩
  next hone =>
    split at hdecode
    next => cases hdecode
    next hlead =>
      simp only [Bool.or_eq_true, decide_eq_true_eq, not_or] at hlead
      cases rest with
      | nil => cases hdecode
      | cons second rest =>
          simp only [Bool.not_eq_true'] at hdecode
          split at hdecode
          next => cases hdecode
          next hsecond =>
            rw [Bool.not_eq_false] at hsecond
            split at hdecode
            next htwo =>
              cases hdecode
              refine ⟨[second], rest, rfl, rfl, .two (by omega) htwo ?_⟩
              rw [isTail_secondRange_iff] at hsecond
              rw [isTail_iff]
              omega
            next htwo =>
              cases rest with
              | nil => cases hdecode
              | cons third rest =>
                  simp only at hdecode
                  split at hdecode
                  next => cases hdecode
                  next hthird =>
                    rw [Bool.not_eq_false] at hthird
                    split at hdecode
                    next hthree =>
                      cases hdecode
                      exact ⟨[second, third], rest, rfl, rfl,
                        .three (by omega) hthree hsecond hthird⟩
                    next hthree =>
                      cases rest with
                      | nil => cases hdecode
                      | cons fourth rest =>
                          simp only at hdecode
                          split at hdecode
                          next => cases hdecode
                          next hfourth =>
                            rw [Bool.not_eq_false] at hfourth
                            cases hdecode
                            exact ⟨[second, third, fourth], rest, rfl, rfl,
                              .four (by omega) (by omega) hsecond hthird hfourth⟩

theorem decodeChar_of_spells (hspells : Spells first tail c) (latter : List UInt8) :
    decodeChar first (tail ++ latter) = .ok (c, tail.length) := by
  simp only [decodeChar]
  cases hspells with
  | one hfirst => simp [hfirst]
  | two hleast hmost hsecond =>
      rename_i second
      have hrange : isTail (secondRange first.toNat).1 (secondRange first.toNat).2 second =
          true := by
        rw [isTail_secondRange_iff]
        rw [isTail_iff] at hsecond
        omega
      have hone : ¬ first.toNat < 0x80 := by omega
      have hlead : ¬ (first.toNat < 0xC2 ∨ 0xF4 < first.toNat) := by omega
      simp [hrange, hmost, hone, hlead]
  | three hleast hmost hsecond hthird =>
      have hone : ¬ first.toNat < 0x80 := by omega
      have hlead : ¬ (first.toNat < 0xC2 ∨ 0xF4 < first.toNat) := by omega
      have htwo : ¬ first.toNat < 0xE0 := by omega
      simp [hsecond, hthird, hmost, hone, hlead, htwo]
  | four hleast hmost hsecond hthird hfourth =>
      have hone : ¬ first.toNat < 0x80 := by omega
      have hlead : ¬ (first.toNat < 0xC2 ∨ 0xF4 < first.toNat) := by omega
      have htwo : ¬ first.toNat < 0xE0 := by omega
      have hthree : ¬ first.toNat < 0xF0 := by omega
      simp [hsecond, hthird, hfourth, hone, hlead, htwo, hthree]

/-! ## The spelling of a character -/

theorem toNat_ofNat_of_valid {n : Nat} (hvalid : n.isValidChar) : (Char.ofNat n).toNat = n := by
  unfold Char.ofNat
  rw [dif_pos hvalid]
  rfl

theorem toNat_charOf {lead second third fourth n : Nat}
    (hn : lead * 262144 + second % 64 * 4096 + third % 64 * 64 + fourth % 64 = n)
    (hvalid : n < 0xD800 ∨ 0xDFFF < n ∧ n < 0x110000) :
    (charOf lead second third fourth).toNat = n := by
  unfold charOf
  rw [hn]
  exact toNat_ofNat_of_valid hvalid

theorem eq_charOf {lead second third fourth : Nat}
    (hn : c.toNat =
      lead * 262144 + second % 64 * 4096 + third % 64 * 64 + fourth % 64) :
    c = charOf lead second third fourth := by
  unfold charOf
  rw [← hn, Char.ofNat_toNat]

theorem encodeChar_of_spells (hspells : Spells first tail c) : encodeChar c = first :: tail := by
  simp only [encodeChar]
  cases hspells with
  | one hfirst =>
      have hchar : (Char.ofNat first.toNat).toNat = first.toNat :=
        toNat_ofNat_of_valid (.inl (by omega))
      rw [hchar, if_pos hfirst, ← eq_byte rfl]
  | two hleast hmost hsecond =>
      rename_i second
      rw [isTail_iff] at hsecond
      rw [toNat_charOf rfl (by omega), if_neg (by omega), if_pos (by omega),
        ← eq_byte (b := first) (by omega), ← eq_tailByte (b := second) (by omega)]
  | three hleast hmost hsecond hthird =>
      rename_i second third
      rw [isTail_secondRange_iff] at hsecond
      rw [isTail_iff] at hthird
      rw [toNat_charOf rfl (by omega), if_neg (by omega), if_neg (by omega), if_pos (by omega),
        ← eq_byte (b := first) (by omega), ← eq_tailByte (b := second) (by omega),
        ← eq_tailByte (b := third) (by omega)]
  | four hleast hmost hsecond hthird hfourth =>
      rename_i second third fourth
      rw [isTail_secondRange_iff] at hsecond
      rw [isTail_iff] at hthird hfourth
      rw [toNat_charOf rfl (by omega), if_neg (by omega), if_neg (by omega), if_neg (by omega),
        ← eq_byte (b := first) (by omega), ← eq_tailByte (b := second) (by omega),
        ← eq_tailByte (b := third) (by omega), ← eq_tailByte (b := fourth) (by omega)]

theorem exists_spells (c : Char) :
    ∃ first tail, encodeChar c = first :: tail ∧ Spells first tail c := by
  have hvalid : c.toNat < 0xD800 ∨ 0xDFFF < c.toNat ∧ c.toNat < 0x110000 := c.valid
  simp only [encodeChar]
  by_cases hone : c.toNat < 0x80
  · have hlead := toNat_byte (n := c.toNat) (by omega)
    refine ⟨byte c.toNat, [], if_pos hone, ?_⟩
    have hspells : Spells (byte c.toNat) [] _ := .one (by omega)
    rwa [hlead, Char.ofNat_toNat] at hspells
  · rw [if_neg hone]
    by_cases htwo : c.toNat < 0x800
    · have hlead := toNat_byte (n := 0xC0 + c.toNat / 64) (by omega)
      have hsecond := toNat_tailByte c.toNat
      have hspells : Spells (byte (0xC0 + c.toNat / 64)) [tailByte c.toNat] _ :=
        .two (by omega) (by omega) (isTail_tailByte _)
      rw [← eq_charOf (c := c) (by omega)] at hspells
      exact ⟨_, _, if_pos htwo, hspells⟩
    · rw [if_neg htwo]
      by_cases hthree : c.toNat < 0x10000
      · have hlead := toNat_byte (n := 0xE0 + c.toNat / 4096) (by omega)
        have hsecond := toNat_tailByte (c.toNat / 64)
        have hthird := toNat_tailByte c.toNat
        have hspells : Spells (byte (0xE0 + c.toNat / 4096))
            [tailByte (c.toNat / 64), tailByte c.toNat] _ :=
          .three (by omega) (by omega) (isTail_secondRange_iff.mpr (by omega)) (isTail_tailByte _)
        rw [← eq_charOf (c := c) (by omega)] at hspells
        exact ⟨_, _, if_pos hthree, hspells⟩
      · have hlead := toNat_byte (n := 0xF0 + c.toNat / 262144) (by omega)
        have hsecond := toNat_tailByte (c.toNat / 4096)
        have hthird := toNat_tailByte (c.toNat / 64)
        have hfourth := toNat_tailByte c.toNat
        have hspells : Spells (byte (0xF0 + c.toNat / 262144))
            [tailByte (c.toNat / 4096), tailByte (c.toNat / 64), tailByte c.toNat] _ :=
          .four (by omega) (by omega) (isTail_secondRange_iff.mpr (by omega)) (isTail_tailByte _)
            (isTail_tailByte _)
        rw [← eq_charOf (c := c) (by omega)] at hspells
        exact ⟨_, _, if_neg hthree, hspells⟩

/-! ## Texts -/

theorem decodeFrom_skip (tail rest : List UInt8) :
    decodeFrom (tail ++ rest) tail.length = decodeFrom rest 0 := by
  induction tail with
  | nil => rfl
  | cons b tail ih => exact ih

theorem symbolsFrom_skip (tail rest : List UInt8) :
    symbolsFrom (tail ++ rest) tail.length = symbolsFrom rest 0 := by
  induction tail with
  | nil => rfl
  | cons b tail ih => exact ih

theorem encode_cons (c : Char) (text : List Char) :
    encode (c :: text) = encodeChar c ++ encode text :=
  List.flatMap_cons

theorem exists_decodeChar (c : Char) (text : List Char) :
    ∃ first tail, encode (c :: text) = first :: (tail ++ encode text) ∧
      decodeChar first (tail ++ encode text) = .ok (c, tail.length) := by
  obtain ⟨first, tail, hbytes, hspells⟩ := exists_spells c
  refine ⟨first, tail, ?_, decodeChar_of_spells hspells (encode text)⟩
  rw [encode_cons, hbytes, List.cons_append]

theorem scan_encode (text : List Char) : scan (encode text) = ⟨text, none⟩ := by
  unfold scan
  induction text with
  | nil => rfl
  | cons c text ih =>
      obtain ⟨first, tail, hbytes, hdecode⟩ := exists_decodeChar c text
      rw [hbytes, decodeFrom, hdecode]
      simp only
      rw [decodeFrom_skip, ih]
      rfl

theorem symbols_encode (text : List Char) : symbols (encode text) = text.map some := by
  unfold symbols
  induction text with
  | nil => rfl
  | cons c text ih =>
      obtain ⟨first, tail, hbytes, hdecode⟩ := exists_decodeChar c text
      rw [hbytes, symbolsFrom, hdecode]
      simp only
      rw [symbolsFrom_skip, ih, List.map_cons]

theorem eq_encode_of_scan {bytes : List UInt8} {text : List Char}
    (hscan : scan bytes = ⟨text, none⟩) : bytes = encode text := by
  unfold scan at hscan
  induction text generalizing bytes with
  | nil =>
      cases bytes with
      | nil => rfl
      | cons first rest =>
          rw [decodeFrom] at hscan
          split at hscan
          next => simp at hscan
          next => simp [Decoding.cons] at hscan
  | cons c text ih =>
      cases bytes with
      | nil => simp [decodeFrom] at hscan
      | cons first rest =>
          rw [decodeFrom] at hscan
          split at hscan
          next => simp at hscan
          next d used hdecode =>
            obtain ⟨tail, latter, rfl, rfl, hspells⟩ := spells_of_decodeChar hdecode
            rw [decodeFrom_skip] at hscan
            simp only [Decoding.cons, Decoding.mk.injEq, List.cons.injEq] at hscan
            obtain ⟨⟨rfl, hchars⟩, hfault⟩ := hscan
            have hlatter : decodeFrom latter 0 = ⟨text, none⟩ := by
              rw [← hchars, ← hfault]
            rw [encode_cons, encodeChar_of_spells hspells, ← ih hlatter, List.cons_append]

theorem decode_eq_some_iff {bytes : List UInt8} {text : List Char} :
    decode bytes = some text ↔ bytes = encode text := by
  unfold decode
  constructor
  · intro hdecode
    split at hdecode
    next chars hscan =>
      cases hdecode
      exact eq_encode_of_scan hscan
    next => cases hdecode
  · rintro rfl
    rw [scan_encode]

theorem decodeOrExplain_eq_ok_iff {bytes : List UInt8} {text : List Char} :
    decodeOrExplain bytes = .ok text ↔ bytes = encode text := by
  unfold decodeOrExplain
  constructor
  · intro hdecode
    split at hdecode
    next chars hscan =>
      cases hdecode
      exact eq_encode_of_scan hscan
    next => cases hdecode
  · rintro rfl
    rw [scan_encode]

/-! ## The bytes of a string -/

theorem encodeChar_eq (c : Char) : encodeChar c = String.utf8EncodeChar c := by
  have hvalid : c.toNat < 0xD800 ∨ 0xDFFF < c.toNat ∧ c.toNat < 0x110000 := c.valid
  have hone : c.toNat ≤ 127 ↔ c.toNat < 0x80 := by omega
  have htwo : c.toNat ≤ 2047 ↔ c.toNat < 0x800 := by omega
  have hthree : c.toNat ≤ 65535 ↔ c.toNat < 0x10000 := by omega
  unfold encodeChar String.utf8EncodeChar
  simp only [show c.val.toNat = c.toNat from rfl, tailByte, byte, hone, htwo, hthree,
    Nat.add_comm 0x80]
  split
  next => rfl
  next =>
    split
    next => rw [show c.toNat / 64 % 32 + 192 = 0xC0 + c.toNat / 64 by omega]
    next =>
      split
      next => rw [show c.toNat / 4096 % 16 + 224 = 0xE0 + c.toNat / 4096 by omega]
      next => rw [show c.toNat / 262144 % 8 + 240 = 0xF0 + c.toNat / 262144 by omega]

theorem toByteArray_eq (text : String) : text.toByteArray = (bytesOf text).toByteArray := by
  rw [← String.utf8Encode_toList, List.utf8Encode, bytesOf, encode]
  simp only [funext encodeChar_eq]

theorem bytesOf_eq (text : String) : bytesOf text = text.toByteArray.data.toList := by
  rw [toByteArray_eq, List.data_toByteArray]

theorem byteCount_eq (text : String) : byteCount text = text.utf8ByteSize := by
  rw [← String.size_toByteArray, toByteArray_eq, List.size_toByteArray]
  rfl

end NodeLink.Text.Utf8
