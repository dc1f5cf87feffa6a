import NodeLink.Proofs.Text.Blank
import NodeLink.Proofs.Text.Numeral
import NodeLink.Text.Base64
/-!
# Base64 keeps every byte

Reading either form gives back the bytes that were written, whichever of the three
lengths the last group has, and no other text is read.  No digit is blank or the
fill character, so a text of digits may be trimmed without loss, and the padding can
be told from the digits.
-/

namespace NodeLink.Text.Base64

/-! ## Digits -/

theorem value?_digit {n : Nat} (hn : n < 64) : value? (digit n) = some n := by
  have hall : ∀ m : Fin 64, value? (digit m) = some m.val := by decide
  exact hall ⟨n, hn⟩

theorem digit_of_le {n : Nat} (hn : 64 ≤ n) : digit n = '/' := by
  unfold digit
  rw [if_neg (by omega), if_neg (by omega), if_neg (by omega), if_neg (by omega)]

theorem digit_ne_fill (n : Nat) : digit n ≠ '=' := by
  have hall : ∀ m : Fin 64, digit m ≠ '=' := by decide
  by_cases hn : n < 64
  · exact hall ⟨n, hn⟩
  · rw [digit_of_le (by omega)]
    decide

@[simp] theorem isBlank_digit (n : Nat) : isBlank (digit n) = false := by
  have hall : ∀ m : Fin 64, isBlank (digit m) = false := by decide
  by_cases hn : n < 64
  · exact hall ⟨n, hn⟩
  · rw [digit_of_le (by omega)]
    decide

theorem ofNat_eq {b : UInt8} {n : Nat} (hn : n = b.toNat) : UInt8.ofNat n = b := by
  rw [hn, UInt8.ofNat_toNat]

/-! ## Groups -/

section

variable (a b c : UInt8)

theorem groupOfTwo_digits :
    groupOfTwo (digit (a.toNat / 4)) (digit (a.toNat % 4 * 16)) = some [a] := by
  have ha := a.toNat_lt
  have hzero : a.toNat % 4 * 16 % 16 = 0 := by omega
  have hfirst : UInt8.ofNat (a.toNat / 4 * 4 + a.toNat % 4 * 16 / 16) = a :=
    ofNat_eq (by omega)
  simp only [groupOfTwo, value?_digit (n := a.toNat / 4) (by omega),
    value?_digit (n := a.toNat % 4 * 16) (by omega), Option.bind_eq_bind, Option.bind_some,
    if_pos hzero, hfirst]

theorem groupOfThree_digits :
    groupOfThree (digit (a.toNat / 4)) (digit (a.toNat % 4 * 16 + b.toNat / 16))
      (digit (b.toNat % 16 * 4)) = some [a, b] := by
  have ha := a.toNat_lt
  have hb := b.toNat_lt
  have hzero : b.toNat % 16 * 4 % 4 = 0 := by omega
  have hfirst : UInt8.ofNat (a.toNat / 4 * 4 + (a.toNat % 4 * 16 + b.toNat / 16) / 16) = a :=
    ofNat_eq (by omega)
  have hsecond : UInt8.ofNat
      ((a.toNat % 4 * 16 + b.toNat / 16) % 16 * 16 + b.toNat % 16 * 4 / 4) = b :=
    ofNat_eq (by omega)
  simp only [groupOfThree, value?_digit (n := a.toNat / 4) (by omega),
    value?_digit (n := a.toNat % 4 * 16 + b.toNat / 16) (by omega),
    value?_digit (n := b.toNat % 16 * 4) (by omega), Option.bind_eq_bind, Option.bind_some,
    if_pos hzero, hfirst, hsecond]

theorem groupOfFour_digits :
    groupOfFour (digit (a.toNat / 4)) (digit (a.toNat % 4 * 16 + b.toNat / 16))
      (digit (b.toNat % 16 * 4 + c.toNat / 64)) (digit (c.toNat % 64)) = some [a, b, c] := by
  have ha := a.toNat_lt
  have hb := b.toNat_lt
  have hc := c.toNat_lt
  have hfirst : UInt8.ofNat (a.toNat / 4 * 4 + (a.toNat % 4 * 16 + b.toNat / 16) / 16) = a :=
    ofNat_eq (by omega)
  have hsecond : UInt8.ofNat ((a.toNat % 4 * 16 + b.toNat / 16) % 16 * 16 +
      (b.toNat % 16 * 4 + c.toNat / 64) / 4) = b :=
    ofNat_eq (by omega)
  have hthird : UInt8.ofNat
      ((b.toNat % 16 * 4 + c.toNat / 64) % 4 * 64 + c.toNat % 64) = c :=
    ofNat_eq (by omega)
  simp only [groupOfFour, value?_digit (n := a.toNat / 4) (by omega),
    value?_digit (n := a.toNat % 4 * 16 + b.toNat / 16) (by omega),
    value?_digit (n := b.toNat % 16 * 4 + c.toNat / 64) (by omega),
    value?_digit (n := c.toNat % 64) (by omega), Option.bind_eq_bind, Option.bind_some,
    hfirst, hsecond, hthird]
  rfl

end

/-! ## Texts -/

/-- Only a group whose last character is the fill character is a short one. -/
theorem decode_group {a b c d : Char} (hd : d ≠ '=') (rest : List Char) :
    decode (a :: b :: c :: d :: rest) =
      (groupOfFour a b c d).bind fun group => (decode rest).map (group ++ ·) := by
  rw [decode]
  · cases groupOfFour a b c d with
    | none => rfl
    | some group => cases decode rest <;> rfl
  · simp [hd]
  · simp [hd]

theorem decode_encode (bytes : List UInt8) : decode (encode bytes) = some bytes := by
  unfold encode
  induction bytes using encodeWith.induct with
  | case1 => rfl
  | case2 a => exact groupOfTwo_digits a
  | case3 a b =>
      have hfill := digit_ne_fill (b.toNat % 16 * 4)
      rw [encodeWith, decode]
      · exact groupOfThree_digits a b
      · simp [hfill]
  | case4 a b c rest ih =>
      have hfill := digit_ne_fill (c.toNat % 64)
      rw [encodeWith, decode_group hfill, groupOfFour_digits, ih]
      rfl

theorem encode_not_blank (bytes : List UInt8) :
    ∀ c ∈ encode bytes, isBlank c = false := by
  have hfill : isBlank '=' = false := by decide
  unfold encode
  induction bytes using encodeWith.induct with
  | case1 => simp [encodeWith]
  | case2 a => simp [encodeWith, hfill]
  | case3 a b => simp [encodeWith, hfill]
  | case4 a b c rest ih => simpa [encodeWith] using ih

theorem trimmed_encode (bytes : List UInt8) : trimmed (encode bytes) = encode bytes :=
  trimmed_of_not_blank (encode_not_blank bytes)

/-! ## Exactness -/

theorem digit_of_value? {c : Char} {n : Nat} (hvalue : value? c = some n) :
    n < 64 ∧ digit n = c := by
  unfold value? at hvalue
  simp only [Bool.and_eq_true, decide_eq_true_eq] at hvalue
  split_ifs at hvalue with hupper hlower hdecimal hplus hslash
  · obtain rfl := Option.some.inj hvalue
    refine ⟨by omega, ?_⟩
    rw [digit, if_pos (by omega), Nat.add_sub_cancel' hupper.1, Char.ofNat_toNat]
  · obtain rfl := Option.some.inj hvalue
    refine ⟨by omega, ?_⟩
    have hcode : 0x61 + (c.toNat - 0x61 + 26) - 26 = c.toNat := by omega
    rw [digit, if_neg (by omega), if_pos (by omega), hcode, Char.ofNat_toNat]
  · obtain rfl := Option.some.inj hvalue
    refine ⟨by omega, ?_⟩
    have hcode : 0x30 + (c.toNat - 0x30 + 52) - 52 = c.toNat := by omega
    rw [digit, if_neg (by omega), if_neg (by omega), if_pos (by omega), hcode, Char.ofNat_toNat]
  · obtain rfl := Option.some.inj hvalue
    exact ⟨by omega, hplus.symm⟩
  · obtain rfl := Option.some.inj hvalue
    exact ⟨by omega, hslash.symm⟩

theorem toNat_ofNat {n : Nat} (hn : n < 256) : (UInt8.ofNat n).toNat = n := by
  rw [UInt8.toNat_ofNat']
  omega

section

variable {a b c d : Char} {bytes : List UInt8}

theorem groupOfTwo_eq_some (hread : groupOfTwo a b = some bytes) :
    ∃ x : UInt8, bytes = [x] ∧ a = digit (x.toNat / 4) ∧ b = digit (x.toNat % 4 * 16) := by
  simp only [groupOfTwo, Option.bind_eq_bind, Option.bind_eq_some_iff] at hread
  obtain ⟨m, hm, n, hn, hread⟩ := hread
  obtain ⟨hm, rfl⟩ := digit_of_value? hm
  obtain ⟨hn, rfl⟩ := digit_of_value? hn
  split_ifs at hread with hzero
  obtain rfl := Option.some.inj hread
  have hx := toNat_ofNat (n := m * 4 + n / 16) (by omega)
  exact ⟨_, rfl, congrArg digit (by omega), congrArg digit (by omega)⟩

theorem groupOfThree_eq_some (hread : groupOfThree a b c = some bytes) :
    ∃ x y : UInt8, bytes = [x, y] ∧ a = digit (x.toNat / 4) ∧
      b = digit (x.toNat % 4 * 16 + y.toNat / 16) ∧ c = digit (y.toNat % 16 * 4) := by
  simp only [groupOfThree, Option.bind_eq_bind, Option.bind_eq_some_iff] at hread
  obtain ⟨m, hm, n, hn, k, hk, hread⟩ := hread
  obtain ⟨hm, rfl⟩ := digit_of_value? hm
  obtain ⟨hn, rfl⟩ := digit_of_value? hn
  obtain ⟨hk, rfl⟩ := digit_of_value? hk
  split_ifs at hread with hzero
  obtain rfl := Option.some.inj hread
  have hx := toNat_ofNat (n := m * 4 + n / 16) (by omega)
  have hy := toNat_ofNat (n := n % 16 * 16 + k / 4) (by omega)
  exact ⟨_, _, rfl, congrArg digit (by omega), congrArg digit (by omega),
    congrArg digit (by omega)⟩

theorem groupOfFour_eq_some (hread : groupOfFour a b c d = some bytes) :
    ∃ x y z : UInt8, bytes = [x, y, z] ∧ a = digit (x.toNat / 4) ∧
      b = digit (x.toNat % 4 * 16 + y.toNat / 16) ∧
      c = digit (y.toNat % 16 * 4 + z.toNat / 64) ∧ d = digit (z.toNat % 64) := by
  simp only [groupOfFour, Option.bind_eq_bind, Option.bind_eq_some_iff] at hread
  obtain ⟨m, hm, n, hn, k, hk, l, hl, hread⟩ := hread
  obtain ⟨hm, rfl⟩ := digit_of_value? hm
  obtain ⟨hn, rfl⟩ := digit_of_value? hn
  obtain ⟨hk, rfl⟩ := digit_of_value? hk
  obtain ⟨hl, rfl⟩ := digit_of_value? hl
  obtain rfl := Option.some.inj hread
  have hx := toNat_ofNat (n := m * 4 + n / 16) (by omega)
  have hy := toNat_ofNat (n := n % 16 * 16 + k / 4) (by omega)
  have hz := toNat_ofNat (n := k % 4 * 64 + l) (by omega)
  exact ⟨_, _, _, rfl, congrArg digit (by omega), congrArg digit (by omega),
    congrArg digit (by omega), congrArg digit (by omega)⟩

end

theorem encodeWith_group (fill : List Char) {a b c d : Char} {text : List Char}
    {group bytes : List UInt8} (hgroup : groupOfFour a b c d = some group)
    (htext : text = encodeWith fill bytes) :
    a :: b :: c :: d :: text = encodeWith fill (group ++ bytes) := by
  obtain ⟨x, y, z, rfl, rfl, rfl, rfl, rfl⟩ := groupOfFour_eq_some hgroup
  rw [htext]
  rfl

theorem eq_encode_of_decode {text : List Char} {bytes : List UInt8}
    (hread : decode text = some bytes) : text = encode bytes := by
  fun_induction decode text generalizing bytes with
  | case1 =>
      obtain rfl := Option.some.inj hread
      rfl
  | case2 a b =>
      obtain ⟨x, rfl, rfl, rfl⟩ := groupOfTwo_eq_some hread
      rfl
  | case3 a b c =>
      obtain ⟨x, y, rfl, rfl, rfl, rfl⟩ := groupOfThree_eq_some hread
      rfl
  | case4 a b c d rest _ _ ih =>
      simp only [Option.bind_eq_bind, Option.bind_eq_some_iff] at hread
      obtain ⟨group, hgroup, others, hothers, hbytes⟩ := hread
      obtain rfl := Option.some.inj hbytes
      exact encodeWith_group ['='] hgroup (ih hothers)
  | case5 => cases hread

theorem decode_eq_some_iff {text : List Char} {bytes : List UInt8} :
    decode text = some bytes ↔ text = encode bytes :=
  ⟨eq_encode_of_decode, fun htext => htext ▸ decode_encode bytes⟩

theorem eq_encodeBare_of_decodeBare {text : List Char} {bytes : List UInt8}
    (hread : decodeBare text = some bytes) : text = encodeBare bytes := by
  fun_induction decodeBare text generalizing bytes with
  | case1 =>
      obtain rfl := Option.some.inj hread
      rfl
  | case2 => cases hread
  | case3 a b =>
      obtain ⟨x, rfl, rfl, rfl⟩ := groupOfTwo_eq_some hread
      rfl
  | case4 a b c =>
      obtain ⟨x, y, rfl, rfl, rfl, rfl⟩ := groupOfThree_eq_some hread
      rfl
  | case5 a b c d rest ih =>
      simp only [Option.bind_eq_bind, Option.bind_eq_some_iff] at hread
      obtain ⟨group, hgroup, others, hothers, hbytes⟩ := hread
      obtain rfl := Option.some.inj hbytes
      exact encodeWith_group [] hgroup (ih hothers)

theorem decodeBare_encodeBare (bytes : List UInt8) :
    decodeBare (encodeBare bytes) = some bytes := by
  unfold encodeBare
  induction bytes using encodeWith.induct with
  | case1 => rfl
  | case2 a => exact groupOfTwo_digits a
  | case3 a b => exact groupOfThree_digits a b
  | case4 a b c rest ih =>
      rw [encodeWith, decodeBare, groupOfFour_digits, ih]
      rfl

theorem decodeBare_eq_some_iff {text : List Char} {bytes : List UInt8} :
    decodeBare text = some bytes ↔ text = encodeBare bytes :=
  ⟨eq_encodeBare_of_decodeBare, fun htext => htext ▸ decodeBare_encodeBare bytes⟩

/-! ## Padding -/

def withoutFill (text : List Char) : List Char := text.rdropWhile (· = '=')

theorem isDigit_of_mem_encodeBare (bytes : List UInt8) :
    ∀ c ∈ encodeBare bytes, (value? c).isSome = true := by
  have hdigit {n : Nat} (hn : n < 64) : (value? (digit n)).isSome = true := by
    rw [value?_digit hn, Option.isSome_some]
  unfold encodeBare
  induction bytes using encodeWith.induct with
  | case1 => simp [encodeWith]
  | case2 a =>
      have ha := a.toNat_lt
      simp only [encodeWith, List.append_nil, List.mem_cons, List.not_mem_nil, or_false]
      rintro c (rfl | rfl)
      · exact hdigit (by omega)
      · exact hdigit (by omega)
  | case3 a b =>
      have ha := a.toNat_lt
      have hb := b.toNat_lt
      simp only [encodeWith, List.mem_cons, List.not_mem_nil, or_false]
      rintro c (rfl | rfl | rfl)
      · exact hdigit (by omega)
      · exact hdigit (by omega)
      · exact hdigit (by omega)
  | case4 a b c rest ih =>
      have ha := a.toNat_lt
      have hb := b.toNat_lt
      have hc := c.toNat_lt
      simp only [encodeWith, List.mem_cons]
      rintro e (rfl | rfl | rfl | rfl | hrest)
      · exact hdigit (by omega)
      · exact hdigit (by omega)
      · exact hdigit (by omega)
      · exact hdigit (by omega)
      · exact ih e hrest

theorem ne_fill_of_value? {c : Char} (hdigit : (value? c).isSome = true) : c ≠ '=' := by
  rintro rfl
  cases hdigit

theorem withoutFill_append {digits : List Char}
    (hlast : ∀ c, digits.getLast? = some c → (value? c).isSome = true) (count : Nat) :
    withoutFill (digits ++ List.replicate count '=') = digits := by
  have hstop (c : Char) (hhead : digits.reverse.head? = some c) : decide (c = '=') = false := by
    rw [List.head?_reverse] at hhead
    exact decide_eq_false (ne_fill_of_value? (hlast c hhead))
  rw [withoutFill, List.rdropWhile, List.reverse_append,
    dropWhile_append_of_stop (by simp) hstop, List.reverse_reverse]

/-- Padding fills up the last group and does nothing else. -/
theorem exists_fill (bytes : List UInt8) :
    ∃ count, encode bytes = encodeBare bytes ++ List.replicate count '=' := by
  unfold encode encodeBare
  induction bytes using encodeWith.induct with
  | case1 => exact ⟨0, rfl⟩
  | case2 a => exact ⟨2, rfl⟩
  | case3 a b => exact ⟨1, rfl⟩
  | case4 a b c rest ih =>
      obtain ⟨count, hrest⟩ := ih
      exact ⟨count, by rw [encodeWith, encodeWith, hrest]; rfl⟩

theorem withoutFill_encodeBare_append (bytes : List UInt8) (count : Nat) :
    withoutFill (encodeBare bytes ++ List.replicate count '=') = encodeBare bytes :=
  withoutFill_append
    (fun c hlast => isDigit_of_mem_encodeBare bytes c (List.mem_of_getLast? hlast)) count

theorem withoutFill_encode (bytes : List UInt8) :
    withoutFill (encode bytes) = encodeBare bytes := by
  obtain ⟨count, hfill⟩ := exists_fill bytes
  rw [hfill, withoutFill_encodeBare_append]

theorem encodeBare_inj {bytes others : List UInt8} :
    encodeBare bytes = encodeBare others ↔ bytes = others := by
  rw [← decodeBare_eq_some_iff, decodeBare_encodeBare, Option.some.injEq]

theorem eq_of_append_singleton {before front : List Char} {final last : Char}
    (htext : before ++ [final] = front ++ [last]) : before = front ∧ final = last := by
  obtain ⟨hfront, hend⟩ := List.append_inj' htext rfl
  exact ⟨hfront, (List.cons.inj hend).1⟩

/-- The bits that a short last group leaves over are zero. -/
theorem spare_bits_encodeBare {bytes : List UInt8} {front : List Char} {last : Char} {n : Nat}
    (htext : encodeBare bytes = front ++ [last]) (hlast : value? last = some n) :
    (front.length % 4 = 1 → n % 16 = 0) ∧ (front.length % 4 = 2 → n % 4 = 0) := by
  unfold encodeBare at htext
  induction bytes using encodeWith.induct generalizing front with
  | case1 => simp [encodeWith] at htext
  | case2 a =>
      have htext : [digit (a.toNat / 4)] ++ [digit (a.toNat % 4 * 16)] = front ++ [last] := htext
      obtain ⟨rfl, rfl⟩ := eq_of_append_singleton htext
      obtain rfl := Option.some.inj ((value?_digit (by omega)).symm.trans hlast)
      simp only [List.length_singleton]
      omega
  | case3 a b =>
      have hb := b.toNat_lt
      have htext : [digit (a.toNat / 4), digit (a.toNat % 4 * 16 + b.toNat / 16)] ++
          [digit (b.toNat % 16 * 4)] = front ++ [last] := htext
      obtain ⟨rfl, rfl⟩ := eq_of_append_singleton htext
      obtain rfl := Option.some.inj ((value?_digit (by omega)).symm.trans hlast)
      simp only [List.length_cons, List.length_nil]
      omega
  | case4 a b c rest ih =>
      rcases List.eq_nil_or_concat (encodeWith [] rest) with hnone | ⟨before, final, hrest⟩
      -- the last group is a full one and leaves no bits over
      · have hlength := congrArg List.length htext
        simp only [encodeWith, hnone, List.length_cons, List.length_nil,
          List.length_append] at hlength
        omega
      · rw [List.concat_eq_append] at hrest
        rw [encodeWith, hrest] at htext
        simp only [← List.cons_append] at htext
        obtain ⟨rfl, rfl⟩ := eq_of_append_singleton htext
        simp only [List.length_cons, Nat.add_assoc, Nat.add_mod_right]
        exact ih hrest

end NodeLink.Text.Base64
