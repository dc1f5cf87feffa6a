import NodeLink.Address.Ipv6
import NodeLink.Proofs.Text.Numeral
/-!
# The texts of IP addresses

An IPv4 address has one text.  An IPv6 address has many: its words may be written
with leading zeros and in either case, an IPv4 address may stand for the last
two of them, and `::` for some zeros.  The readers take just these texts.
-/

namespace NodeLink.Address

open NodeLink.Text

theorem expect_eq_some_iff {c : Char} {text rest : List Char} :
    expect c text = some rest ↔ text = c :: rest := by
  cases text with
  | nil => simp [expect]
  | cons first others =>
      unfold expect
      by_cases hfirst : first = c
      · simp [hfirst]
      · simp [hfirst]

/-! ## IPv4 -/

namespace Ipv4

theorem octetText_short (octet : UInt8) : (octetText octet).length ≤ 3 := by
  have hall : ∀ n < 256, (Nat.toDigits 10 n).length ≤ 3 := by decide +kernel
  exact hall octet.toNat octet.toNat_lt

theorem isDigit_octetText (octet : UInt8) : ∀ c ∈ octetText octet, Numeral.isDigit c = true := by
  intro c hc
  rw [Numeral.isDigit_eq]
  exact Numeral.isDigit_of_mem_toDigits hc

theorem octetOf?_eq_some_iff {digits : List Char} {octet : UInt8} :
    octetOf? digits = some octet ↔ digits = octetText octet := by
  constructor
  · intro hread
    unfold octetOf? at hread
    split_ifs at hread with hlong
    obtain ⟨n, hn, rfl⟩ := Option.map_eq_some_iff.mp hread
    obtain ⟨hdenotes, hbound⟩ := Numeral.digitsWithin?_eq_some_iff.mp hn
    have hsame : (UInt8.ofNat n).toNat = n := by
      rw [UInt8.toNat_ofNat']
      omega
    rw [octetText, hsame]
    apply hdenotes.eq_toDigits
    intro hzero
    simp only [hzero, BEq.rfl, Bool.true_and, Bool.or_eq_true, decide_eq_true_eq, not_or,
      Nat.not_lt] at hlong
    obtain ⟨rest, rfl⟩ := List.head?_eq_some_iff.mp hzero
    have hnone : rest = [] := List.eq_nil_of_length_eq_zero (by simpa using hlong.2)
    rw [hnone]
  · rintro rfl
    have hdenotes : Numeral.Denotes (octetText octet) octet.toNat :=
      Numeral.denotes_toDigits octet.toNat
    have hshort := octetText_short octet
    have hlead : ¬((octetText octet).head? = some '0' ∧ 1 < (octetText octet).length) := by
      rintro ⟨hhead, hlong⟩
      rcases Nat.eq_zero_or_pos octet.toNat with hzero | hpositive
      · rw [octetText, Numeral.ofNat, hzero] at hlong
        exact absurd hlong (by decide)
      · exact Numeral.head_toDigits_ne_zero hpositive hhead
    have hread : Numeral.digitsWithin? 255 (octetText octet) = some octet.toNat :=
      Numeral.digitsWithin?_eq_some_iff.mpr ⟨hdenotes, Nat.le_of_lt_succ octet.toNat_lt⟩
    unfold octetOf?
    rw [if_neg (by simpa [hshort] using hlead), hread, Option.map_some, UInt8.ofNat_toNat]

theorem readOctet_eq_some {text rest : List Char} {octet : UInt8}
    (hread : readOctet text = some (octet, rest)) : text = octetText octet ++ rest := by
  obtain ⟨found, hfound, hpair⟩ := Option.map_eq_some_iff.mp hread
  obtain ⟨rfl, rfl⟩ := Prod.mk.inj hpair
  rw [← octetOf?_eq_some_iff.mp hfound, List.takeWhile_append_dropWhile]

theorem readOctet_append {octet : UInt8} {rest : List Char}
    (hstop : ∀ c, rest.head? = some c → Numeral.isDigit c = false) :
    readOctet (octetText octet ++ rest) = some (octet, rest) := by
  have hdigits := isDigit_octetText octet
  rw [readOctet, takeWhile_append_of_stop hdigits hstop, dropWhile_append_of_stop hdigits hstop,
    octetOf?_eq_some_iff.mpr rfl, Option.map_some]

theorem read_eq_some {text rest : List Char} {ip : Ipv4} (hread : read text = some (ip, rest)) :
    text = ip.render ++ rest := by
  simp only [read, Option.bind_eq_bind, Option.bind_eq_some_iff, expect_eq_some_iff] at hread
  obtain ⟨⟨a, afterA⟩, ha, _, rfl, ⟨b, afterB⟩, hb, _, rfl, ⟨c, afterC⟩, hc, _, rfl, ⟨d, afterD⟩,
    hd, hip⟩ := hread
  obtain ⟨rfl, rfl⟩ := Prod.mk.inj (Option.some.inj hip)
  rw [readOctet_eq_some ha, readOctet_eq_some hb, readOctet_eq_some hc, readOctet_eq_some hd]
  simp [render]

theorem read_append {ip : Ipv4} {rest : List Char}
    (hstop : ∀ c, rest.head? = some c → Numeral.isDigit c = false) :
    read (ip.render ++ rest) = some (ip, rest) := by
  have hdot : Numeral.isDigit '.' = false := rfl
  simp only [render, List.append_assoc, List.cons_append, read, readOctet_append (stop_cons hdot _),
    Option.bind_eq_bind, Option.bind_some, expect, if_true, readOctet_append hstop]
  rfl

theorem ofText?_eq_some_iff {text : List Char} {ip : Ipv4} :
    ofText? text = some ip ↔ text = ip.render := by
  constructor
  · intro hread
    unfold ofText? at hread
    split at hread
    next found hfound =>
      obtain rfl := Option.some.inj hread
      simpa using read_eq_some hfound
    next => cases hread
  · rintro rfl
    have hread : read (ip.render ++ []) = some (ip, []) := read_append (by simp)
    rw [List.append_nil] at hread
    rw [ofText?, hread]

/-- Only digits and dots can be read as an address, and not without a dot. -/
theorem dot_of_read {text rest : List Char} {ip : Ipv4} (hread : read text = some (ip, rest)) :
    (text.dropWhile Numeral.isDigit).head? = some '.' := by
  rw [read_eq_some hread, render, List.append_assoc, List.cons_append,
    dropWhile_append_of_stop (isDigit_octetText _) (stop_cons rfl _)]
  rfl

theorem length_words (ip : Ipv4) : ip.words.length = 2 := rfl

theorem colon_not_mem_render (ip : Ipv4) : ':' ∉ ip.render := by
  have hoctet (octet : UInt8) : ':' ∉ octetText octet := fun hmem =>
    absurd (isDigit_octetText octet ':' hmem) (by decide)
  simp [render, hoctet]

end Ipv4

/-! ## IPv6 -/

namespace Ipv6

/-- One to four hexadecimal digits, and the word that they are worth. -/
def IsWord (digits : List Char) (word : UInt16) : Prop :=
  digits.length ≤ 4 ∧ Hex.number? digits = some word.toNat

/-- Words with colons between them, of which the last two may be an IPv4 address; whether
they are is told in front. -/
inductive Words : Bool → List Char → List UInt16 → Prop
  | one {digits : List Char} {word : UInt16} (hword : IsWord digits word) :
      Words false digits [word]
  | embedded (ip : Ipv4) : Words true ip.render ip.words
  | cons {embeds : Bool} {digits rest : List Char} {word : UInt16} {words : List UInt16}
      (hword : IsWord digits word) (hrest : Words embeds rest words) :
      Words embeds (digits ++ ':' :: rest) (word :: words)

/-- One side of a `::`, where there may be no words at all. -/
inductive Side : Bool → List Char → List UInt16 → Prop
  | none : Side false [] []
  | some {embeds : Bool} {text : List Char} {words : List UInt16}
      (hwords : Words embeds text words) : Side embeds text words

/-- The texts of the eight words of an address: all of them, or a `::` in the place of at
least one zero. -/
inductive Literal : List Char → List UInt16 → Prop
  | full {embeds : Bool} {text : List Char} {words : List UInt16}
      (hwords : Words embeds text words) (hall : words.length = 8) : Literal text words
  | shortened {embeds : Bool} {before after : List Char} {head tail : List UInt16}
      (hhead : Side false before head) (htail : Side embeds after tail)
      (hfew : head.length + tail.length ≤ 7) :
      Literal (before ++ ':' :: ':' :: after)
        (head ++ List.replicate (8 - head.length - tail.length) 0 ++ tail)

/-! ### Words -/

theorem value?_lt {c : Char} {n : Nat} (hvalue : Hex.value? c = some n) : n < 16 := by
  unfold Hex.value? at hvalue
  simp only [Bool.and_eq_true, decide_eq_true_eq] at hvalue
  split_ifs at hvalue with hdecimal hlower hupper
  all_goals
    obtain rfl := Option.some.inj hvalue
    omega

theorem foldlM_value? {digits : List Char} {total n : Nat}
    (hread : digits.foldlM (fun total c => (Hex.value? c).map (total * 16 + ·)) total = some n) :
    (∀ c ∈ digits, Hex.isDigit c = true) ∧ n < (total + 1) * Nat.pow 16 digits.length := by
  induction digits generalizing total with
  | nil =>
      obtain rfl : total = n := Option.some.inj hread
      simp
  | cons c digits ih =>
      rw [List.foldlM_cons, Option.bind_eq_bind, Option.bind_eq_some_iff] at hread
      obtain ⟨next, hnext, hread⟩ := hread
      obtain ⟨value, hvalue, rfl⟩ := Option.map_eq_some_iff.mp hnext
      obtain ⟨hdigits, hbound⟩ := ih hread
      have hsmall := value?_lt hvalue
      refine ⟨?_, Nat.lt_of_lt_of_le hbound ?_⟩
      · simpa [Hex.isDigit, hvalue] using hdigits
      · have hpow : Nat.pow 16 (c :: digits).length = 16 * Nat.pow 16 digits.length :=
          Nat.pow_succ'
        rw [hpow, ← Nat.mul_assoc]
        exact Nat.mul_le_mul_right _ (by omega)

theorem IsWord.solid {digits : List Char} {word : UInt16} (hword : IsWord digits word) :
    digits ≠ [] ∧ ∀ c ∈ digits, Hex.isDigit c = true := by
  obtain ⟨-, hnumber⟩ := hword
  cases digits with
  | nil => cases hnumber
  | cons c digits => exact ⟨by simp, (foldlM_value? hnumber).1⟩

theorem readWord_eq_some {text rest : List Char} {word : UInt16}
    (hread : readWord text = some (word, rest)) :
    ∃ digits, text = digits ++ rest ∧ IsWord digits word := by
  unfold readWord at hread
  simp only at hread
  split_ifs at hread with hlong
  obtain ⟨n, hnumber, hpair⟩ := Option.map_eq_some_iff.mp hread
  obtain ⟨rfl, rfl⟩ := Prod.mk.inj hpair
  refine ⟨text.takeWhile Hex.isDigit, List.takeWhile_append_dropWhile.symm,
    Nat.not_lt.mp hlong, ?_⟩
  have hbound : n < 65536 := by
    have hvalue : (text.takeWhile Hex.isDigit).foldlM
        (fun total c => (Hex.value? c).map (total * 16 + ·)) 0 = some n := by
      unfold Hex.number? at hnumber
      split at hnumber
      next => cases hnumber
      next => exact hnumber
    calc
      n < (0 + 1) * Nat.pow 16 (text.takeWhile Hex.isDigit).length := (foldlM_value? hvalue).2
      _ ≤ (0 + 1) * Nat.pow 16 4 :=
        Nat.mul_le_mul_left _ (Nat.pow_le_pow_right (by omega) (Nat.not_lt.mp hlong))
      _ = 65536 := by decide
  have hsame : (UInt16.ofNat n).toNat = n := by
    rw [UInt16.toNat_ofNat']
    omega
  rw [hsame]
  exact hnumber

theorem readWord_append {digits rest : List Char} {word : UInt16} (hword : IsWord digits word)
    (hstop : ∀ c, rest.head? = some c → Hex.isDigit c = false) :
    readWord (digits ++ rest) = some (word, rest) := by
  have hhex := hword.solid.2
  have htake : (digits ++ rest).takeWhile Hex.isDigit = digits :=
    takeWhile_append_of_stop hhex hstop
  have hdrop : (digits ++ rest).dropWhile Hex.isDigit = rest :=
    dropWhile_append_of_stop hhex hstop
  show (if 4 < ((digits ++ rest).takeWhile Hex.isDigit).length then none
    else (Hex.number? ((digits ++ rest).takeWhile Hex.isDigit)).map fun n =>
      (UInt16.ofNat n, (digits ++ rest).dropWhile Hex.isDigit)) = some (word, rest)
  rw [htake, hdrop, if_neg (Nat.not_lt.mpr hword.1), hword.2, Option.map_some, UInt16.ofNat_toNat]

/-! ### Groups of words -/

theorem separated_false_eq_some_iff {text rest : List Char} :
    separated false text = some rest ↔ text = ':' :: rest := by
  simp only [separated, Bool.false_eq_true, if_false, expect_eq_some_iff]

theorem readGroups_sound {limit : Nat} {first embeds : Bool} {text rest : List Char}
    {words : List UInt16} (hread : readGroups limit first text = (words, embeds, rest)) :
    words.length ≤ limit ∧ ((words = [] ∧ embeds = false ∧ rest = text) ∨
      ∃ front, separated first text = some (front ++ rest) ∧ Words embeds front words) := by
  induction limit generalizing first text words embeds rest with
  | zero =>
      cases hread
      exact ⟨Nat.le_refl _, .inl ⟨rfl, rfl, rfl⟩⟩
  | succ limit ih =>
      unfold readGroups at hread
      simp only at hread
      split at hread
      next ip after hembedded =>
        split_ifs at hembedded with hlimit
        obtain ⟨inner, hinner, hip⟩ := Option.bind_eq_some_iff.mp hembedded
        cases hread
        refine ⟨?_, .inr ⟨ip.render, ?_, .embedded ip⟩⟩
        · rw [Ipv4.length_words]
          omega
        · rw [hinner, Ipv4.read_eq_some hip]
      next =>
        split at hread
        next =>
          cases hread
          exact ⟨Nat.zero_le _, .inl ⟨rfl, rfl, rfl⟩⟩
        next word after hword =>
          obtain ⟨inner, hinner, hword⟩ := Option.bind_eq_some_iff.mp hword
          obtain ⟨digits, rfl, hdigits⟩ := readWord_eq_some hword
          cases hlater : readGroups limit false after with
          | mk later pair =>
              obtain ⟨laterEmbeds, laterRest⟩ := pair
              rw [hlater] at hread
              cases hread
              obtain ⟨hlength, hcases⟩ := ih hlater
              refine ⟨Nat.succ_le_succ hlength, .inr ?_⟩
              rcases hcases with ⟨rfl, rfl, rfl⟩ | ⟨front, hfront, hwords⟩
              · exact ⟨digits, hinner, .one hdigits⟩
              · obtain rfl := separated_false_eq_some_iff.mp hfront
                exact ⟨digits ++ ':' :: front, by rw [hinner]; simp, .cons hdigits hwords⟩

/-- Where reading words comes to an end: behind the last of them, before a `::`, or before
a character that can neither go on with a word nor follow one. -/
inductive Stops : List Char → Prop
  | nil : Stops []
  | colons (rest : List Char) : Stops (':' :: ':' :: rest)
  | foreign {c : Char} (rest : List Char) (hdigit : Hex.isDigit c = false) (hcolon : c ≠ ':')
      (hdot : c ≠ '.') : Stops (c :: rest)

theorem hexDigit_of_isDigit {c : Char} (hdigit : Numeral.isDigit c = true) :
    Hex.isDigit c = true := by
  rw [Numeral.isDigit_eq, Numeral.isDigit_iff] at hdigit
  have hvalue : Hex.value? c = some (c.toNat - 0x30) :=
    if_pos (by simpa using hdigit)
  rw [Hex.isDigit, hvalue, Option.isSome_some]

theorem not_isDigit_of_hexDigit {c : Char} (hdigit : Hex.isDigit c = false) :
    Numeral.isDigit c = false := by
  by_contra hdecimal
  simp [hexDigit_of_isDigit (Bool.not_eq_false _ ▸ hdecimal)] at hdigit

/-- A character that may follow a word ends both its digits and a part of an IPv4 address. -/
theorem Stops.head {rest : List Char} (hstops : Stops rest) :
    ∀ c, rest.head? = some c → Hex.isDigit c = false ∧ c ≠ '.' := by
  intro c hhead
  cases hstops with
  | nil => cases hhead
  | colons rest =>
      obtain rfl : ':' = c := Option.some.inj hhead
      exact ⟨rfl, by decide⟩
  | foreign rest hdigit _ hdot =>
      obtain rfl := Option.some.inj hhead
      exact ⟨hdigit, hdot⟩

theorem read_eq_none_of_word {digits after : List Char} {word : UInt16}
    (hword : IsWord digits word)
    (hafter : ∀ c, after.head? = some c → Hex.isDigit c = false ∧ c ≠ '.') :
    Ipv4.read (digits ++ after) = none := by
  have hhex := hword.solid.2
  have hhead : ((digits ++ after).dropWhile Numeral.isDigit).head? ≠ some '.' := by
    clear hword
    induction digits with
    | nil =>
        cases after with
        | nil => simp
        | cons c after =>
            obtain ⟨hdigit, hdot⟩ := hafter c rfl
            simp [not_isDigit_of_hexDigit hdigit, hdot]
    | cons c digits ih =>
        rw [List.cons_append, List.dropWhile_cons]
        split_ifs with hdigit
        · exact ih fun d hd => hhex d (List.mem_cons_of_mem c hd)
        · intro hdot
          obtain rfl : c = '.' := Option.some.inj hdot
          exact absurd (hhex '.' List.mem_cons_self) (by decide)
  cases hread : Ipv4.read (digits ++ after) with
  | none => rfl
  | some pair => exact absurd (Ipv4.dot_of_read hread) hhead

theorem readGroups_word {limit : Nat} {first : Bool} {text digits after : List Char}
    {word : UInt16} (hword : IsWord digits word)
    (hafter : ∀ c, after.head? = some c → Hex.isDigit c = false ∧ c ≠ '.')
    (htext : separated first text = some (digits ++ after)) :
    readGroups (limit + 1) first text =
      (word :: (readGroups limit false after).1, (readGroups limit false after).2) := by
  have hstop (c : Char) (hhead : after.head? = some c) : Hex.isDigit c = false :=
    (hafter c hhead).1
  rw [readGroups]
  simp only [htext, Option.bind_some, read_eq_none_of_word hword hafter, ite_self,
    readWord_append hword hstop]

theorem readGroups_stop {limit : Nat} {rest : List Char} (hstops : Stops rest) (first : Bool)
    (hfirst : first = true → rest ≠ []) :
    readGroups limit first rest = ([], false, rest) := by
  cases limit with
  | zero => rfl
  | succ limit =>
      have hread : (separated first rest).bind readWord = none ∧
          (separated first rest).bind Ipv4.read = none := by
        cases hstops with
        | nil => cases first <;> exact ⟨rfl, rfl⟩
        | colons rest => cases first <;> exact ⟨rfl, rfl⟩
        | @foreign c rest hdigit hcolon hdot =>
            cases first with
            | false => simp [separated, expect, hcolon]
            | true =>
                have hother := not_isDigit_of_hexDigit hdigit
                have hword : readWord (c :: rest) = none := by
                  have htake : (c :: rest).takeWhile Hex.isDigit = [] := by simp [hdigit]
                  show (if 4 < ((c :: rest).takeWhile Hex.isDigit).length then none
                    else (Hex.number? ((c :: rest).takeWhile Hex.isDigit)).map fun n =>
                      (UInt16.ofNat n, (c :: rest).dropWhile Hex.isDigit)) = none
                  rw [htake]
                  rfl
                have hdots : ((c :: rest).dropWhile Numeral.isDigit).head? ≠ some '.' := by
                  simp [hother, hdot]
                refine ⟨hword, ?_⟩
                cases hread : Ipv4.read (c :: rest) with
                | none => simp [separated, hread]
                | some pair => exact absurd (Ipv4.dot_of_read hread) hdots
      unfold readGroups
      simp only [hread.1, hread.2, ite_self]

theorem readGroups_complete {limit : Nat} {first embeds : Bool} {text front rest : List Char}
    {words : List UInt16} (hwords : Words embeds front words) (hlimit : words.length ≤ limit)
    (htext : separated first text = some (front ++ rest)) (hstops : Stops rest) :
    readGroups limit first text = (words, embeds, rest) := by
  induction hwords generalizing limit first text with
  | @one digits word hword =>
      obtain ⟨limit, rfl⟩ : ∃ less, limit = less + 1 := ⟨limit - 1, by simp at hlimit; omega⟩
      rw [readGroups_word hword hstops.head htext, readGroups_stop hstops false (by simp)]
  | embedded ip =>
      rw [Ipv4.length_words] at hlimit
      obtain ⟨limit, rfl⟩ : ∃ less, limit = less + 1 := ⟨limit - 1, by omega⟩
      have hread : Ipv4.read (ip.render ++ rest) = some (ip, rest) :=
        Ipv4.read_append fun c hhead => not_isDigit_of_hexDigit (hstops.head c hhead).1
      unfold readGroups
      simp only [if_neg (show limit ≠ 0 by omega), htext, Option.bind_some, hread]
  | @cons embeds digits later word words hword _ ih =>
      rw [List.length_cons] at hlimit
      obtain ⟨limit, rfl⟩ : ∃ less, limit = less + 1 := ⟨limit - 1, by omega⟩
      have hafter (c : Char) (hhead : (':' :: (later ++ rest)).head? = some c) :
          Hex.isDigit c = false ∧ c ≠ '.' := by
        obtain rfl : ':' = c := Option.some.inj hhead
        exact ⟨rfl, by decide⟩
      rw [List.append_assoc, List.cons_append] at htext
      rw [readGroups_word hword hafter htext, ih (by omega) (separated_false_eq_some_iff.mpr rfl)]

/-! ### Addresses -/

theorem side_of_readGroups {limit : Nat} {embeds : Bool} {text rest : List Char}
    {words : List UInt16} (hread : readGroups limit true text = (words, embeds, rest)) :
    words.length ≤ limit ∧ ∃ front, text = front ++ rest ∧ Side embeds front words := by
  obtain ⟨hlength, ⟨rfl, rfl, rfl⟩ | ⟨front, hfront, hwords⟩⟩ := readGroups_sound hread
  · exact ⟨hlength, [], rfl, .none⟩
  · exact ⟨hlength, front, Option.some.inj hfront, .some hwords⟩

theorem Side.readGroups {limit : Nat} {embeds : Bool} {front rest : List Char}
    {words : List UInt16} (hside : Side embeds front words) (hlimit : words.length ≤ limit)
    (hstops : Stops rest) :
    readGroups limit true (front ++ rest) = (words, embeds, rest) := by
  cases hside with
  | none =>
      cases rest with
      | nil =>
          cases limit with
          | zero => rfl
          | succ limit => cases limit <;> rfl
      | cons c rest => exact readGroups_stop hstops true (by simp)
  | some hwords => exact readGroups_complete hwords hlimit rfl hstops

theorem Literal.colon_mem {text : List Char} {words : List UInt16} (hliteral : Literal text words) :
    ':' ∈ text := by
  cases hliteral with
  | full hwords hall =>
      cases hwords with
      | one hword => cases hall
      | embedded ip => cases hall
      | cons hword hrest => simp
  | shortened hhead htail hfew => simp

theorem ofWords?_eq_some_iff {words : List UInt16} {ip : Ipv6} :
    ofWords? words = some ip ↔ ip.words = words := by
  unfold ofWords?
  obtain ⟨found, hfound⟩ := ip
  split_ifs with hall
  · simp [eq_comm]
  · constructor
    · intro hnone
      cases hnone
    · rintro rfl
      exact absurd hfound hall

theorem literal_of_read {text rest : List Char} {ip : Ipv6} (hread : read text = some (ip, rest)) :
    ∃ front, text = front ++ rest ∧ Literal front ip.words := by
  unfold read at hread
  cases hhead : readGroups 8 true text with
  | mk head pair =>
      obtain ⟨embeds, behind⟩ := pair
      obtain ⟨hlength, front, rfl, hside⟩ := side_of_readGroups hhead
      rw [hhead] at hread
      simp only at hread
      split_ifs at hread with hall hembeds
      · obtain ⟨found, hfound, hpair⟩ := Option.bind_eq_some_iff.mp hread
        obtain ⟨rfl, rfl⟩ := Prod.mk.inj (Option.some.inj hpair)
        refine ⟨front, rfl, ?_⟩
        rw [ofWords?_eq_some_iff.mp hfound]
        cases hside with
        | none => cases hall
        | some hwords => exact .full hwords hall
      · simp only [Option.bind_eq_bind, Option.bind_eq_some_iff, expect_eq_some_iff] at hread
        obtain ⟨_, rfl, after, rfl, hread⟩ := hread
        cases htail : readGroups (7 - head.length) true after with
        | mk tail pair =>
            obtain ⟨tailEmbeds, last⟩ := pair
            obtain ⟨hfew, inner, rfl, htailSide⟩ := side_of_readGroups htail
            simp only [htail] at hread
            obtain ⟨found, hfound, hpair⟩ := hread
            obtain ⟨rfl, rfl⟩ := Prod.mk.inj (Option.some.inj hpair)
            rw [Bool.not_eq_true] at hembeds
            subst hembeds
            refine ⟨front ++ ':' :: ':' :: inner, by simp, ?_⟩
            rw [ofWords?_eq_some_iff.mp hfound]
            exact .shortened hside htailSide (by omega)

theorem read_of_literal {text rest : List Char} {ip : Ipv6} (hliteral : Literal text ip.words)
    (hstops : Stops rest) : read (text ++ rest) = some (ip, rest) := by
  generalize hip : ip.words = words at hliteral
  have hfound := ofWords?_eq_some_iff.mpr hip
  cases hliteral with
  | full hwords hall =>
      have hread := (Side.some hwords).readGroups (Nat.le_of_eq hall) hstops
      unfold read
      simp only [hread, if_pos hall, hfound]
      rfl
  | @shortened embeds before after head tail hhead htail hfew =>
      have hfirst :=
        hhead.readGroups (show head.length ≤ 8 by omega) (.colons (after ++ rest))
      have hsecond := htail.readGroups (show tail.length ≤ 7 - head.length by omega) hstops
      have htext : before ++ ':' :: ':' :: after ++ rest =
          before ++ ':' :: ':' :: (after ++ rest) := by simp
      unfold read
      rw [htext]
      simp only [hfirst, if_neg (show head.length ≠ 8 by omega), Bool.false_eq_true, if_false,
        expect, if_true, Option.bind_eq_bind, Option.bind_some, hsecond, hfound]
      rfl

/-- The texts that are read as an address are those of its words. -/
theorem ofText?_eq_some_iff {text : List Char} {ip : Ipv6} :
    ofText? text = some ip ↔ Literal text ip.words := by
  constructor
  · intro hread
    unfold ofText? at hread
    split at hread
    next found hfound =>
      obtain rfl := Option.some.inj hread
      obtain ⟨front, rfl, hliteral⟩ := literal_of_read hfound
      rwa [List.append_nil]
    next => cases hread
  · intro hliteral
    have hread := read_of_literal hliteral .nil
    rw [List.append_nil] at hread
    rw [ofText?, hread]

end Ipv6

end NodeLink.Address
