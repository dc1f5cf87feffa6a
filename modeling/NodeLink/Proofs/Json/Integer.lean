import NodeLink.Json.NumberText
import NodeLink.Json.Writer
import NodeLink.Proofs.Text.Numeral
/-!
# Integers are read back

An integer is written as its decimal digits, without a leading zero.  A literal
collects these digits one by one, and as long as the integer fits 64 bits none of
them is dropped, so the literal denotes the integer again.
-/

namespace NodeLink.Json

open NodeLink.Text

/-- The integers that stay exact: those of 64 bits with a sign, and those without. -/
def FitsWord (n : Int) : Prop :=
  -Nat.pow 2 63 ≤ n ∧ n ≤ Numeral.maxWord64

namespace NumberText

/-! ## Digits -/

theorem le_ofDigitChars (digits : List Char) (total : Nat) :
    total ≤ Nat.ofDigitChars 10 digits total := by
  induction digits generalizing total with
  | nil => exact Nat.le_refl total
  | cons c digits ih =>
      rw [Nat.ofDigitChars_cons]
      have hrest := ih (10 * total + (c.toNat - '0'.toNat))
      omega

/-- No digit is dropped on the way to a number of 64 bits. -/
theorem absorb_eq {digits : List Char} {total : Nat}
    (hfits : Nat.ofDigitChars 10 digits total ≤ Numeral.maxWord64) :
    absorb total digits = (Nat.ofDigitChars 10 digits total, 0) := by
  induction digits generalizing total with
  | nil => rfl
  | cons c digits ih =>
      rw [Nat.ofDigitChars_cons, Nat.mul_comm] at hfits ⊢
      have hnext := Nat.le_trans (le_ofDigitChars digits _) hfits
      rw [absorb, if_pos hnext]
      exact ih hfits

theorem exists_toDigits {n : Nat} (hn : 0 < n) :
    ∃ first rest, Nat.toDigits 10 n = first :: rest ∧ first ≠ '0' ∧
      Numeral.isDigit first = true ∧ ∀ c ∈ rest, Numeral.isDigit c = true := by
  have hdigits : ∀ c ∈ Nat.toDigits 10 n, Numeral.isDigit c = true := by
    intro c hc
    rw [Numeral.isDigit_eq]
    exact Numeral.isDigit_of_mem_toDigits hc
  have hlead := Numeral.head_toDigits_ne_zero hn
  cases htext : Nat.toDigits 10 n with
  | nil => exact absurd htext Nat.toDigits_ne_nil
  | cons first rest =>
      rw [htext] at hdigits hlead
      refine ⟨first, rest, rfl, ?_, hdigits first List.mem_cons_self, ?_⟩
      · simpa using hlead
      · exact fun c hc => hdigits c (List.mem_cons_of_mem first hc)

/-! ## Literals -/

/-- The literal that a text spells from its first character to its last. -/
def ofText? : List Char → Option NumberText
  | [] => none
  | c :: rest => (start? c).bind fun start => rest.foldlM extend? start

/-- An integer literal that does not begin with a zero. -/
def ofDigits (negative : Bool) (digits : List Char) : NumberText :=
  ⟨.whole, negative, digits.reverse, [], false, []⟩

theorem foldlM_extend? (negative : Bool) (before : List Char) {digits : List Char}
    (hdigits : ∀ c ∈ digits, Numeral.isDigit c = true) :
    digits.foldlM extend? (ofDigits negative before) =
      some (ofDigits negative (before ++ digits)) := by
  induction digits generalizing before with
  | nil => simp
  | cons c digits ih =>
      have hfirst : (ofDigits negative before).extend? c =
          some (ofDigits negative (before ++ [c])) := by
        simp [extend?, ofDigits, hdigits c List.mem_cons_self]
      have hrest := ih (before ++ [c]) fun d hd => hdigits d (List.mem_cons_of_mem c hd)
      rw [List.append_assoc] at hrest
      rw [List.foldlM_cons, hfirst]
      exact hrest

theorem value?_ofDigits (negative : Bool) {digits : List Char} {n : Nat}
    (hvalue : Nat.ofDigitChars 10 digits 0 = n) (hfits : n ≤ Numeral.maxWord64) :
    (ofDigits negative digits).value? = integerValue negative n := by
  have habsorb : absorb 0 digits = (n, 0) := by
    rw [absorb_eq (hvalue.symm ▸ hfits), hvalue]
  simp [value?, ofDigits, habsorb]

/-- A literal denotes the integer whose text it spells. -/
theorem exists_ofText? {n : Int} (hfits : FitsWord n) :
    ∃ literal, ofText? (integerText n) = some literal ∧ literal.isComplete = true ∧
      literal.value? = some (.integer n) := by
  obtain ⟨hleast, hgreatest⟩ := hfits
  cases n with
  | ofNat m =>
      cases m with
      | zero => exact ⟨⟨.zero, false, ['0'], [], false, []⟩, rfl, rfl, rfl⟩
      | succ m =>
          obtain ⟨first, rest, htext, hzero, hfirst, hrest⟩ := exists_toDigits (Nat.succ_pos m)
          have hsign : first ≠ '-' := by
            rintro rfl
            exact absurd hfirst (by decide)
          have hstart : start? first = some (ofDigits false [first]) := by
            simp [start?, hsign, hzero, hfirst, ofDigits]
          refine ⟨ofDigits false (first :: rest), ?_, rfl, ?_⟩
          · rw [integerText, htext, ofText?, hstart]
            exact foldlM_extend? false [first] hrest
          · have hword : m + 1 ≤ Numeral.maxWord64 := Int.ofNat_le.mp hgreatest
            rw [← htext, value?_ofDigits false Nat.ofDigitChars_ten_toDigits hword]
            rfl
  | negSucc m =>
      obtain ⟨first, rest, htext, hzero, hfirst, hrest⟩ := exists_toDigits (Nat.succ_pos m)
      have hsecond : extend? ⟨.sign, true, [], [], false, []⟩ first =
          some (ofDigits true [first]) := by
        simp [extend?, hzero, hfirst, ofDigits]
      have hbound : m + 1 ≤ Nat.pow 2 63 := by omega
      refine ⟨ofDigits true (first :: rest), ?_, rfl, ?_⟩
      · rw [integerText, htext, ofText?]
        show (first :: rest).foldlM extend? ⟨.sign, true, [], [], false, []⟩ = _
        rw [List.foldlM_cons, hsecond]
        exact foldlM_extend? true [first] hrest
      · have hword : m + 1 ≤ Numeral.maxWord64 := Nat.le_trans hbound (by decide)
        rw [← htext, value?_ofDigits true Nat.ofDigitChars_ten_toDigits hword]
        simp [integerValue, hbound, Int.negSucc_eq]

end NumberText

end NodeLink.Json
