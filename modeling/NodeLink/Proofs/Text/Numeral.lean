import Mathlib.Data.List.Induction
import NodeLink.Text.Numeral
/-!
# What a numeral denotes

A numeral is a text of decimal digits, and denotes what these digits are worth.
Every number is the worth of its own digits, and no other numeral for it does
without a leading zero.
-/

namespace NodeLink.Text

/-! ## The front of a text -/

section

variable {isInside : Char → Bool} {front rest : List Char}

theorem stop_cons {c : Char} (hc : isInside c = false) (rest : List Char) :
    ∀ d, (c :: rest).head? = some d → isInside d = false := by
  intro d hhead
  obtain rfl : c = d := Option.some.inj hhead
  exact hc

/-- A front of a text that holds characters of one kind only and does not go on. -/
theorem takeWhile_append_of_stop (hfront : ∀ c ∈ front, isInside c = true)
    (hstop : ∀ c, rest.head? = some c → isInside c = false) :
    (front ++ rest).takeWhile isInside = front := by
  rw [List.takeWhile_append_of_pos hfront]
  cases rest with
  | nil => simp
  | cons c rest => simp [hstop c rfl]

theorem dropWhile_append_of_stop (hfront : ∀ c ∈ front, isInside c = true)
    (hstop : ∀ c, rest.head? = some c → isInside c = false) :
    (front ++ rest).dropWhile isInside = rest := by
  rw [List.dropWhile_append_of_pos hfront]
  cases rest with
  | nil => rfl
  | cons c rest => simp [hstop c rfl]

end

namespace Numeral

/-! ## Digits -/

theorem isDigit_eq (c : Char) : isDigit c = c.isDigit := by
  have hrange : ('0' ≤ c ∧ c ≤ '9') ↔ c.isDigit = true := by
    simp [Char.isDigit, Char.le_def]
  unfold isDigit digitValue?
  by_cases hdigit : c.isDigit = true
  · simp [hrange.mpr hdigit, hdigit]
  · simp [mt hrange.mp hdigit, hdigit]

theorem digitValue?_eq (c : Char) :
    digitValue? c = if c.isDigit then some (c.toNat - '0'.toNat) else none := by
  have hrange : ('0' ≤ c ∧ c ≤ '9') ↔ c.isDigit = true := by
    simp [Char.isDigit, Char.le_def]
  simp only [digitValue?, hrange]

theorem isDigit_iff {c : Char} : c.isDigit = true ↔ 48 ≤ c.toNat ∧ c.toNat ≤ 57 := by
  simp only [Char.isDigit, ge_iff_le, Bool.and_eq_true, decide_eq_true_eq,
    UInt32.le_iff_toNat_le]
  exact Iff.rfl

theorem head_toDigits_ne_zero {n : Nat} (hn : 0 < n) : (Nat.toDigits 10 n).head? ≠ some '0' := by
  induction n using Nat.strongRecOn with
  | ind n ih =>
      by_cases hsmall : n < 10
      · rw [Nat.toDigits_of_lt_base hsmall, List.head?_cons, ne_eq, Option.some.injEq,
          Nat.digitChar_eq_zero]
        omega
      · have hlead := ih (n / 10) (by omega) (by omega)
        rw [Nat.toDigits_of_base_le (by omega) (by omega), List.head?_append]
        cases hhead : (Nat.toDigits 10 (n / 10)).head? with
        | none => exact absurd (List.head?_eq_none_iff.mp hhead) Nat.toDigits_ne_nil
        | some first =>
            rw [hhead] at hlead
            simpa using hlead

theorem isDigit_of_mem_toDigits {n : Nat} {c : Char} (hc : c ∈ Nat.toDigits 10 n) :
    c.isDigit = true :=
  Nat.isDigit_of_mem_toDigits (by omega) (by omega) hc

/-! ## Denotation -/

/-- A text of digits denotes a number. -/
structure Denotes (digits : List Char) (n : Nat) : Prop where
  solid : digits ≠ []
  decimal : ∀ c ∈ digits, c.isDigit = true
  worth : Nat.ofDigitChars 10 digits 0 = n

theorem denotes_toDigits (n : Nat) : Denotes (Nat.toDigits 10 n) n where
  solid := Nat.toDigits_ne_nil
  decimal := fun _ => isDigit_of_mem_toDigits
  worth := Nat.ofDigitChars_ten_toDigits

/-- Without a leading zero there is but one numeral for each number. -/
theorem Denotes.eq_toDigits {digits : List Char} {n : Nat} (hdenotes : Denotes digits n)
    (hzero : digits.head? = some '0' → digits = ['0']) : digits = Nat.toDigits 10 n := by
  induction digits using List.reverseRecOn generalizing n with
  | nil => exact absurd rfl hdenotes.solid
  | append_singleton front last ih =>
      obtain ⟨-, hdigits, hworth⟩ := hdenotes
      have hlast : last.isDigit = true := hdigits last (by simp)
      obtain ⟨hleast, hmost⟩ := isDigit_iff.mp hlast
      have hunit : last.toNat - '0'.toNat < 10 := by
        show last.toNat - 48 < 10
        omega
      have hsame : Nat.toDigits 10 (last.toNat - '0'.toNat) = [last] := by
        rw [Nat.toDigits_of_lt_base hunit]
        congr 1
        apply Char.toNat_inj.mp
        rw [Nat.toNat_digitChar_of_lt_ten hunit]
        show 48 + (last.toNat - 48) = last.toNat
        omega
      rw [Nat.ofDigitChars_append, Nat.ofDigitChars_cons, Nat.ofDigitChars_nil] at hworth
      by_cases hfront : front = []
      · subst hfront
        rw [← hworth, Nat.ofDigitChars_nil, Nat.mul_zero, Nat.zero_add, hsame]
        rfl
      · have hlead : front.head? ≠ some '0' := by
          intro hhead
          have hshort := hzero (by rw [List.head?_append, hhead, Option.some_or])
          have hlength := congrArg List.length hshort
          simp at hlength
          exact hfront hlength
        have hinner := ih (n := Nat.ofDigitChars 10 front 0)
          ⟨hfront, fun c hc => hdigits c (List.mem_append_left _ hc), rfl⟩
          (fun hhead => absurd hhead hlead)
        have hpositive : 0 < Nat.ofDigitChars 10 front 0 := by
          rcases Nat.eq_zero_or_pos (Nat.ofDigitChars 10 front 0) with hnone | hsome
          · rw [hnone, Nat.toDigits_zero] at hinner
            exact absurd (by rw [hinner]; rfl) hlead
          · exact hsome
        rw [← hworth, ← Nat.toDigits_append_toDigits (by omega) hpositive hunit, hsame, ← hinner]

/-! ## Reading -/

theorem foldlM_digitValue? {digits : List Char} {total n : Nat} :
    digits.foldlM (fun total c => (digitValue? c).map (total * 10 + ·)) total = some n ↔
      (∀ c ∈ digits, c.isDigit = true) ∧ Nat.ofDigitChars 10 digits total = n := by
  induction digits generalizing total with
  | nil => simp
  | cons c digits ih =>
      rw [List.foldlM_cons, digitValue?_eq]
      by_cases hdigit : c.isDigit = true
      · rw [if_pos hdigit, Option.map_some, Option.bind_eq_bind, Option.bind_some, ih,
          Nat.ofDigitChars_cons, Nat.mul_comm 10 total]
        simp [hdigit]
      · rw [if_neg hdigit]
        simp [hdigit]

theorem digitsWithin?_eq_some_iff {bound n : Nat} {digits : List Char} :
    digitsWithin? bound digits = some n ↔ Denotes digits n ∧ n ≤ bound := by
  cases digits with
  | nil =>
      constructor
      · intro hread
        cases hread
      · intro hdenotes
        exact absurd rfl hdenotes.1.solid
  | cons c digits =>
      show (value? (c :: digits)).filter (· ≤ bound) = some n ↔ _
      rw [value?, Option.filter_eq_some_iff, foldlM_digitValue?, decide_eq_true_iff]
      constructor
      · rintro ⟨⟨hdigits, hworth⟩, hbound⟩
        exact ⟨⟨by simp, hdigits, hworth⟩, hbound⟩
      · rintro ⟨⟨-, hdigits, hworth⟩, hbound⟩
        exact ⟨⟨hdigits, hworth⟩, hbound⟩

/-- A text spells a number with its digits, and perhaps a plus sign before them. -/
inductive Spells : List Char → Nat → Prop
  | plain {digits : List Char} {n : Nat} (hdigits : Denotes digits n) : Spells digits n
  | signed {digits : List Char} {n : Nat} (hdigits : Denotes digits n) : Spells ('+' :: digits) n

theorem within?_eq_some_iff {bound n : Nat} {text : List Char} :
    within? bound text = some n ↔ Spells text n ∧ n ≤ bound := by
  unfold within?
  split
  next digits =>
    rw [digitsWithin?_eq_some_iff]
    constructor
    · rintro ⟨hdigits, hbound⟩
      exact ⟨.signed hdigits, hbound⟩
    · rintro ⟨hspells, hbound⟩
      cases hspells with
      | plain hdigits => exact absurd (hdigits.decimal '+' List.mem_cons_self) (by decide)
      | signed hdigits => exact ⟨hdigits, hbound⟩
  next hplain =>
    rw [digitsWithin?_eq_some_iff]
    constructor
    · rintro ⟨hdigits, hbound⟩
      exact ⟨.plain hdigits, hbound⟩
    · rintro ⟨hspells, hbound⟩
      cases hspells with
      | plain hdigits => exact ⟨hdigits, hbound⟩
      | signed hdigits => exact absurd rfl (hplain _)

end Numeral

end NodeLink.Text
