import Mathlib.Tactic.SplitIfs
import NodeLink.Proofs.Text.Numeral
import NodeLink.Toml.Lexeme
import NodeLink.Toml.Writer
/-!
# Reading strings that were written

A string reads back as the text it was written for, whichever of the four forms
the writer chose.  What may follow a string is anything but another quote.
-/

namespace NodeLink.Toml

open NodeLink.Text

/-! ## Escape sequences -/

theorem newline?_cons {c : Char} (rest : List Char) (hline : c ≠ '\n') (hreturn : c ≠ '\r') :
    newline? (c :: rest) = none := by
  unfold newline?
  split
  next heq => exact absurd (List.cons.inj heq).1 hline
  next heq => exact absurd (List.cons.inj heq).1 hreturn
  next => rfl

/-- What stands for a character where escape sequences are read: the character
itself, or a sequence that gives it back. -/
inductive Stands : List Char → Char → Prop
  | plain {c : Char} (hslash : c ≠ '\\') (hquote : c ≠ '"') (hprintable : isControl c = false) :
      Stands [c] c
  | escaped {tail : List Char} {c : Char}
      (hescape : ∀ rest, escape? (tail ++ rest) = some (c, rest))
      (hline : ∀ rest, lineContinuation? (tail ++ rest) = none) : Stands ('\\' :: tail) c

theorem lineContinuation?_cons {c : Char} (rest : List Char) (hblank : isBlank c = false)
    (hline : c ≠ '\n') (hreturn : c ≠ '\r') : lineContinuation? (c :: rest) = none := by
  rw [lineContinuation?, skipBlanks, List.dropWhile_cons_of_neg (by simp [hblank]),
    newline?_cons rest hline hreturn, Option.map_none]

theorem stands_named {c mark : Char} (hescape : ∀ rest, escape? (mark :: rest) = some (c, rest))
    (hblank : isBlank mark = false) (hline : mark ≠ '\n') (hreturn : mark ≠ '\r') :
    Stands ['\\', mark] c :=
  .escaped hescape fun rest => lineContinuation?_cons rest hblank hline hreturn

theorem number?_codeEscape : ∀ n < 128,
    Hex.number? ['0', '0', Hex.upperDigit (n / 16), Hex.upperDigit (n % 16)] = some n := by
  decide

theorem stands_codeEscape {c : Char} (hsmall : c.toNat < 128) : Stands (codeEscape c) c := by
  refine .escaped (fun rest => ?_)
    (fun rest => lineContinuation?_cons _ (by decide) (by decide) (by decide))
  have hscalar : isScalar c.toNat = true := by
    simp only [isScalar, Bool.or_eq_true, decide_eq_true_eq]
    omega
  simp [escape?, codeChar, number?_codeEscape c.toNat hsmall, hscalar, Char.ofNat_toNat]

theorem toNat_lt_of_needsEscape {c : Char} (hneeds : needsEscape c = true) : c.toNat < 128 := by
  simp only [needsEscape, Bool.or_eq_true, Bool.and_eq_true, decide_eq_true_eq, beq_iff_eq]
    at hneeds
  omega

theorem not_isControl {c : Char} (hplain : needsEscape c = false) (hline : c ≠ '\n') :
    isControl c = false := by
  simp only [needsEscape, Bool.or_eq_false_iff, Bool.and_eq_false_iff, bne_eq_false_iff_eq]
    at hplain
  simp only [isControl, Bool.or_eq_false_iff, Bool.and_eq_false_iff, bne_eq_false_iff_eq]
  tauto

theorem stands_escapeChar {c : Char} (hquote : c ≠ '"') (hline : c ≠ '\n') :
    Stands (escapeChar c) c := by
  unfold escapeChar
  split_ifs with hslash htab hreturn hbackspace hfeed hneeds
  · subst hslash
    exact stands_named (fun _ => rfl) (by decide) (by decide) (by decide)
  · subst htab
    exact stands_named (fun _ => rfl) (by decide) (by decide) (by decide)
  · subst hreturn
    exact stands_named (fun _ => rfl) (by decide) (by decide) (by decide)
  · obtain rfl : c = '\x08' := Char.toNat_inj.mp hbackspace
    exact stands_named (fun _ => rfl) (by decide) (by decide) (by decide)
  · obtain rfl : c = '\x0c' := Char.toNat_inj.mp hfeed
    exact stands_named (fun _ => rfl) (by decide) (by decide) (by decide)
  · exact stands_codeEscape (toNat_lt_of_needsEscape hneeds)
  · exact .plain hslash hquote (not_isControl (by simpa using hneeds) hline)

theorem stands_quote : Stands ['\\', '"'] '"' :=
  stands_named (fun _ => rfl) (by decide) (by decide) (by decide)

theorem stands_newline : Stands ['\\', 'n'] '\n' :=
  stands_named (fun _ => rfl) (by decide) (by decide) (by decide)

theorem Stands.ne_nil {written : List Char} {c : Char} (hstands : Stands written c) :
    written ≠ [] := by
  cases hstands <;> simp

/-- No line ends and no string closes where something stands for a character. -/
theorem Stands.head {written : List Char} {c : Char} (hstands : Stands written c) :
    ∃ first tail, written = first :: tail ∧ first ≠ '"' ∧ first ≠ '\n' ∧ first ≠ '\r' := by
  cases hstands with
  | plain hslash hquote hprintable =>
      refine ⟨c, [], rfl, hquote, ?_, ?_⟩
      · rintro rfl
        exact absurd hprintable (by decide)
      · rintro rfl
        exact absurd hprintable (by decide)
  | escaped hescape hline => exact ⟨'\\', _, rfl, by decide, by decide, by decide⟩

/-! ## Strings on one line -/

theorem Stands.basicBody {written : List Char} {c : Char} (hstands : Stands written c) (fuel : Nat)
    (rest : List Char) :
    basicBody (fuel + 1) (written ++ rest) = cons c (basicBody fuel rest) := by
  cases hstands with
  | plain hslash hquote hprintable =>
      rw [List.singleton_append, Toml.basicBody]
      · simp [hprintable]
      · exact hquote
      · exact hslash
  | escaped hescape hline =>
      rw [List.cons_append, Toml.basicBody, hescape]
      rfl

theorem exists_escapedBasic_cons (c : Char) (text : List Char) :
    ∃ written, Stands written c ∧ escapedBasic (c :: text) = written ++ escapedBasic text := by
  by_cases hquote : c = '"'
  · subst hquote
    exact ⟨_, stands_quote, rfl⟩
  · by_cases hline : c = '\n'
    · subst hline
      exact ⟨_, stands_newline, rfl⟩
    · exact ⟨_, stands_escapeChar hquote hline, by rw [escapedBasic, if_neg hquote, if_neg hline]⟩

theorem basicBody_escapedBasic {text : List Char} {fuel : Nat} (hfuel : text.length < fuel)
    (rest : List Char) :
    basicBody fuel (escapedBasic text ++ '"' :: rest) = some (text, rest) := by
  induction text generalizing fuel with
  | nil =>
      obtain ⟨fuel, rfl⟩ := Nat.exists_eq_add_of_lt hfuel
      rfl
  | cons c text ih =>
      obtain ⟨fuel, rfl⟩ := Nat.exists_eq_add_of_lt (Nat.zero_lt_of_lt hfuel)
      obtain ⟨written, hstands, hwritten⟩ := exists_escapedBasic_cons c text
      rw [hwritten, List.append_assoc, hstands.basicBody, ih (by simpa using hfuel)]
      rfl

theorem length_le_escapedBasic (text : List Char) : text.length ≤ (escapedBasic text).length := by
  induction text with
  | nil => exact Nat.le_refl _
  | cons c text ih =>
      obtain ⟨written, hstands, hwritten⟩ := exists_escapedBasic_cons c text
      have hsome := List.length_pos_iff.mpr hstands.ne_nil
      rw [hwritten, List.length_cons, List.length_append]
      omega

theorem head?_escapedBasic (text : List Char) : (escapedBasic text).head? ≠ some '"' := by
  cases text with
  | nil => simp [escapedBasic]
  | cons c text =>
      obtain ⟨written, hstands, hwritten⟩ := exists_escapedBasic_cons c text
      obtain ⟨first, tail, rfl, hfirst, -⟩ := hstands.head
      simpa [hwritten] using hfirst

theorem literalBody_append {text : List Char} (hplain : ∀ c ∈ text, isControl c = false)
    (hquote : '\'' ∉ text) (rest : List Char) :
    literalBody (text ++ '\'' :: rest) = some (text, rest) := by
  induction text with
  | nil => rfl
  | cons c text ih =>
      have hfirst : c ≠ '\'' := fun hc => hquote (hc ▸ List.mem_cons_self)
      have htail := ih (fun c hc => hplain c (List.mem_cons_of_mem _ hc))
        (fun hmem => hquote (List.mem_cons_of_mem _ hmem))
      rw [List.cons_append, literalBody, if_neg hfirst, hplain c List.mem_cons_self, htail]
      rfl

/-! ## Strings on several lines -/

section

variable {quote : Char} {text rest : List Char}

/-- At most so many quotes stand at the front of a text. -/
def RunsShort (quote : Char) (most : Nat) (text : List Char) : Prop :=
  ∃ count more, count ≤ most ∧ text = List.replicate count quote ++ more ∧
    more.head? ≠ some quote

theorem runsShort_of_head {most : Nat} (hhead : text.head? ≠ some quote) :
    RunsShort quote most text := ⟨0, text, Nat.zero_le _, rfl, hhead⟩

theorem RunsShort.cons {most : Nat} (hshort : RunsShort quote most text) :
    RunsShort quote (most + 1) (quote :: text) := by
  obtain ⟨count, more, hfew, rfl, hmore⟩ := hshort
  exact ⟨count + 1, more, by omega, rfl, hmore⟩

theorem RunsShort.mono {most more : Nat} (hshort : RunsShort quote most text)
    (hmost : most ≤ more) : RunsShort quote more text := by
  obtain ⟨count, tail, hfew, hsplit, htail⟩ := hshort
  exact ⟨count, tail, Nat.le_trans hfew hmost, hsplit, htail⟩

theorem takeWhile_quotes {count : Nat} (hrest : rest.head? ≠ some quote) :
    (List.replicate count quote ++ rest).takeWhile (· = quote) = List.replicate count quote :=
  takeWhile_append_of_stop (by simp) fun c hc => by
    rw [decide_eq_false_iff_not]
    rintro rfl
    exact hrest hc

theorem closing?_of_few {count : Nat} (hfew : count < 3) (hrest : rest.head? ≠ some quote) :
    closing? quote (List.replicate count quote ++ rest) = none := by
  rw [closing?, takeWhile_quotes hrest, List.length_replicate, if_pos hfew]

theorem closing?_of_head (hrest : rest.head? ≠ some quote) : closing? quote rest = none :=
  closing?_of_few (show 0 < 3 by omega) hrest

/-- Up to two quotes before the closing ones belong to the string. -/
theorem closing?_of_end {count : Nat} (hfew : count ≤ 2) (hrest : rest.head? ≠ some quote) :
    closing? quote (List.replicate count quote ++ [quote, quote, quote] ++ rest) =
      some (List.replicate count quote, rest) := by
  have hall : List.replicate count quote ++ [quote, quote, quote] =
      List.replicate (count + 3) quote := (List.replicate_append_replicate (m := 3)).symm ▸ rfl
  have hextra : min (count + 3 - 3) 2 = count := by omega
  rw [hall, closing?, takeWhile_quotes hrest, List.length_replicate, if_neg (by omega)]
  simp only [hextra]
  rw [List.drop_append_of_le_length (by simp; omega), Nat.add_comm 3,
    List.drop_eq_nil_of_le (by simp), List.nil_append]

theorem closing?_at_end (hrest : rest.head? ≠ some quote) :
    closing? quote (quote :: quote :: quote :: rest) = some ([], rest) :=
  closing?_of_end (Nat.zero_le 2) hrest

/-- What is in front of the closing quotes either ends the string with them, or
something else comes first. -/
theorem closing?_cases (hshort : RunsShort quote 2 text) (hrest : rest.head? ≠ some quote) :
    (∃ count, text = List.replicate count quote ∧
        closing? quote (text ++ [quote, quote, quote] ++ rest) = some (text, rest)) ∨
      (text ≠ [] ∧ closing? quote (text ++ [quote, quote, quote] ++ rest) = none) := by
  obtain ⟨count, more, hfew, rfl, hmore⟩ := hshort
  cases more with
  | nil =>
      rw [List.append_nil]
      exact .inl ⟨count, rfl, closing?_of_end hfew hrest⟩
  | cons c more =>
      refine .inr ⟨by simp, ?_⟩
      rw [List.append_assoc, List.append_assoc]
      exact closing?_of_few (by omega) (by simpa using hmore)

theorem exists_quotes (quote : Char) (text : List Char) :
    ∃ count more, text = List.replicate count quote ++ more ∧ more.head? ≠ some quote := by
  induction text with
  | nil => exact ⟨0, [], rfl, by simp⟩
  | cons c text ih =>
      by_cases hquote : c = quote
      · obtain ⟨count, more, hsplit, hmore⟩ := ih
        exact ⟨count + 1, more, by rw [hsplit, hquote]; rfl, hmore⟩
      · exact ⟨0, c :: text, rfl, by simpa using hquote⟩

theorem runsShort_of_hasRun (hrun : hasRun 3 quote text = false) : RunsShort quote 2 text := by
  obtain ⟨count, more, hsplit, hmore⟩ := exists_quotes quote text
  refine ⟨count, more, ?_, hsplit, hmore⟩
  by_contra hmany
  obtain ⟨extra, rfl⟩ : ∃ extra, count = extra + 3 := ⟨count - 3, by omega⟩
  rw [hsplit, List.replicate_succ, List.cons_append, hasRun, Bool.or_eq_false_iff] at hrun
  exact absurd hrun.1 (by simp [List.replicate_succ])

end

section

variable {fuel : Nat} {text rest : List Char} {taken : List Char × List Char}

theorem longBasicBody_closed (hclosed : closing? '"' text = some taken) :
    longBasicBody (fuel + 1) text = some taken := by
  rw [longBasicBody.eq_def]
  simp only [hclosed]

theorem longBasicBody_newline :
    longBasicBody (fuel + 1) ('\n' :: rest) = cons '\n' (longBasicBody fuel rest) := by
  have hopen : closing? '"' ('\n' :: rest) = none :=
    closing?_of_head (by simp)
  rw [longBasicBody.eq_def]
  simp only [hopen, newline?]

theorem longBasicBody_quote (hopen : closing? '"' ('"' :: rest) = none) :
    longBasicBody (fuel + 1) ('"' :: rest) = cons '"' (longBasicBody fuel rest) := by
  rw [longBasicBody.eq_def]
  simp [hopen, newline?_cons, isControl]

theorem longLiteralBody_closed (hclosed : closing? '\'' text = some taken) :
    longLiteralBody (fuel + 1) text = some taken := by
  rw [longLiteralBody.eq_def]
  simp only [hclosed]

theorem longLiteralBody_cons {c : Char} (hplain : needsEscape c = false)
    (hopen : closing? '\'' (c :: rest) = none) :
    longLiteralBody (fuel + 1) (c :: rest) = cons c (longLiteralBody fuel rest) := by
  rw [longLiteralBody.eq_def]
  simp only [hopen]
  by_cases hline : c = '\n'
  · subst hline
    rfl
  · have hreturn : c ≠ '\r' := by
      rintro rfl
      exact absurd hplain (by decide)
    simp [newline?_cons rest hline hreturn, not_isControl hplain hline]

end

theorem Stands.longBasicBody {written : List Char} {c : Char} (hstands : Stands written c)
    (fuel : Nat) (rest : List Char) :
    longBasicBody (fuel + 1) (written ++ rest) = cons c (longBasicBody fuel rest) := by
  obtain ⟨first, tail, hwritten, hquote, hline, hreturn⟩ := hstands.head
  have hopen : closing? '"' (written ++ rest) = none :=
    closing?_of_head (by simpa [hwritten] using hquote)
  have hnewline : newline? (written ++ rest) = none := by
    rw [hwritten]
    exact newline?_cons _ hline hreturn
  rw [Toml.longBasicBody.eq_def]
  simp only [hopen, hnewline]
  cases hstands with
  | plain hslash hquote hprintable => simp [hprintable]
  | escaped hescape hline => simp [hescape, hline]

/-- The writer takes a character as a quote that cannot close the string, as a
line end, or as something that stands for it. -/
theorem escapedLong_cons (quotes : Nat) (c : Char) (text : List Char) :
    (c = '"' ∧ quotes < 2 ∧
        escapedLong quotes (c :: text) = '"' :: escapedLong (quotes + 1) text) ∨
      (c = '\n' ∧ escapedLong quotes (c :: text) = '\n' :: escapedLong 0 text) ∨
      ∃ written, Stands written c ∧
        escapedLong quotes (c :: text) = written ++ escapedLong 0 text := by
  by_cases hquote : c = '"'
  · subst hquote
    by_cases hfew : quotes < 2
    · exact .inl ⟨rfl, hfew, by rw [escapedLong, if_pos rfl, if_pos hfew]⟩
    · exact .inr (.inr ⟨_, stands_quote, by rw [escapedLong, if_pos rfl, if_neg hfew]; rfl⟩)
  · by_cases hline : c = '\n'
    · subst hline
      exact .inr (.inl ⟨rfl, rfl⟩)
    · exact .inr (.inr ⟨_, stands_escapeChar hquote hline,
        by rw [escapedLong, if_neg hquote, if_neg hline]⟩)

theorem length_le_escapedLong (quotes : Nat) (text : List Char) :
    text.length ≤ (escapedLong quotes text).length := by
  induction text generalizing quotes with
  | nil => exact Nat.zero_le _
  | cons c text ih =>
      obtain ⟨-, -, hwritten⟩ | ⟨-, hwritten⟩ | ⟨written, hstands, hwritten⟩ :=
        escapedLong_cons quotes c text
      · simpa [hwritten] using ih (quotes + 1)
      · simpa [hwritten] using ih 0
      · have hsome := List.length_pos_iff.mpr hstands.ne_nil
        have htail := ih 0
        rw [hwritten, List.length_cons, List.length_append]
        omega

theorem runsShort_escapedLong {quotes : Nat} (hfew : quotes ≤ 2) (text : List Char) :
    RunsShort '"' (2 - quotes) (escapedLong quotes text) := by
  induction text generalizing quotes with
  | nil => exact runsShort_of_head (by simp [escapedLong])
  | cons c text ih =>
      obtain ⟨-, hless, hwritten⟩ | ⟨-, hwritten⟩ | ⟨written, hstands, hwritten⟩ :=
        escapedLong_cons quotes c text
      · have hmost : 2 - quotes = 2 - (quotes + 1) + 1 := by omega
        rw [hwritten, hmost]
        exact (ih (show quotes + 1 ≤ 2 by omega)).cons
      · rw [hwritten]
        exact runsShort_of_head (by simp)
      · obtain ⟨first, tail, rfl, hfirst, -⟩ := hstands.head
        rw [hwritten]
        exact runsShort_of_head (by simpa using hfirst)

/-- Where only quotes are written, only quotes were to be written. -/
theorem eq_of_escapedLong {quotes count : Nat} {text : List Char}
    (hquotes : escapedLong quotes text = List.replicate count '"') :
    text = List.replicate count '"' := by
  induction text generalizing quotes count with
  | nil => simpa [escapedLong] using hquotes
  | cons c text ih =>
      cases count with
      | zero =>
          have hlength := length_le_escapedLong quotes (c :: text)
          rw [hquotes] at hlength
          simp at hlength
      | succ count =>
          rw [List.replicate_succ] at hquotes
          obtain ⟨rfl, -, hwritten⟩ | ⟨-, hwritten⟩ | ⟨written, hstands, hwritten⟩ :=
            escapedLong_cons quotes c text
          · rw [hwritten] at hquotes
            rw [ih (List.cons.inj hquotes).2, List.replicate_succ]
          · rw [hwritten] at hquotes
            exact absurd (List.cons.inj hquotes).1 (by decide)
          · obtain ⟨first, tail, rfl, hfirst, -⟩ := hstands.head
            rw [hwritten] at hquotes
            exact absurd (List.cons.inj hquotes).1 hfirst

theorem longBasicBody_escapedLong {quotes fuel : Nat} {text rest : List Char} (hfew : quotes ≤ 2)
    (hfuel : text.length < fuel) (hrest : rest.head? ≠ some '"') :
    longBasicBody fuel (escapedLong quotes text ++ ['"', '"', '"'] ++ rest) =
      some (text, rest) := by
  induction text generalizing quotes fuel with
  | nil =>
      obtain ⟨fuel, rfl⟩ := Nat.exists_eq_add_of_lt hfuel
      exact longBasicBody_closed (closing?_at_end hrest)
  | cons c text ih =>
      obtain ⟨fuel, rfl⟩ := Nat.exists_eq_add_of_lt (Nat.zero_lt_of_lt hfuel)
      have hless : text.length < 0 + fuel := by simpa using hfuel
      have hshort := runsShort_escapedLong hfew (c :: text)
      obtain ⟨count, hall, hclosed⟩ | ⟨-, hopen⟩ :=
        closing?_cases (hshort.mono (by omega)) hrest
      · rw [longBasicBody_closed hclosed, hall, eq_of_escapedLong hall]
      · obtain ⟨rfl, hone, hwritten⟩ | ⟨rfl, hwritten⟩ | ⟨written, hstands, hwritten⟩ :=
          escapedLong_cons quotes c text
        · rw [hwritten, List.cons_append, List.cons_append] at hopen ⊢
          rw [longBasicBody_quote hopen, ih (by omega) hless]
          rfl
        · rw [hwritten, List.cons_append, List.cons_append, longBasicBody_newline,
            ih (by omega) hless]
          rfl
        · rw [hwritten, List.append_assoc, List.append_assoc, hstands.longBasicBody,
            ← List.append_assoc, ih (by omega) hless]
          rfl

theorem longLiteralBody_append {fuel : Nat} {text rest : List Char}
    (hplain : ∀ c ∈ text, needsEscape c = false) (hrun : hasRun 3 '\'' text = false)
    (hfuel : text.length < fuel) (hrest : rest.head? ≠ some '\'') :
    longLiteralBody fuel (text ++ ['\'', '\'', '\''] ++ rest) = some (text, rest) := by
  induction text generalizing fuel with
  | nil =>
      obtain ⟨fuel, rfl⟩ := Nat.exists_eq_add_of_lt hfuel
      exact longLiteralBody_closed (closing?_at_end hrest)
  | cons c text ih =>
      obtain ⟨fuel, rfl⟩ := Nat.exists_eq_add_of_lt (Nat.zero_lt_of_lt hfuel)
      obtain ⟨-, -, hclosed⟩ | ⟨-, hopen⟩ := closing?_cases (runsShort_of_hasRun hrun) hrest
      · exact longLiteralBody_closed hclosed
      · have hless : text.length < 0 + fuel := by simpa using hfuel
        have htail := ih (fun c hc => hplain c (List.mem_cons_of_mem _ hc))
          (Bool.or_eq_false_iff.mp hrun).2 hless
        rw [List.cons_append, List.cons_append] at hopen ⊢
        rw [longLiteralBody_cons (hplain c List.mem_cons_self) hopen, htail]
        rfl

/-! ## The four forms -/

theorem formOf_literal {text : List Char} (hform : formOf text = .literal) :
    (∀ c ∈ text, isControl c = false) ∧ '\'' ∉ text := by
  dsimp only [formOf] at hform
  split_ifs at hform with hbasic hliteral
  simp only [Bool.and_eq_true, Bool.not_eq_true', List.any_eq_false, Bool.not_eq_true,
    List.contains_eq_mem, decide_eq_false_iff_not] at hliteral
  obtain ⟨⟨hplain, hline⟩, hquote⟩ := hliteral
  exact ⟨fun c hc => not_isControl (hplain c hc) fun heq => hline (heq ▸ hc), hquote⟩

theorem formOf_longLiteral {text : List Char} (hform : formOf text = .longLiteral) :
    (∀ c ∈ text, needsEscape c = false) ∧ hasRun 3 '\'' text = false := by
  dsimp only [formOf] at hform
  split_ifs at hform with hbasic hliteral hlong hlongLiteral
  simpa using hlongLiteral

/-- One quote or two open a string on one line. -/
theorem string?_quote {tail : List Char} (hfew : ∀ more, tail ≠ '"' :: '"' :: more) :
    string? ('"' :: tail) = basicBody (tail.length + 2) tail := by
  unfold string?
  dsimp only
  split
  next heq => exact absurd (List.cons.inj heq).2 (hfew _)
  next heq => exact absurd (List.cons.inj heq).1 (by decide)
  next heq => rw [← (List.cons.inj heq).2, List.length_cons]
  next heq => exact absurd (List.cons.inj heq).1 (by decide)
  next hother _ => exact absurd rfl (hother _)

theorem string?_apostrophe {tail : List Char} (hfew : ∀ more, tail ≠ '\'' :: '\'' :: more) :
    string? ('\'' :: tail) = literalBody tail := by
  unfold string?
  dsimp only
  split
  next heq => exact absurd (List.cons.inj heq).1 (by decide)
  next heq => exact absurd (List.cons.inj heq).2 (hfew _)
  next heq => exact absurd (List.cons.inj heq).1 (by decide)
  next heq => rw [← (List.cons.inj heq).2]
  next hother => exact absurd rfl (hother _)

theorem ne_quotes {quote : Char} {body rest more : List Char} (hbody : body.head? ≠ some quote)
    (hrest : rest.head? ≠ some quote) : body ++ quote :: rest ≠ quote :: quote :: more := by
  cases body with
  | nil =>
      rintro heq
      obtain rfl := (List.cons.inj heq).2
      exact hrest rfl
  | cons c body =>
      rintro heq
      exact hbody (congrArg some (List.cons.inj heq).1)

/-- The line end that a string of several lines starts with is not part of it. -/
theorem skipFirstNewline_opening {text written : List Char}
    (hline : '\n' ∉ text → newline? written = none) :
    skipFirstNewline (opening text ++ written) = written := by
  unfold opening skipFirstNewline
  split_ifs with hcontains
  · rfl
  · rw [List.nil_append, hline (by simpa using hcontains), Option.getD_none]

section

variable {text rest : List Char}

theorem string?_longBasic {written : List Char}
    (hline : '\n' ∉ text → newline? (written ++ ['"', '"', '"'] ++ rest) = none) :
    ∃ fuel, written.length < fuel ∧
      string? (['"', '"', '"'] ++ opening text ++ written ++ ['"', '"', '"'] ++ rest) =
        longBasicBody fuel (written ++ ['"', '"', '"'] ++ rest) := by
  have hopened := skipFirstNewline_opening hline
  rw [← List.append_assoc, ← List.append_assoc] at hopened
  refine ⟨_, ?_, congrArg (longBasicBody _) hopened⟩
  simp only [List.length_append]
  omega

theorem string?_longLiteral {written : List Char}
    (hline : '\n' ∉ text → newline? (written ++ ['\'', '\'', '\''] ++ rest) = none) :
    ∃ fuel, written.length < fuel ∧
      string? (['\'', '\'', '\''] ++ opening text ++ written ++ ['\'', '\'', '\''] ++ rest) =
        longLiteralBody fuel (written ++ ['\'', '\'', '\''] ++ rest) := by
  have hopened := skipFirstNewline_opening hline
  rw [← List.append_assoc, ← List.append_assoc] at hopened
  refine ⟨_, ?_, congrArg (longLiteralBody _) hopened⟩
  simp only [List.length_append]
  omega

theorem newline?_escapedLong (hline : '\n' ∉ text) :
    newline? (escapedLong 0 text ++ ['"', '"', '"'] ++ rest) = none := by
  cases text with
  | nil => rfl
  | cons c text =>
      obtain ⟨-, -, hwritten⟩ | ⟨rfl, -⟩ | ⟨written, hstands, hwritten⟩ := escapedLong_cons 0 c text
      · rw [hwritten]
        exact newline?_cons _ (by decide) (by decide)
      · exact absurd List.mem_cons_self hline
      · obtain ⟨first, tail, rfl, -, hfirst, hreturn⟩ := hstands.head
        rw [hwritten]
        exact newline?_cons _ hfirst hreturn

theorem newline?_plain (hplain : ∀ c ∈ text, needsEscape c = false) (hline : '\n' ∉ text) :
    newline? (text ++ ['\'', '\'', '\''] ++ rest) = none := by
  cases text with
  | nil => rfl
  | cons c text =>
      apply newline?_cons
      · rintro rfl
        exact hline List.mem_cons_self
      · rintro rfl
        exact absurd (hplain '\r' List.mem_cons_self) (by decide)

/-- A string is read back as the text it was written for. -/
theorem string?_writeString (text : List Char) (hquote : rest.head? ≠ some '"')
    (happly : rest.head? ≠ some '\'') :
    string? (writeString text ++ rest) = some (text, rest) := by
  unfold writeString
  cases hform : formOf text with
  | basic =>
      show string? ('"' :: (escapedBasic text ++ ['"'] ++ rest)) = _
      have hlength := length_le_escapedBasic text
      rw [List.append_assoc, List.singleton_append,
        string?_quote fun more => ne_quotes (head?_escapedBasic text) hquote]
      exact basicBody_escapedBasic (by simp only [List.length_append, List.length_cons]; omega) rest
  | literal =>
      obtain ⟨hplain, habsent⟩ := formOf_literal hform
      show string? ('\'' :: (text ++ ['\''] ++ rest)) = _
      rw [List.append_assoc, List.singleton_append, string?_apostrophe fun more =>
        ne_quotes (fun hhead => habsent (List.mem_of_mem_head? hhead)) happly]
      exact literalBody_append hplain habsent rest
  | longBasic =>
      have hline : '\n' ∉ text →
          newline? (escapedLong 0 text ++ ['"', '"', '"'] ++ rest) = none := newline?_escapedLong
      obtain ⟨fuel, hfuel, hread⟩ := string?_longBasic hline
      have hlength := length_le_escapedLong 0 text
      exact hread.trans (longBasicBody_escapedLong (by omega) (by omega) hquote)
  | longLiteral =>
      obtain ⟨hplain, hrun⟩ := formOf_longLiteral hform
      have hline : '\n' ∉ text → newline? (text ++ ['\'', '\'', '\''] ++ rest) = none :=
        newline?_plain hplain
      obtain ⟨fuel, hfuel, hread⟩ := string?_longLiteral hline
      exact hread.trans (longLiteralBody_append hplain hrun hfuel happly)

end

end NodeLink.Toml
