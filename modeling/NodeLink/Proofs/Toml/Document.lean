import NodeLink.Proofs.Toml.Text
import NodeLink.Toml.Reader
/-!
# Reading documents that were written

Numbers are read back as long as 64 bits with a sign hold them, strings always.
A document of one line for each key gives its keys in their order, each with the
value that was written behind it.
-/

namespace NodeLink.Toml

open NodeLink.Text

/-! ## Numbers -/

theorem digitOf?_ten (c : Char) : digitOf? 10 c = Numeral.digitValue? c := by
  rw [digitOf?, Hex.value?, Numeral.digitValue?_eq]
  have hzero : '0'.toNat = 48 := rfl
  by_cases hdigit : c.isDigit = true
  · obtain ⟨hleast, hmost⟩ := Numeral.isDigit_iff.mp hdigit
    have hsmall : c.toNat - 48 < 10 := by omega
    simp [hdigit, hleast, hmost, hsmall]
  · have hout := mt Numeral.isDigit_iff.mpr hdigit
    rw [if_neg hdigit]
    split_ifs with hten hlower hupper
    · exact absurd (by simpa using hten) hout
    · simp
    · simp
    · rfl

theorem magnitude?_toDigits (n : Nat) : magnitude? 10 (Nat.toDigits 10 n) = some n := by
  have hdenotes := Numeral.denotes_toDigits n
  unfold magnitude?
  simp only [digitOf?_ten]
  exact Numeral.foldlM_digitValue?.mpr ⟨hdenotes.decimal, hdenotes.worth⟩

section

variable {c : Char} {digits rest : List Char}

theorem isDigit_of_mem_writeNat {n : Nat} (hc : c ∈ writeNat n) : c.isDigit = true :=
  Numeral.isDigit_of_mem_toDigits hc

/-- Digits are taken up to the end of the line. -/
theorem digitGroup_append (hdigits : ∀ c ∈ digits, c.isDigit = true) :
    digitGroup Numeral.isDigit (digits ++ '\n' :: rest) = (digits, '\n' :: rest) := by
  induction digits with
  | nil => rfl
  | cons c digits ih =>
      have hfirst : Numeral.isDigit c = true := by
        rw [Numeral.isDigit_eq]
        exact hdigits c List.mem_cons_self
      rw [List.cons_append, digitGroup, if_pos hfirst,
        ih fun c hc => hdigits c (List.mem_cons_of_mem _ hc)]

theorem sign_of_isDigit (hdigit : c.isDigit = true) : sign (c :: rest) = (false, c :: rest) := by
  unfold sign
  split
  next heq =>
    obtain rfl := (List.cons.inj heq).1
    exact absurd hdigit (by decide)
  next heq =>
    obtain rfl := (List.cons.inj heq).1
    exact absurd hdigit (by decide)
  next => rfl

end

/-- A number is written with a digit first, which is zero for zero only. -/
theorem exists_writeNat_cons (n : Nat) :
    ∃ c digits, writeNat n = c :: digits ∧ c.isDigit = true ∧ (c = '0' → digits = []) := by
  rcases Nat.eq_zero_or_pos n with rfl | hn
  · exact ⟨'0', [], rfl, by decide, fun _ => rfl⟩
  · cases hdigits : writeNat n with
    | nil => exact absurd hdigits Nat.toDigits_ne_nil
    | cons c digits =>
        have hlead := Numeral.head_toDigits_ne_zero hn
        refine ⟨c, digits, rfl, isDigit_of_mem_writeNat (n := n) (by simp [hdigits]), ?_⟩
        rintro rfl
        exact absurd (congrArg List.head? hdigits) hlead

theorem decimal?_writeNat (n : Nat) (rest : List Char) :
    decimal? (writeNat n ++ '\n' :: rest) = some ((false, writeNat n), '\n' :: rest) := by
  obtain ⟨c, digits, hwritten, hdigit, hzero⟩ := exists_writeNat_cons n
  have hgroup : digitGroup Numeral.isDigit (writeNat n ++ '\n' :: rest) =
      (writeNat n, '\n' :: rest) := digitGroup_append fun _ => isDigit_of_mem_writeNat
  rw [hwritten, List.cons_append] at hgroup ⊢
  rw [decimal?, sign_of_isDigit hdigit]
  dsimp only
  split
  next heq =>
    obtain ⟨rfl, rfl⟩ := List.cons.inj heq
    rw [hzero rfl]
    rfl
  next =>
    have hfirst : ((c :: (digits ++ '\n' :: rest)).head?.any Numeral.isDigit) = true := by
      simpa [Numeral.isDigit_eq] using hdigit
    rw [digits?, if_pos hfirst, hgroup, Option.map_some]

/-- No other base is announced. -/
theorem writeNat_ne_based {n : Nat} {mark : Char} {rest more : List Char} (hline : mark ≠ '\n') :
    writeNat n ++ '\n' :: rest ≠ '0' :: mark :: more := by
  obtain ⟨c, digits, hwritten, -, hzero⟩ := exists_writeNat_cons n
  rw [hwritten, List.cons_append]
  intro heq
  obtain ⟨rfl, hrest⟩ := List.cons.inj heq
  rw [hzero rfl, List.nil_append] at hrest
  exact hline (List.cons.inj hrest).1.symm

theorem integer?_writeNat {n : Nat} (hn : n ≤ greatest) (rest : List Char) :
    integer? (writeNat n ++ '\n' :: rest) = some (↑n, '\n' :: rest) := by
  have hmagnitude : magnitude? 10 (writeNat n) = some n := magnitude?_toDigits n
  unfold integer?
  split
  next heq => exact absurd heq (writeNat_ne_based (by decide))
  next heq => exact absurd heq (writeNat_ne_based (by decide))
  next heq => exact absurd heq (writeNat_ne_based (by decide))
  next =>
    rw [decimal?_writeNat]
    simp [hmagnitude, signed?, hn]

theorem float?_writeNat (n : Nat) (rest : List Char) :
    float? (writeNat n ++ '\n' :: rest) = none := by
  rw [float?, decimal?_writeNat]
  rfl

theorem dropWord?_of_isDigit {first c : Char} {word rest : List Char}
    (hfirst : first.isDigit = false) (hdigit : c.isDigit = true) :
    dropWord? (first :: word) (c :: rest) = none := by
  have hother : first ≠ c := by
    rintro rfl
    rw [hdigit] at hfirst
    cases hfirst
  rw [dropWord?, List.isPrefixOf_cons_cons, beq_eq_false_iff_ne.mpr hother]
  rfl

theorem decimal_of_field? {count low high m : Nat} {text behind : List Char}
    (hfield : field? count low high text = some (m, behind)) :
    (∀ c ∈ text.take count, c.isDigit = true) ∧ behind = text.drop count := by
  unfold field? at hfield
  dsimp only at hfield
  split_ifs at hfield with hlength
  · cases hfield
  · obtain ⟨n, hn, hrest⟩ := Option.bind_eq_some_iff.mp hfield
    obtain ⟨hdenotes, -⟩ := Numeral.digitsWithin?_eq_some_iff.mp hn
    split_ifs at hrest
    obtain ⟨-, rfl⟩ := Prod.mk.inj (Option.some.inj hrest)
    exact ⟨hdenotes.decimal, rfl⟩

/-- A run of digits up to the end of the line starts no date and no time. -/
theorem field?_mark? {digits rest : List Char} {count low high : Nat} {separator : Char}
    (hdigits : ∀ c ∈ digits, c.isDigit = true) (hseparator : separator.isDigit = false)
    (hline : separator ≠ '\n') :
    (field? count low high (digits ++ '\n' :: rest)).bind (fun (_, rest) => mark? separator rest) =
      none := by
  rw [Option.bind_eq_none_iff]
  rintro ⟨m, behind⟩ hfield
  obtain ⟨hdecimal, rfl⟩ := decimal_of_field? hfield
  have hwithin : count ≤ digits.length := by
    by_contra hmore
    obtain ⟨extra, rfl⟩ := Nat.exists_eq_add_of_lt (Nat.lt_of_not_le hmore)
    have hmem : '\n' ∈ (digits ++ '\n' :: rest).take (digits.length + extra + 1) := by
      have hextra : digits.length + extra + 1 - digits.length = extra + 1 := by omega
      rw [List.take_append, hextra]
      simp
    exact absurd (hdecimal '\n' hmem) (by decide)
  rw [List.drop_append_of_le_length hwithin]
  show mark? separator _ = none
  cases hdrop : digits.drop count with
  | nil => exact if_neg hline.symm
  | cons c more =>
      have hdigit := hdigits c (List.mem_of_mem_drop (hdrop ▸ List.mem_cons_self))
      apply if_neg
      rintro rfl
      rw [hdigit] at hseparator
      cases hseparator

theorem readNumeric_writeNat {n : Nat} (hn : n ≤ greatest) (rest : List Char) :
    readNumeric (writeNat n ++ '\n' :: rest) = some (.integer n, '\n' :: rest) := by
  have hmoment : startsMoment (writeNat n ++ '\n' :: rest) = false := by
    have hdigits := fun c => isDigit_of_mem_writeNat (c := c) (n := n)
    rw [startsMoment, startsDate, startsTime, field?_mark? hdigits (by decide) (by decide),
      field?_mark? hdigits (by decide) (by decide)]
    rfl
  have hspecial : specialFloat? (writeNat n ++ '\n' :: rest) = none := by
    obtain ⟨c, digits, hwritten, hdigit, -⟩ := exists_writeNat_cons n
    rw [hwritten, List.cons_append, specialFloat?, sign_of_isDigit hdigit]
    dsimp only
    rw [dropWord?_of_isDigit (by decide) hdigit, dropWord?_of_isDigit (by decide) hdigit]
    rfl
  rw [readNumeric, hmoment, float?_writeNat, hspecial, integer?_writeNat hn]
  rfl

theorem readWord_of_isDigit {c : Char} {rest : List Char} (hdigit : c.isDigit = true) :
    readWord (c :: rest) = none := by
  rw [readWord, dropWord?_of_isDigit (by decide) hdigit, dropWord?_of_isDigit (by decide) hdigit]
  rfl

theorem readValue_of_isDigit {c : Char} {rest : List Char} (depth : Nat)
    (hdigit : c.isDigit = true) : readValue depth (c :: rest) = readNumeric (c :: rest) := by
  have hother : ∀ mark : Char, mark.isDigit = false → c ≠ mark := by
    rintro mark hmark rfl
    rw [hdigit] at hmark
    cases hmark
  have hword : (readWord (c :: rest)).or (readNumeric (c :: rest)) = readNumeric (c :: rest) := by
    rw [readWord_of_isDigit hdigit, Option.none_or]
  unfold readValue
  split
  next heq => exact absurd (List.cons.inj heq).1 (hother _ (by decide))
  next heq => exact absurd (List.cons.inj heq).1 (hother _ (by decide))
  next heq => exact absurd (List.cons.inj heq).1 (hother _ (by decide))
  next heq => exact absurd (List.cons.inj heq).1 (hother _ (by decide))
  next => exact hword

theorem readValue_writeNat {n : Nat} (depth : Nat) (hn : n ≤ greatest) (rest : List Char) :
    readValue depth (writeNat n ++ '\n' :: rest) = some (.integer n, '\n' :: rest) := by
  obtain ⟨c, digits, hwritten, hdigit, -⟩ := exists_writeNat_cons n
  have hread := readNumeric_writeNat hn rest
  rw [hwritten, List.cons_append] at hread ⊢
  rw [readValue_of_isDigit depth hdigit, hread]

/-! ## Strings -/

theorem exists_writeString_cons (text : List Char) :
    ∃ quote more, writeString text = quote :: more ∧ (quote = '"' ∨ quote = '\'') := by
  unfold writeString
  cases formOf text
  all_goals exact ⟨_, _, rfl, by decide⟩

theorem readValue_writeString (depth : Nat) (text rest : List Char) :
    readValue depth (writeString text ++ '\n' :: rest) =
      some (.string (String.ofList text), '\n' :: rest) := by
  have hread : string? (writeString text ++ '\n' :: rest) = some (text, '\n' :: rest) :=
    string?_writeString text (by simp) (by simp)
  obtain ⟨quote, more, hwritten, rfl | rfl⟩ := exists_writeString_cons text
  all_goals
    rw [hwritten, List.cons_append] at hread ⊢
    rw [readValue.eq_def]
    dsimp only
    rw [hread]
    rfl

/-! ## Lines -/

theorem ne_of_isBare {c mark : Char} (hbare : isBare c = true) (hmark : isBare mark = false) :
    c ≠ mark := by
  rintro rfl
  rw [hbare] at hmark
  cases hmark

theorem isBlank_of_isBare {c : Char} (hbare : isBare c = true) : isBlank c = false := by
  have hspace : c ≠ ' ' := ne_of_isBare hbare (by decide)
  have htab : c ≠ '\t' := ne_of_isBare hbare (by decide)
  simp [isBlank, hspace, htab]

theorem isBare_of_isDigit {c : Char} (hdigit : c.isDigit = true) : isBare c = true := by
  simp [isBare, Char.isAlphanum, hdigit]

theorem skipBlanks_of_head {text : List Char}
    (hhead : ∀ c, text.head? = some c → isBlank c = false) : skipBlanks text = text := by
  cases text with
  | nil => rfl
  | cons c rest => exact List.dropWhile_cons_of_neg (by simp [hhead c rfl])

/-- A line for one key that stands without quotes, and the value that is read
back from it. -/
structure Line where
  key : List Char
  value : List Char
  item : Item
  named : key ≠ []
  bare : key.all isBare = true
  tight : ∀ c, value.head? = some c → isBlank c = false
  reads : ∀ rest, readValue (depthLimit - 1) (value ++ '\n' :: rest) = some (item, '\n' :: rest)

namespace Line

def text (line : Line) : List Char := writeLine line.key line.value

def entry (line : Line) : String × Item := (String.ofList line.key, line.item)

section

variable (key : List Char) (named : key ≠ []) (bare : key.all isBare = true)

def string (text : List Char) : Line where
  key := key
  value := writeString text
  item := .string (String.ofList text)
  named := named
  bare := bare
  tight := by
    obtain ⟨quote, more, hwritten, rfl | rfl⟩ := exists_writeString_cons text
    all_goals
      rw [hwritten]
      rintro c ⟨⟩
      decide
  reads := readValue_writeString _ text

def number (n : Nat) (hn : n ≤ greatest) : Line where
  key := key
  value := writeNat n
  item := .integer n
  named := named
  bare := bare
  tight := by
    obtain ⟨c, digits, hwritten, hdigit, -⟩ := exists_writeNat_cons n
    rw [hwritten]
    rintro c ⟨⟩
    exact isBlank_of_isBare (isBare_of_isDigit hdigit)
  reads := readValue_writeNat _ hn

end

end Line

section

variable (line : Line) (rest : List Char)

theorem isBare_of_mem_key {c : Char} (hc : c ∈ line.key) : isBare c = true :=
  List.all_eq_true.mp line.bare c hc

theorem exists_key_cons : ∃ c more, line.key = c :: more ∧ isBare c = true := by
  cases hkey : line.key with
  | nil => exact absurd hkey line.named
  | cons c more => exact ⟨c, more, rfl, isBare_of_mem_key line (by simp [hkey])⟩

theorem keyPart?_line :
    keyPart? (line.key ++ ' ' :: rest) = some (String.ofList line.key, ' ' :: rest) := by
  have htake : (line.key ++ ' ' :: rest).takeWhile isBare = line.key :=
    takeWhile_append_of_stop (fun _ => isBare_of_mem_key line) (by rintro c ⟨⟩; decide)
  have hdrop : (line.key ++ ' ' :: rest).dropWhile isBare = ' ' :: rest :=
    dropWhile_append_of_stop (fun _ => isBare_of_mem_key line) (by rintro c ⟨⟩; decide)
  obtain ⟨c, more, hkey, hbare⟩ := exists_key_cons line
  rw [hkey] at htake hdrop ⊢
  unfold keyPart?
  split
  next heq => exact absurd (List.cons.inj heq).1 (ne_of_isBare hbare (by decide))
  next heq => exact absurd (List.cons.inj heq).1 (ne_of_isBare hbare (by decide))
  next =>
    dsimp only
    rw [htake, hdrop]
    rfl

theorem skipBlanks_key : skipBlanks (line.key ++ rest) = line.key ++ rest := by
  obtain ⟨c, more, hkey, hbare⟩ := exists_key_cons line
  apply skipBlanks_of_head
  rw [hkey]
  rintro c ⟨⟩
  exact isBlank_of_isBare hbare

theorem key?_line :
    key? (line.key ++ ' ' :: '=' :: rest) = some (([], String.ofList line.key), '=' :: rest) := by
  rw [key?, keyParts, skipBlanks_key, keyPart?_line]
  rfl

theorem skipBlanks_value :
    skipBlanks (' ' :: (line.value ++ '\n' :: rest)) = line.value ++ '\n' :: rest := by
  have htight := line.tight
  have hhead : skipBlanks (line.value ++ '\n' :: rest) = line.value ++ '\n' :: rest := by
    apply skipBlanks_of_head
    cases hvalue : line.value with
    | nil =>
        rintro c ⟨⟩
        decide
    | cons first more =>
        rintro c ⟨⟩
        exact htight first (by rw [hvalue]; rfl)
  exact hhead

theorem readEntryLine_line (draft : Draft) :
    readEntryLine draft (line.text ++ rest) =
      (draft.add [] line.entry.1 line.entry.2).map fun draft => (draft, rest) := by
  have hsplit : line.text ++ rest =
      line.key ++ ' ' :: '=' :: (' ' :: (line.value ++ '\n' :: rest)) := by
    simp [Line.text, writeLine]
  have hmark : mark? '=' ('=' :: ' ' :: (line.value ++ '\n' :: rest)) =
      some (' ' :: (line.value ++ '\n' :: rest)) := rfl
  have hend : endLine? ('\n' :: rest) = some rest := rfl
  rw [readEntryLine, hsplit, key?_line]
  simp only [Option.bind_eq_bind, Option.bind_some, hmark, skipBlanks_value, line.reads, hend]
  exact (Option.map_eq_bind (x := draft.add [] line.entry.1 line.entry.2)).symm

theorem exists_text_cons :
    ∃ c more, line.text ++ rest = c :: more ∧ isBare c = true := by
  obtain ⟨c, more, hkey, hbare⟩ := exists_key_cons line
  refine ⟨c, more ++ [' ', '=', ' '] ++ line.value ++ ['\n'] ++ rest, ?_, hbare⟩
  simp [Line.text, writeLine, hkey]

theorem readLine_line (draft : Draft) :
    readLine draft (line.text ++ rest) =
      (draft.add [] line.entry.1 line.entry.2).map fun draft => (draft, rest) := by
  rw [← readEntryLine_line]
  obtain ⟨c, more, htext, hbare⟩ := exists_text_cons line rest
  rw [htext]
  unfold readLine
  split
  next heq => exact absurd (List.cons.inj heq).1 (ne_of_isBare hbare (by decide))
  next heq => exact absurd (List.cons.inj heq).1 (ne_of_isBare hbare (by decide))
  next =>
    rw [newline?_cons more (ne_of_isBare hbare (by decide)) (ne_of_isBare hbare (by decide))]

theorem readLines_line (fuel : Nat) (draft : Draft) :
    readLines (fuel + 1) draft (line.text ++ rest) =
      (draft.add [] line.entry.1 line.entry.2).bind fun draft =>
        readLines fuel draft rest := by
  have hread := readLine_line line rest draft
  obtain ⟨c, more, htext, hbare⟩ := exists_text_cons line rest
  have hblank : skipBlanks (c :: more) = c :: more :=
    skipBlanks_of_head (by rintro first ⟨⟩; exact isBlank_of_isBare hbare)
  rw [htext] at hread ⊢
  rw [readLines.eq_def]
  dsimp only
  rw [hblank]
  dsimp only
  rw [hread]
  cases draft.add [] line.entry.1 line.entry.2 <;> rfl

end

theorem find?_of_absent {entries : Entries} {name : String} (habsent : name ∉ entries.map (·.1)) :
    Entries.find? entries name = none := by
  rw [Entries.find?, Option.map_eq_none_iff, List.find?_eq_none]
  intro entry hentry hname
  exact habsent (List.mem_map.mpr ⟨entry, hentry, by simpa using hname⟩)

theorem set_of_absent {entries : Entries} {name : String} {item : Item}
    (habsent : name ∉ entries.map (·.1)) :
    Entries.set entries name item = entries ++ [(name, item)] := by
  induction entries with
  | nil => rfl
  | cons entry rest ih =>
      rw [List.map_cons, List.mem_cons, not_or] at habsent
      rw [Entries.set, if_neg (Ne.symm habsent.1), ih habsent.2, List.cons_append]

theorem add_of_absent {draft : Draft} {name : String} {item : Item}
    (habsent : name ∉ draft.entries.map (·.1)) :
    draft.add [] name item = some { draft with entries := draft.entries ++ [(name, item)] } := by
  have hentry : addEntry [] name item ⟨false, draft.entries⟩ =
      some ⟨false, draft.entries ++ [(name, item)]⟩ := by
    unfold addEntry
    rw [if_neg (by simp)]
    simp only [find?_of_absent habsent, Open.set, set_of_absent habsent]
  rw [Draft.add, insert, descend, only, hentry]
  rfl

/-- The lines of a document add their entries in turn. -/
theorem readLines_lines {lines : List Line} {fuel : Nat} {draft : Draft}
    (hfuel : lines.length ≤ fuel)
    (hnames : (draft.entries.map (·.1) ++ lines.map (·.entry.1)).Nodup) :
    readLines fuel draft (lines.flatMap Line.text) =
      some { draft with entries := draft.entries ++ lines.map Line.entry } := by
  induction lines generalizing fuel draft with
  | nil =>
      rw [List.map_nil, List.append_nil]
      cases fuel <;> rfl
  | cons line lines ih =>
      obtain ⟨fuel, rfl⟩ : ∃ less, fuel = less + 1 := ⟨fuel - 1, by simp at hfuel; omega⟩
      have habsent : line.entry.1 ∉ draft.entries.map (·.1) := by
        intro hmem
        rw [List.nodup_append] at hnames
        exact hnames.2.2 _ hmem _ (List.mem_map_of_mem List.mem_cons_self) rfl
      rw [List.flatMap_cons, readLines_line, add_of_absent habsent, Option.bind_some,
        ih (by simpa using hfuel) (by simpa using hnames)]
      simp [Line.entry]

theorem length_le_lines (lines : List Line) :
    lines.length ≤ (lines.flatMap Line.text).length := by
  induction lines with
  | nil => exact Nat.le_refl _
  | cons line lines ih =>
      have hsome : 0 < line.text.length := by
        simp only [Line.text, writeLine, List.length_append, List.length_cons]
        omega
      rw [List.flatMap_cons, List.length_cons, List.length_append]
      omega

theorem head?_lines (lines : List Line) :
    (lines.flatMap Line.text).head? ≠ some byteOrderMark := by
  cases lines with
  | nil => simp
  | cons line lines =>
      obtain ⟨c, more, htext, hbare⟩ := exists_text_cons line (lines.flatMap Line.text)
      rw [List.flatMap_cons, htext, List.head?_cons, ne_eq, Option.some.injEq]
      exact ne_of_isBare hbare (by decide)

/-- A document of lines for different keys is read back as what its lines give. -/
theorem readDocument_lines {lines : List Line} (hnames : (lines.map (·.entry.1)).Nodup) :
    readDocument (lines.flatMap Line.text) = some (lines.map Line.entry) := by
  rw [readDocument, if_neg (head?_lines lines),
    readLines_lines (length_le_lines lines) (by simpa [Draft.empty] using hnames)]
  rfl

end NodeLink.Toml
