import NodeLink.Json.Reader
import NodeLink.Proofs.Json.Grammar
import NodeLink.Proofs.Json.Integer
import NodeLink.Proofs.Text.Utf8
/-!
# Reading what was written

The machine that reads JSON takes whatever the writer makes of a value, one part
after the other, and delivers the value that was written.  This holds for values
whose numbers are integers of 64 bits, whose nesting the reader allows and whose
outermost names it knows.
-/

namespace NodeLink.Json

open NodeLink.Text

/-- Values made of texts, truth values and null, nested at most so many levels. -/
inductive Value.Textual : Nat → Value → Prop
  | null {depth : Nat} : Textual depth .null
  | bool {depth : Nat} (b : Bool) : Textual depth (.bool b)
  | string {depth : Nat} (text : String) : Textual depth (.string text)
  | array {depth : Nat} {items : List Value} (hitems : ∀ item ∈ items, Textual depth item) :
      Textual (depth + 1) (.array items)
  | object {depth : Nat} {members : List (String × Value)}
      (hmembers : ∀ member ∈ members, Textual depth member.2) :
      Textual (depth + 1) (.object members)

/-- Values whose numbers are integers of 64 bits, nested at most so many levels. -/
inductive Value.Exact : Nat → Value → Prop
  | null {depth : Nat} : Exact depth .null
  | bool {depth : Nat} (b : Bool) : Exact depth (.bool b)
  | integer {depth : Nat} {n : Int} (hfits : FitsWord n) : Exact depth (.number (.integer n))
  | string {depth : Nat} (text : String) : Exact depth (.string text)
  | array {depth : Nat} {items : List Value} (hitems : ∀ item ∈ items, Exact depth item) :
      Exact (depth + 1) (.array items)
  | object {depth : Nat} {members : List (String × Value)}
      (hmembers : ∀ member ∈ members, Exact depth member.2) :
      Exact (depth + 1) (.object members)

theorem Value.Textual.exact {depth : Nat} {value : Value} (htextual : value.Textual depth) :
    value.Exact depth := by
  induction htextual with
  | null => exact .null
  | bool b => exact .bool b
  | string text => exact .string text
  | array _ ih => exact .array ih
  | object _ ih => exact .object ih

theorem Value.Exact.single {depth : Nat} {value : Value} (hexact : value.Exact depth)
    (name : String) : (Value.object [(name, value)]).Exact (depth + 1) := by
  apply Value.Exact.object
  intro member hmember
  obtain rfl := List.mem_singleton.mp hmember
  exact hexact

def Value.names : Value → List String
  | .object members => members.map (·.1)
  | _ => []

namespace Reader

/-! ## Steps -/

variable {known : String → Bool}

/-- The machine goes through a text and is in another state behind it. -/
def Reads (known : String → Bool) (st : State) (text : List Char) (later : State) : Prop :=
  text.foldlM (State.step known) st = some later

theorem Reads.nil (st : State) : Reads known st [] st := rfl

theorem Reads.trans {st middle last : State} {former latter : List Char}
    (hfirst : Reads known st former middle) (hsecond : Reads known middle latter last) :
    Reads known st (former ++ latter) last := by
  unfold Reads at *
  rw [List.foldlM_append, hfirst]
  exact hsecond

theorem Reads.cons {st middle last : State} {c : Char} {text : List Char}
    (hstep : st.step known c = some middle) (hrest : Reads known middle text last) :
    Reads known st (c :: text) last := by
  unfold Reads at *
  rw [List.foldlM_cons, hstep]
  exact hrest

theorem Reads.single {st later : State} {c : Char} (hstep : st.step known c = some later) :
    Reads known st [c] later :=
  .cons hstep (.nil later)

/-! ## Strings -/

/-- A string, or a name, of which some characters have been read. -/
def inText (stack : List Frame) (isName : Bool) (before : List Char) (skimming : Bool := false) :
    State :=
  ⟨stack, .text isName ⟨before, .absent, false⟩, skimming⟩

section

variable {stack : List Frame} {isName skimming : Bool} {before : List Char} {c : Char}

theorem reads_bare (hc : IsBare c) :
    Reads known (inText stack isName before skimming) [c]
      (inText stack isName (c :: before) skimming) := by
  obtain ⟨hquote, hslash, hplain⟩ := hc
  apply Reads.single
  have hcontrol : ¬ c.toNat < 0x20 := Nat.not_lt.mpr hplain
  simp [inText, State.step, StringText.step, StringText.push, hquote, hslash, hcontrol]

theorem namedEscape?_of_mem {mark c : Char} (hmark : (mark, c) ∈ namedEscapes) :
    namedEscape? mark = some c ∧ mark ≠ 'u' := by
  have hall : ∀ pair ∈ namedEscapes, namedEscape? pair.1 = some pair.2 ∧ pair.1 ≠ 'u' := by
    decide
  exact hall _ hmark

/-- A string within an escape sequence. -/
def inEscape (stack : List Frame) (isName : Bool) (before : List Char) (escape : Escape)
    (skimming : Bool) : State :=
  ⟨stack, .text isName ⟨before, escape, false⟩, skimming⟩

theorem step_backslash : (inText stack isName before skimming).step known '\\' =
    some (inEscape stack isName before .backslash skimming) := by
  simp [inText, inEscape, State.step, StringText.step]

theorem reads_named {mark : Char} (hmark : (mark, c) ∈ namedEscapes) :
    Reads known (inText stack isName before skimming) ['\\', mark]
      (inText stack isName (c :: before) skimming) := by
  obtain ⟨hescape, hnamed⟩ := namedEscape?_of_mem hmark
  apply Reads.cons step_backslash
  apply Reads.single
  simp [inText, inEscape, State.step, StringText.step, StringText.push, StringText.isPlain, hescape,
    hnamed]

theorem step_mark : (inEscape stack isName before .backslash skimming).step known 'u' =
    some (inEscape stack isName before (.digits none []) skimming) := by
  simp [inEscape, State.step, StringText.step, StringText.isPlain]

theorem utf8Size_of_hexValue? {n : Nat} (hvalue : Hex.value? c = some n) : c.utf8Size = 1 := by
  have hsmall : c.toNat < 0x80 := by
    simp only [Hex.value?, Bool.and_eq_true, decide_eq_true_eq] at hvalue
    split_ifs at hvalue <;> omega
  rw [Char.utf8Size_eq_one_iff, UInt32.le_iff_toNat_le]
  exact Nat.le_of_lt_succ hsmall

/-- The four digits of an escape sequence are looked at together, behind the last of them. -/
theorem foldlM_unit {digits : List Char} {n : Nat} (lead : Option Nat) (hunit : IsUnit digits n) :
    digits.foldlM (State.step known) (inEscape stack isName before (.digits lead []) skimming) =
      (StringText.unit ⟨before, .absent, false⟩ skimming lead n).map fun part =>
        ⟨stack, .text isName part, skimming⟩ := by
  obtain ⟨hlength, hnumber⟩ := hunit
  match digits, hlength with
  | [c₁, c₂, c₃, c₄], _ =>
    have hdigits := hnumber
    simp only [Hex.number?, List.foldlM_cons, List.foldlM_nil, Option.bind_eq_bind,
      Option.bind_eq_some_iff, Option.map_eq_some_iff] at hdigits
    obtain ⟨_, ⟨_, hfirst, -⟩, _, ⟨_, hsecond, -⟩, _, ⟨_, hthird, -⟩, _, ⟨_, hfourth, -⟩, -⟩ :=
      hdigits
    simp [inEscape, State.step, StringText.step, StringText.isPlain, byteLength,
      utf8Size_of_hexValue? hfirst, utf8Size_of_hexValue? hsecond, utf8Size_of_hexValue? hthird,
      utf8Size_of_hexValue? hfourth, hnumber]
    rfl

theorem step_torn_backslash (lead : Nat) :
    (inEscape stack isName before (.leading lead) skimming).step known '\\' =
      some (inEscape stack isName before (.leadingBackslash lead) skimming) := by
  simp [inEscape, State.step, StringText.step, StringText.isPlain]

theorem step_torn_mark (lead : Nat) (c : Char) :
    (inEscape stack isName before (.leadingBackslash lead) skimming).step known c =
      if c = 'u' then some (inEscape stack isName before (.digits (some lead) []) skimming)
      else none := by
  by_cases hc : c = 'u' <;>
    simp [inEscape, State.step, StringText.step, StringText.isPlain, hc]

end

section

variable {stack : List Frame} {isName : Bool}

/-- A unit that is no surrogate stands for itself. -/
theorem reads_unit {before digits : List Char} {n : Nat} (hunit : IsUnit digits n)
    (hleading : ¬ IsLeading n) (htrailing : ¬ IsTrailing n) :
    Reads known (inText stack isName before) ('\\' :: 'u' :: digits)
      (inText stack isName (Char.ofNat n :: before)) := by
  have hdigits : digits.foldlM (State.step known)
      (inEscape stack isName before (.digits none []) false) = _ := foldlM_unit none hunit
  unfold IsLeading at hleading
  unfold IsTrailing at htrailing
  apply Reads.cons step_backslash
  apply Reads.cons step_mark
  simpa [Reads, StringText.unit, hleading, htrailing, StringText.push, inText] using hdigits

theorem reads_pair {before high low : List Char} {m n : Nat} (hhigh : IsUnit high m)
    (hleading : IsLeading m) (hlow : IsUnit low n) (htrailing : IsTrailing n) :
    Reads known (inText stack isName before) ('\\' :: 'u' :: (high ++ '\\' :: 'u' :: low))
      (inText stack isName
        (Char.ofNat (0x10000 + (m - 0xD800) * 0x400 + (n - 0xDC00)) :: before)) := by
  have hfirst : high.foldlM (State.step known)
      (inEscape stack isName before (.digits none []) false) = _ :=
    foldlM_unit none hhigh
  have hsecond : low.foldlM (State.step known)
      (inEscape stack isName before (.digits (some m) []) false) = _ :=
    foldlM_unit (some m) hlow
  have hapart : ¬ (0xDC00 ≤ m ∧ m ≤ 0xDFFF) := by
    have hgreatest := hleading.2
    omega
  have htorn : Reads known (inEscape stack isName before (.digits none []) false) high
      (inEscape stack isName before (.leading m) false) := by
    simpa [Reads, StringText.unit, hapart, hleading.1, hleading.2, inEscape] using hfirst
  have hwhole : Reads known (inEscape stack isName before (.digits (some m) []) false) low
      (inText stack isName
        (Char.ofNat (0x10000 + (m - 0xD800) * 0x400 + (n - 0xDC00)) :: before)) := by
    simpa [Reads, StringText.unit, htrailing.1, htrailing.2, StringText.push, inText] using hsecond
  apply Reads.cons step_backslash
  apply Reads.cons step_mark
  apply htorn.trans
  apply Reads.cons (step_torn_backslash m)
  exact .cons (by rw [step_torn_mark, if_pos rfl]) hwhole

theorem reads_spelled {literal chars : List Char} (hspells : Spells literal chars)
    (before : List Char) :
    Reads known (inText stack isName before) literal
      (inText stack isName (chars.reverse ++ before)) := by
  induction hspells generalizing before with
  | nil => exact .nil _
  | @bare c literal chars hc _ ih =>
      rw [List.reverse_cons, List.append_assoc]
      exact (reads_bare hc).trans (ih (c :: before))
  | @named mark c literal chars hmark _ ih =>
      rw [List.reverse_cons, List.append_assoc]
      exact (reads_named hmark).trans (ih (c :: before))
  | @unit digits literal chars n hunit hleading htrailing _ ih =>
      rw [List.reverse_cons, List.append_assoc]
      exact (reads_unit hunit hleading htrailing).trans (ih _)
  | @pair high low literal chars m n hhigh hleading hlow htrailing _ ih =>
      rw [List.reverse_cons, List.append_assoc]
      have hpair : Reads known (inText stack isName before) _ (inText stack isName _) :=
        (reads_pair hhigh hleading hlow htrailing).trans (ih _)
      simpa using hpair

/-- A string is read as far as its closing quote. -/
theorem reads_closed {literal : List Char} {text : String} (hspells : Spells literal text.toList)
    {later : State}
    (hclose : (inText stack isName text.toList.reverse).step known '"' = some later) :
    Reads known (inText stack isName []) (literal ++ ['"']) later := by
  have hliteral : Reads known (inText stack isName []) literal
      (inText stack isName (text.toList.reverse ++ [])) := reads_spelled hspells []
  rw [List.append_nil] at hliteral
  exact hliteral.trans (.single hclose)

end

/-! ## Delivery -/

/-- The state behind a value that stands in some arrays and objects. -/
def delivered (stack : List Frame) (value : Value) (skimming : Bool := false) : State :=
  State.deliver ⟨stack, .behind, skimming⟩ value

theorem deliver_eq (stack : List Frame) (mode : Mode) (value : Value) {skimming : Bool} :
    State.deliver ⟨stack, mode, skimming⟩ value = delivered stack value skimming := by
  unfold delivered State.deliver
  cases stack with
  | nil => rfl
  | cons frame rest => cases frame <;> rfl

theorem delivered_array (before : List Value) (rest : List Frame) (value : Value) :
    delivered (.array before :: rest) value = ⟨.array (value :: before) :: rest, .behind, false⟩ :=
  rfl

theorem delivered_object (before : List (String × Value)) (name : String) (rest : List Frame)
    (value : Value) :
    delivered (.object before name :: rest) value =
      ⟨.object ((name, value) :: before) name :: rest, .behind, false⟩ := by
  simp [delivered, State.deliver]

theorem step_delivered (stack : List Frame) (value : Value) (c : Char) {skimming : Bool} :
    (delivered stack value skimming).step known c = (delivered stack value skimming).behind c := by
  cases stack with
  | nil => rfl
  | cons frame rest => cases frame <;> rfl

/-- The machine has read a value that stands in some arrays and objects.  Behind a
number it still waits for a further digit. -/
inductive HasRead (stack : List Frame) : Value → State → Prop
  | behind (value : Value) : HasRead stack value (delivered stack value)
  | number {literal : NumberText} {n : Number} (hcomplete : literal.isComplete = true)
      (hvalue : literal.value? = some n) :
      HasRead stack (.number n) ⟨stack, .number literal, false⟩

/-- The characters that may stand behind a value: those that separate values or close what
they stand in, and white space. -/
def Separates (c : Char) : Prop :=
  c ∈ [',', ']', '\x7d', ' ', '\t', '\n', '\r']

theorem separates_of_isSpace {c : Char} (hc : isSpace c = true) : Separates c := by
  simp only [isSpace, Bool.or_eq_true, decide_eq_true_eq] at hc
  rcases hc with ((rfl | rfl) | rfl) | rfl <;> simp [Separates]

theorem extend?_of_separates {c : Char} (hc : Separates c) (literal : NumberText) :
    literal.extend? c = none := by
  have hforeign : ∀ d ∈ [',', ']', '\x7d', ' ', '\t', '\n', '\r'],
      Numeral.isDigit d = false ∧ NumberText.isMark d = false ∧
        d ≠ '0' ∧ d ≠ '.' ∧ d ≠ '+' ∧ d ≠ '-' := by
    simp only [List.forall_mem_cons, List.not_mem_nil, false_implies, implies_true, and_true]
    decide
  obtain ⟨hdigit, hmark, hzero, hpoint, hplus, hminus⟩ := hforeign c hc
  unfold NumberText.extend?
  cases literal.stage <;> simp [hdigit, hmark, hzero, hpoint, hplus, hminus]

/-- Behind a value the machine goes on alike, whether the value is delivered or a
number that still has to end. -/
theorem HasRead.step {stack : List Frame} {value : Value} {st : State}
    (hread : HasRead stack value st) {c : Char} (hc : Separates c) :
    st.step known c = (delivered stack value).step known c := by
  cases hread with
  | behind => rfl
  | number hcomplete hvalue =>
      rw [step_delivered]
      simp [State.step, extend?_of_separates hc, hcomplete, State.endNumber, hvalue, deliver_eq]

theorem HasRead.finish {value : Value} {st : State} (hread : HasRead [] value st) :
    st.finish = .ok value := by
  cases hread with
  | behind => rfl
  | number hcomplete hvalue =>
      simp [State.finish, hcomplete, State.endNumber, hvalue, State.deliver]

/-! ## Values -/

/-- The machine expects a value, or perhaps the end of an array. -/
def atValue (stack : List Frame) (closable : Bool) (skimming : Bool := false) : State :=
  ⟨stack, .value closable, skimming⟩

theorem step_atValue (stack : List Frame) (closable : Bool) {skimming : Bool} {c : Char}
    (hspace : isSpace c = false) (hclose : c ≠ ']') :
    (atValue stack closable skimming).step known c =
      (atValue stack closable skimming).begin c := by
  simp [atValue, State.step, hspace, hclose]

/-- The machine goes through the text of a value and has read the value behind it. -/
def ReadsValue (known : String → Bool) (stack : List Frame) (closable : Bool) (text : List Char)
    (value : Value) : Prop :=
  ∃ st, Reads known (atValue stack closable) text st ∧ HasRead stack value st

theorem ReadsValue.goOn {stack : List Frame} {closable : Bool} {text rest : List Char}
    {value : Value} {c : Char} {later : State} (hvalue : ReadsValue known stack closable text value)
    (hc : Separates c) (hrest : Reads known (delivered stack value) (c :: rest) later) :
    Reads known (atValue stack closable) (text ++ c :: rest) later := by
  obtain ⟨st, hreads, hread⟩ := hvalue
  apply hreads.trans
  unfold Reads at *
  rw [List.foldlM_cons] at hrest ⊢
  rw [hread.step hc]
  exact hrest

theorem Reads.value {stack : List Frame} {closable : Bool} {text : List Char} {value : Value}
    (hreads : Reads known (atValue stack closable) text (delivered stack value)) :
    ReadsValue known stack closable text value :=
  ⟨_, hreads, .behind value⟩

theorem step_quote (stack : List Frame) (closable : Bool) {skimming : Bool} :
    (atValue stack closable skimming).step known '"' = some (inText stack false [] skimming) := by
  rw [step_atValue stack closable (by decide) (by decide)]
  simp [atValue, State.begin, inText, emptyString]

theorem reads_string (stack : List Frame) (closable : Bool) {literal : List Char} {text : String}
    (hspells : Spells literal text.toList) :
    Reads known (atValue stack closable) (quote literal) (delivered stack (.string text)) := by
  apply Reads.cons (step_quote stack closable)
  apply reads_closed hspells
  simp [inText, State.step, StringText.isPlain, State.endString, deliver_eq]

/-- The machine stands behind the name of a member. -/
def atColon (before : List (String × Value)) (name : String) (rest : List Frame)
    (skimming : Bool := false) : State :=
  ⟨.object before name :: rest, .colon, skimming⟩

theorem reads_name (before : List (String × Value)) (former : String) {literal : List Char}
    {name : String} {rest : List Frame} (hspells : Spells literal name.toList) :
    Reads known (inText (.object before former :: rest) true []) (literal ++ ['"'])
      (atColon before name rest) := by
  apply reads_closed hspells
  simp [inText, State.step, StringText.isPlain, State.endString, atColon]

theorem step_colon {before : List (String × Value)} {name : String} {rest : List Frame}
    {skimming : Bool} : (atColon before name rest skimming).step known ':' =
      some (atValue (.object before name :: rest) false
        ((atColon before name rest skimming).skims known)) := by
  have hspace : isSpace ':' = false := by decide
  simp [State.step, atColon, hspace, atValue]

/-- Within a value it goes on as with the value. -/
theorem skims_nested {before : List (String × Value)} {name : String} {rest : List Frame}
    (hrest : rest ≠ []) {skimming : Bool} :
    (atColon before name rest skimming).skims known = skimming := by
  cases rest with
  | nil => exact absurd rfl hrest
  | cons frame rest => rfl

theorem step_atColon {before : List (String × Value)} {name : String} {rest : List Frame}
    (hknown : rest = [] → known name = true) :
    (atColon before name rest).step known ':' =
      some (atValue (.object before name :: rest) false) := by
  have hskims : (atColon before name rest).skims known = false := by
    cases rest with
    | nil => simp [atColon, State.skims, hknown rfl]
    | cons frame rest => rfl
  rw [step_colon, hskims]

/-- A member is read from its name on. -/
theorem reads_member {before : List (String × Value)} (former : String) {name : String}
    {rest : List Frame} {value : Value} {text latter : List Char} {c : Char} {later : State}
    (hknown : rest = [] → known name = true)
    (hvalue : ReadsValue known (.object before name :: rest) false text value)
    (hc : Separates c)
    (hrest : Reads known ⟨.object ((name, value) :: before) name :: rest, .behind, false⟩
      (c :: latter) later) :
    Reads known (inText (.object before former :: rest) true [])
      (name.toList.flatMap escapeChar ++ '"' :: ':' :: (text ++ c :: latter)) later := by
  rw [← delivered_object] at hrest
  have hcolon := Reads.cons (step_atColon hknown) (hvalue.goOn hc hrest)
  have hmember := (reads_name before former (spells_escaped name.toList)).trans hcolon
  rwa [List.append_assoc] at hmember

/-! ## Arrays and objects -/

theorem exists_writeItems (items : List Value) :
    ∃ c rest, Separates c ∧ writeItems items = c :: rest := by
  cases items with
  | nil => exact ⟨']', [], by simp [Separates], rfl⟩
  | cons item items => exact ⟨',', _, by simp [Separates], rfl⟩

theorem exists_writeMembers (members : List (String × Value)) :
    ∃ c rest, Separates c ∧ writeMembers members = c :: rest := by
  cases members with
  | nil => exact ⟨'\x7d', [], by simp [Separates], rfl⟩
  | cons member members => exact ⟨',', _, by simp [Separates], rfl⟩

section

variable {stack : List Frame} {skimming : Bool}

theorem step_comma_array (before : List Value) :
    State.step known ⟨.array before :: stack, .behind, skimming⟩ ',' =
      some (atValue (.array before :: stack) false skimming) := by
  have hspace : isSpace ',' = false := by decide
  simp [State.step, State.behind, hspace, atValue]

theorem step_close_array (before : List Value) :
    State.step known ⟨.array before :: stack, .behind, skimming⟩ ']' =
      some (delivered stack (.array before.reverse) skimming) := by
  have hspace : isSpace ']' = false := by decide
  simp [State.step, State.behind, State.close, hspace, deliver_eq]

theorem step_close_noElement (before : List Value) :
    State.step known ⟨.array before :: stack, .value true, skimming⟩ ']' =
      some (delivered stack (.array before.reverse) skimming) := by
  have hspace : isSpace ']' = false := by decide
  simp [State.step, State.close, hspace, deliver_eq]

theorem step_comma_object (before : List (String × Value)) (name : String) :
    State.step known ⟨.object before name :: stack, .behind, skimming⟩ ',' =
      some ⟨.object before name :: stack, .name false, skimming⟩ := by
  have hspace : isSpace ',' = false := by decide
  simp [State.step, State.behind, hspace]

theorem step_close_object (before : List (String × Value)) (name : String) :
    State.step known ⟨.object before name :: stack, .behind, skimming⟩ '\x7d' =
      some (delivered stack (.object before.reverse) skimming) := by
  have hspace : isSpace '\x7d' = false := by decide
  simp [State.step, State.behind, State.close, hspace, deliver_eq]

theorem step_close_noMember (before : List (String × Value)) (name : String) :
    State.step known ⟨.object before name :: stack, .name true, skimming⟩ '\x7d' =
      some (delivered stack (.object before.reverse) skimming) := by
  have hspace : isSpace '\x7d' = false := by decide
  simp [State.step, State.close, hspace, deliver_eq]

theorem step_quote_name (before : List (String × Value)) (name : String) (closable : Bool) :
    State.step known ⟨.object before name :: stack, .name closable, skimming⟩ '"' =
      some (inText (.object before name :: stack) true [] skimming) := by
  have hspace : isSpace '"' = false := by decide
  simp [State.step, hspace, inText, emptyString]

theorem reads_items {items : List Value}
    (hitems : ∀ item ∈ items, ∀ before : List Value,
      ReadsValue known (.array before :: stack) false item.write item) (before : List Value) :
    Reads known ⟨.array before :: stack, .behind, false⟩ (writeItems items)
      (delivered stack (.array (before.reverse ++ items))) := by
  induction items generalizing before with
  | nil =>
      rw [writeItems, List.append_nil]
      exact .single (step_close_array before)
  | cons item items ih =>
      obtain ⟨c, rest, hc, htext⟩ := exists_writeItems items
      have hfirst := hitems item List.mem_cons_self before
      have hrest := ih (fun other hmem => hitems other (List.mem_cons_of_mem _ hmem))
        (item :: before)
      rw [List.reverse_cons, List.append_assoc, htext, ← delivered_array] at hrest
      rw [writeItems, htext]
      exact .cons (step_comma_array before) (hfirst.goOn hc hrest)

theorem reads_members {members : List (String × Value)}
    (hknown : stack = [] → ∀ member ∈ members, known member.1 = true)
    (hmembers : ∀ member ∈ members, ∀ before : List (String × Value),
      ReadsValue known (.object before member.1 :: stack) false member.2.write member.2)
    (before : List (String × Value)) (former : String) :
    Reads known ⟨.object before former :: stack, .behind, false⟩ (writeMembers members)
      (delivered stack (.object (before.reverse ++ members))) := by
  induction members generalizing before former with
  | nil =>
      rw [writeMembers, List.append_nil]
      exact .single (step_close_object before former)
  | cons member members ih =>
      obtain ⟨name, value⟩ := member
      obtain ⟨c, rest, hc, htext⟩ := exists_writeMembers members
      have hname : stack = [] → known name = true :=
        fun houter => hknown houter _ List.mem_cons_self
      have hfirst := hmembers _ List.mem_cons_self before
      have hrest := ih (fun houter other hmem => hknown houter other (List.mem_cons_of_mem _ hmem))
        (fun other hmem => hmembers other (List.mem_cons_of_mem _ hmem))
        ((name, value) :: before) name
      rw [List.reverse_cons, List.append_assoc, htext] at hrest
      have hmember := reads_member former hname hfirst hc hrest
      have hquoted := Reads.cons (step_quote_name before former false) hmember
      have hwhole := Reads.cons (step_comma_object before former) hquoted
      simpa [writeMembers, quoted, htext] using hwhole

end

/-! ## Whole values -/

theorem reads_word {stack : List Frame} {closable skimming : Bool} {c : Char}
    {rest : List Char} {value : Value} (hspace : isSpace c = false) (hclose : c ≠ ']')
    (hbegin : (atValue stack closable skimming).begin c =
      some ⟨stack, .word rest value, skimming⟩) (hrest : rest ≠ []) :
    Reads known (atValue stack closable skimming) (c :: rest)
      (delivered stack value skimming) := by
  have hfirst : (atValue stack closable skimming).step known c =
      some ⟨stack, .word rest value, skimming⟩ := by
    rw [step_atValue stack closable hspace hclose, hbegin]
  apply Reads.cons hfirst
  clear hbegin hfirst
  induction rest with
  | nil => exact absurd rfl hrest
  | cons next rest ih =>
      cases rest with
      | nil =>
          apply Reads.single
          simp [State.step, deliver_eq]
      | cons other rest =>
          refine .cons ?_ (ih (by simp))
          simp [State.step]

theorem reads_null {stack : List Frame} (closable skimming : Bool) :
    Reads known (atValue stack closable skimming) ['n', 'u', 'l', 'l']
      (delivered stack .null skimming) :=
  reads_word (by decide) (by decide) (by simp [atValue, State.begin]) (by simp)

theorem reads_true {stack : List Frame} (closable skimming : Bool) :
    Reads known (atValue stack closable skimming) ['t', 'r', 'u', 'e']
      (delivered stack (.bool true) skimming) :=
  reads_word (by decide) (by decide) (by simp [atValue, State.begin]) (by simp)

theorem reads_false {stack : List Frame} (closable skimming : Bool) :
    Reads known (atValue stack closable skimming) ['f', 'a', 'l', 's', 'e']
      (delivered stack (.bool false) skimming) :=
  reads_word (by decide) (by decide) (by simp [atValue, State.begin]) (by simp)

theorem step_openArray {stack : List Frame} (closable : Bool)
    (hdepth : stack.length < greatestDepth) :
    (atValue stack closable).step known '[' = some (atValue (.array [] :: stack) true) := by
  have hroom : ¬ greatestDepth ≤ stack.length := Nat.not_le.mpr hdepth
  rw [step_atValue stack closable (by decide) (by decide)]
  simp [atValue, State.begin, State.openWith, hroom]

theorem step_openObject {stack : List Frame} (closable : Bool)
    (hdepth : stack.length < greatestDepth) :
    (atValue stack closable).step known '\x7b' =
      some ⟨.object [] "" :: stack, .name true, false⟩ := by
  have hroom : ¬ greatestDepth ≤ stack.length := Nat.not_le.mpr hdepth
  rw [step_atValue stack closable (by decide) (by decide)]
  simp [atValue, State.begin, State.openWith, hroom]

theorem reads_digits {stack : List Frame} {skimming : Bool} {literal later : NumberText}
    {digits : List Char} (hdigits : digits.foldlM NumberText.extend? literal = some later) :
    Reads known ⟨stack, .number literal, skimming⟩ digits ⟨stack, .number later, skimming⟩ := by
  induction digits generalizing literal with
  | nil =>
      obtain rfl := Option.some.inj hdigits
      exact .nil _
  | cons c digits ih =>
      rw [List.foldlM_cons, Option.bind_eq_bind, Option.bind_eq_some_iff] at hdigits
      obtain ⟨next, hnext, hrest⟩ := hdigits
      exact .cons (by simp [State.step, hnext]) (ih hrest)

theorem step_start {stack : List Frame} (closable : Bool) {skimming : Bool} {c : Char}
    {start : NumberText} (hstart : NumberText.start? c = some start) :
    (atValue stack closable skimming).step known c = some ⟨stack, .number start, skimming⟩ := by
  have hnone : ∀ d ∈ [' ', '\t', '\n', '\r', ']', '[', '\x7b', '"', 't', 'f', 'n'],
      NumberText.start? d = none := by
    simp only [List.forall_mem_cons, List.not_mem_nil, false_implies, implies_true, and_true]
    decide
  have hother : ∀ d ∈ [' ', '\t', '\n', '\r', ']', '[', '\x7b', '"', 't', 'f', 'n'], c ≠ d := by
    rintro d hd rfl
    simp [hnone c hd] at hstart
  simp only [List.forall_mem_cons, List.not_mem_nil, false_implies, implies_true, and_true] at hother
  obtain ⟨hblank, htab, hline, hreturn, hclose, hopen, hbrace, hquote, ht, hf, hn⟩ := hother
  rw [step_atValue stack closable (by simp [isSpace, hblank, htab, hline, hreturn]) hclose]
  simp [atValue, State.begin, hopen, hbrace, hquote, ht, hf, hn, hstart]

theorem reads_number {stack : List Frame} (closable : Bool) {skimming : Bool} {text : List Char}
    {literal : NumberText} (htext : NumberText.ofText? text = some literal) :
    Reads known (atValue stack closable skimming) text ⟨stack, .number literal, skimming⟩ := by
  cases text with
  | nil => cases htext
  | cons c digits =>
      rw [NumberText.ofText?, Option.bind_eq_some_iff] at htext
      obtain ⟨start, hstart, hdigits⟩ := htext
      exact .cons (step_start closable hstart) (reads_digits hdigits)

theorem reads_integer (stack : List Frame) (closable : Bool) {n : Int} (hfits : FitsWord n) :
    ReadsValue known stack closable (integerText n) (.number (.integer n)) := by
  obtain ⟨literal, htext, hcomplete, hvalue⟩ := NumberText.exists_ofText? hfits
  exact ⟨_, reads_number closable htext, .number hcomplete hvalue⟩

theorem reads_array {stack : List Frame} {items : List Value} (closable : Bool)
    (hroom : stack.length < greatestDepth)
    (hitems : ∀ item ∈ items, ∀ (before : List Value) (closable : Bool),
      ReadsValue known (.array before :: stack) closable item.write item) :
    Reads known (atValue stack closable) (Value.array items).write
      (delivered stack (.array items)) := by
  have hopen : (atValue stack closable).step known '[' =
      some (atValue (.array [] :: stack) true) := step_openArray closable hroom
  cases items with
  | nil => exact .cons hopen (.single (step_close_noElement []))
  | cons item items =>
      obtain ⟨c, rest, hc, htext⟩ := exists_writeItems items
      have hfirst := hitems item List.mem_cons_self [] true
      have hrest := reads_items
        (fun other hmem before => hitems other (List.mem_cons_of_mem _ hmem) before false)
        [item]
      rw [← delivered_array, htext] at hrest
      rw [Value.write, htext]
      exact .cons hopen (hfirst.goOn hc hrest)

theorem reads_object {stack : List Frame} {members : List (String × Value)} (closable : Bool)
    (hroom : stack.length < greatestDepth)
    (hknown : stack = [] → ∀ member ∈ members, known member.1 = true)
    (hmembers : ∀ member ∈ members, ∀ before : List (String × Value),
      ReadsValue known (.object before member.1 :: stack) false member.2.write member.2) :
    Reads known (atValue stack closable) (Value.object members).write
      (delivered stack (.object members)) := by
  have hopen : (atValue stack closable).step known '\x7b' =
      some ⟨.object [] "" :: stack, .name true, false⟩ := step_openObject closable hroom
  cases members with
  | nil => exact .cons hopen (.single (step_close_noMember [] ""))
  | cons member members =>
      obtain ⟨name, value⟩ := member
      obtain ⟨c, rest, hc, htext⟩ := exists_writeMembers members
      have hname : stack = [] → known name = true :=
        fun houter => hknown houter _ List.mem_cons_self
      have hrest := reads_members
        (fun houter other hmem => hknown houter other (List.mem_cons_of_mem _ hmem))
        (fun other hmem => hmembers other (List.mem_cons_of_mem _ hmem)) [(name, value)] name
      rw [htext] at hrest
      have hmember := reads_member "" hname (hmembers _ List.mem_cons_self []) hc hrest
      have hquoted := Reads.cons (step_quote_name [] "" true) hmember
      have hwhole := Reads.cons hopen hquoted
      simpa [Value.write, quoted, htext] using hwhole

/-- The machine reads what was written of a value as that value, wherever there is room for
its levels. -/
theorem reads_write {depth : Nat} {value : Value} (hexact : value.Exact depth)
    (stack : List Frame) (closable : Bool) (hdepth : stack.length + depth ≤ greatestDepth)
    (hknown : stack = [] → ∀ name ∈ value.names, known name = true) :
    ReadsValue known stack closable value.write value := by
  induction hexact generalizing stack closable with
  | null => exact (reads_null closable false).value
  | bool b =>
      cases b with
      | true => exact (reads_true closable false).value
      | false => exact (reads_false closable false).value
  | integer hfits => exact reads_integer stack closable hfits
  | string text => exact (reads_string stack closable (spells_escaped text.toList)).value
  | array hitems ih =>
      apply Reads.value
      apply reads_array closable (by omega)
      intro item hmem before closable
      apply ih item hmem
      · simp only [List.length_cons]
        omega
      · simp
  | object hmembers ih =>
      apply Reads.value
      apply reads_object closable (by omega)
      · intro houter member hmem
        exact hknown houter _ (List.mem_map_of_mem hmem)
      · intro member hmem before
        apply ih member hmem
        · simp only [List.length_cons]
          omega
        · simp

/-! ## Whole texts -/

/-- A text is read as a value from an empty stack on. -/
theorem readKnowing_of_readsValue {text : List Char} {value : Value}
    (hvalue : ReadsValue known [] false text value) : readKnowing known text = .ok value := by
  obtain ⟨st, hreads, hread⟩ := hvalue
  have hrun : text.foldlM (State.step known) State.start = some st := hreads
  rw [readKnowing, hrun]
  exact hread.finish

theorem readKnowing_write_exact {depth : Nat} {value : Value} (hexact : value.Exact depth)
    (hdepth : depth ≤ greatestDepth) (hknown : ∀ name ∈ value.names, known name = true) :
    readKnowing known value.write = .ok value := by
  apply readKnowing_of_readsValue
  apply reads_write hexact [] false
  · simpa using hdepth
  · exact fun _ => hknown

theorem readKnowing_write {depth : Nat} {value : Value} (htextual : value.Textual depth)
    (hdepth : depth ≤ greatestDepth) (hknown : ∀ name ∈ value.names, known name = true) :
    readKnowing known value.write = .ok value :=
  readKnowing_write_exact htextual.exact hdepth hknown

theorem foldlM_symbolStep (st : State) (text : List Char) :
    (text.map some).foldlM (State.symbolStep known) st = text.foldlM (State.step known) st := by
  rw [List.foldlM_map]
  rfl

theorem readBytesKnowing_encode (known : String → Bool) (text : List Char) :
    readBytesKnowing known (Utf8.encode text) = readKnowing known text := by
  rw [readBytesKnowing, Utf8.symbols_encode, foldlM_symbolStep]
  rfl

end Reader

theorem readBytes_encode (text : List Char) : readBytes (Utf8.encode text) = read text := by
  rw [readBytes, Reader.readBytesKnowing_encode]
  rfl

/-- What was written is read with its members sorted. -/
theorem read_write {depth : Nat} {value : Value} (hexact : value.Exact depth)
    (hdepth : depth ≤ greatestDepth) : read value.write = .ok value.canonical := by
  rw [read, Reader.readKnowing_write_exact hexact hdepth fun _ _ => rfl]
  rfl

theorem readText_text {depth : Nat} {value : Value} (hexact : value.Exact depth)
    (hdepth : depth ≤ greatestDepth) : readText value.text = .ok value.canonical := by
  rw [readText, Value.text, String.toList_ofList]
  exact read_write hexact hdepth

theorem readBytes_write {depth : Nat} {value : Value} (hexact : value.Exact depth)
    (hdepth : depth ≤ greatestDepth) :
    readBytes (Utf8.encode value.write) = .ok value.canonical := by
  rw [readBytes_encode]
  exact read_write hexact hdepth

end NodeLink.Json
