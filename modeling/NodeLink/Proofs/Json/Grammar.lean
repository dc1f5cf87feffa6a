import Mathlib.Tactic.SplitIfs
import NodeLink.Json.Writer
import NodeLink.Text.Numeral
/-!
# The grammar of JSON

Which texts are JSON, and which strings their literals spell.  A text may be JSON although
it stands for no value that can be held: a literal may have half of a pair of surrogates in
it, and a number or the nesting may be too great.
-/

namespace NodeLink.Json

open NodeLink.Text

/-- White space between tokens. -/
def IsGap (text : List Char) : Prop :=
  ∀ c ∈ text, c = ' ' ∨ c = '\t' ∨ c = '\n' ∨ c = '\r'

instance : DecidablePred IsGap :=
  fun text => List.decidableBAll _ text

theorem isGap_nil : IsGap [] := by decide

/-! ## Strings -/

/-- A character that stands for itself. -/
structure IsBare (c : Char) : Prop where
  quote : c ≠ '"'
  backslash : c ≠ '\\'
  control : 0x20 ≤ c.toNat

instance (c : Char) : Decidable (IsBare c) :=
  decidable_of_iff (c ≠ '"' ∧ c ≠ '\\' ∧ 0x20 ≤ c.toNat)
    ⟨fun ⟨hquote, hbackslash, hcontrol⟩ => ⟨hquote, hbackslash, hcontrol⟩,
      fun ⟨hquote, hbackslash, hcontrol⟩ => ⟨hquote, hbackslash, hcontrol⟩⟩

/-- A text that needs no escapes. -/
def IsPlain (text : List Char) : Prop :=
  ∀ c ∈ text, IsBare c

instance : DecidablePred IsPlain :=
  fun text => List.decidableBAll IsBare text

def namedEscapes : List (Char × Char) :=
  [('"', '"'), ('\\', '\\'), ('/', '/'), ('b', '\x08'), ('f', '\x0c'), ('n', '\n'), ('r', '\r'),
    ('t', '\t')]

/-- Four hexadecimal digits. -/
structure IsUnit (digits : List Char) (n : Nat) : Prop where
  length : digits.length = 4
  number : Hex.number? digits = some n

def IsLeading (n : Nat) : Prop := 0xD800 ≤ n ∧ n ≤ 0xDBFF

def IsTrailing (n : Nat) : Prop := 0xDC00 ≤ n ∧ n ≤ 0xDFFF

instance : DecidablePred IsLeading := fun _ => inferInstanceAs (Decidable (_ ∧ _))

instance : DecidablePred IsTrailing := fun _ => inferInstanceAs (Decidable (_ ∧ _))

/-- What may stand between the quotes of a literal. -/
inductive IsLiteral : List Char → Prop
  | nil : IsLiteral []
  | bare {c : Char} {rest : List Char} (hc : IsBare c) (hrest : IsLiteral rest) :
      IsLiteral (c :: rest)
  | named {mark c : Char} {rest : List Char} (hmark : (mark, c) ∈ namedEscapes)
      (hrest : IsLiteral rest) : IsLiteral ('\\' :: mark :: rest)
  | unit {digits rest : List Char} {n : Nat} (hunit : IsUnit digits n) (hrest : IsLiteral rest) :
      IsLiteral ('\\' :: 'u' :: (digits ++ rest))

/-- Which characters a literal stands for. -/
inductive Spells : List Char → List Char → Prop
  | nil : Spells [] []
  | bare {c : Char} {literal chars : List Char} (hc : IsBare c) (hrest : Spells literal chars) :
      Spells (c :: literal) (c :: chars)
  | named {mark c : Char} {literal chars : List Char} (hmark : (mark, c) ∈ namedEscapes)
      (hrest : Spells literal chars) : Spells ('\\' :: mark :: literal) (c :: chars)
  | unit {digits literal chars : List Char} {n : Nat} (hunit : IsUnit digits n)
      (hleading : ¬ IsLeading n) (htrailing : ¬ IsTrailing n) (hrest : Spells literal chars) :
      Spells ('\\' :: 'u' :: (digits ++ literal)) (Char.ofNat n :: chars)
  | pair {high low literal chars : List Char} {m n : Nat} (hhigh : IsUnit high m)
      (hleading : IsLeading m) (hlow : IsUnit low n) (htrailing : IsTrailing n)
      (hrest : Spells literal chars) :
      Spells ('\\' :: 'u' :: (high ++ '\\' :: 'u' :: (low ++ literal)))
        (Char.ofNat (0x10000 + (m - 0xD800) * 0x400 + (n - 0xDC00)) :: chars)

theorem IsPlain.spells {text : List Char} (hplain : IsPlain text) : Spells text text := by
  induction text with
  | nil => exact .nil
  | cons c text ih =>
      have hrest : IsPlain text := fun d hd => hplain d (List.mem_cons_of_mem c hd)
      exact .bare (hplain c List.mem_cons_self) (ih hrest)

def quote (literal : List Char) : List Char :=
  '"' :: (literal ++ ['"'])

/-! ## What the writer makes of a string -/

theorem hexValue?_digit {n : Nat} (hn : n < 16) : Hex.value? (Hex.digit n) = some n := by
  have hall : ∀ m : Fin 16, Hex.value? (Hex.digit m) = some m.val := by decide
  exact hall ⟨n, hn⟩

theorem hexNumber?_digits {n : Nat} (hn : n < 256) :
    Hex.number? ['0', '0', Hex.digit (n / 16), Hex.digit (n % 16)] = some n := by
  have hzero : Hex.value? '0' = some 0 := by decide
  have hhigh := hexValue?_digit (n := n / 16) (by omega)
  have hlow := hexValue?_digit (n := n % 16) (by omega)
  simp only [Hex.number?, List.foldlM_cons, List.foldlM_nil, hzero, hhigh, hlow,
    Option.map_some, Option.bind_eq_bind, Option.bind_some]
  show some _ = some _
  congr 1
  omega

theorem spells_escapeChar (c : Char) {literal chars : List Char} (hrest : Spells literal chars) :
    Spells (escapeChar c ++ literal) (c :: chars) := by
  unfold escapeChar
  split_ifs with hquote hslash hnewline hreturn htab hback hfeed hcontrol
  · exact .named (by rw [hquote]; decide) hrest
  · exact .named (by rw [hslash]; decide) hrest
  · exact .named (by rw [hnewline]; decide) hrest
  · exact .named (by rw [hreturn]; decide) hrest
  · exact .named (by rw [htab]; decide) hrest
  · have hc : c = '\x08' := by rw [← Char.ofNat_toNat c, hback]
    exact .named (by rw [hc]; decide) hrest
  · have hc : c = '\x0c' := by rw [← Char.ofNat_toNat c, hfeed]
    exact .named (by rw [hc]; decide) hrest
  · have hunit : IsUnit ['0', '0', Hex.digit (c.toNat / 16), Hex.digit (c.toNat % 16)] c.toNat :=
      ⟨rfl, hexNumber?_digits (by omega)⟩
    have hleading : ¬ IsLeading c.toNat := by unfold IsLeading; omega
    have htrailing : ¬ IsTrailing c.toNat := by unfold IsTrailing; omega
    have hspells := Spells.unit hunit hleading htrailing hrest
    rwa [Char.ofNat_toNat] at hspells
  · exact .bare ⟨hquote, hslash, Nat.not_lt.mp hcontrol⟩ hrest

theorem spells_escaped (text : List Char) : Spells (text.flatMap escapeChar) text := by
  induction text with
  | nil => exact .nil
  | cons c text ih =>
      rw [List.flatMap_cons]
      exact spells_escapeChar c ih

/-! ## Numbers -/

structure IsDigits (text : List Char) : Prop where
  some : text ≠ []
  digit : ∀ c ∈ text, Numeral.isDigit c = true

structure IsWhole (text : List Char) : Prop where
  digits : IsDigits text
  leading : text = ['0'] ∨ text.head? ≠ some '0'

def IsFraction (text : List Char) : Prop :=
  text = [] ∨ ∃ digits, IsDigits digits ∧ text = '.' :: digits

def IsExponent (text : List Char) : Prop :=
  text = [] ∨ ∃ mark sign digits, (mark = 'e' ∨ mark = 'E') ∧
    (sign = [] ∨ sign = ['+'] ∨ sign = ['-']) ∧ IsDigits digits ∧ text = mark :: (sign ++ digits)

inductive IsNumber : List Char → Prop
  | of {sign whole fraction exponent : List Char} (hsign : sign = [] ∨ sign = ['-'])
      (hwhole : IsWhole whole) (hfraction : IsFraction fraction) (hexponent : IsExponent exponent) :
      IsNumber (sign ++ whole ++ fraction ++ exponent)

/-! ## Values -/

/-- The parts of a text that nest: a value, and what stands within the brackets of an array and
of an object if it is more than white space. -/
inductive Phrase
  | value
  | elements
  | members

/-- A member of an object as it is written. -/
structure MemberText where
  front : List Char
  literal : List Char
  middle : List Char
  gap : List Char
  value : List Char
  back : List Char

namespace MemberText

def text (member : MemberText) : List Char :=
  member.front ++ quote member.literal ++ member.middle ++ ':' :: (member.gap ++ member.value ++
    member.back)

structure HasGaps (member : MemberText) : Prop where
  front : IsGap member.front
  middle : IsGap member.middle
  gap : IsGap member.gap
  back : IsGap member.back

end MemberText

inductive IsText : Phrase → List Char → Prop
  | null : IsText .value ['n', 'u', 'l', 'l']
  | true_ : IsText .value ['t', 'r', 'u', 'e']
  | false_ : IsText .value ['f', 'a', 'l', 's', 'e']
  | number {text : List Char} (hnumber : IsNumber text) : IsText .value text
  | string {literal : List Char} (hliteral : IsLiteral literal) : IsText .value (quote literal)
  | emptyArray {gap : List Char} (hgap : IsGap gap) : IsText .value ('[' :: (gap ++ [']']))
  | array {inner : List Char} (hinner : IsText .elements inner) :
      IsText .value ('[' :: (inner ++ [']']))
  | emptyObject {gap : List Char} (hgap : IsGap gap) : IsText .value ('\x7b' :: (gap ++ ['\x7d']))
  | object {inner : List Char} (hinner : IsText .members inner) :
      IsText .value ('\x7b' :: (inner ++ ['\x7d']))
  | lastElement {front text back : List Char} (hfront : IsGap front) (htext : IsText .value text)
      (hback : IsGap back) : IsText .elements (front ++ text ++ back)
  | moreElements {front text back rest : List Char} (hfront : IsGap front)
      (htext : IsText .value text) (hback : IsGap back) (hrest : IsText .elements rest) :
      IsText .elements (front ++ text ++ back ++ ',' :: rest)
  | lastMember {member : MemberText} (hgaps : member.HasGaps)
      (hliteral : IsLiteral member.literal) (hvalue : IsText .value member.value) :
      IsText .members member.text
  | moreMembers {member : MemberText} {rest : List Char} (hgaps : member.HasGaps)
      (hliteral : IsLiteral member.literal) (hvalue : IsText .value member.value)
      (hrest : IsText .members rest) : IsText .members (member.text ++ ',' :: rest)

/-! ## Objects with named members -/

/-- A member whose name is spelled and whose value is any text of the grammar. -/
structure Member extends MemberText where
  name : String
  gaps : toMemberText.HasGaps
  spells : Spells literal name.toList
  isText : IsText .value value

/-- A member without white space, whose name needs no escapes. -/
def Member.compact (name : String) (value : List Char) (hname : IsPlain name.toList)
    (hvalue : IsText .value value) : Member where
  front := []
  literal := name.toList
  middle := []
  gap := []
  value := value
  back := []
  name := name
  gaps := ⟨isGap_nil, isGap_nil, isGap_nil, isGap_nil⟩
  spells := hname.spells
  isText := hvalue

def membersText : List Member → List Char
  | [] => []
  | [member] => member.text
  | member :: rest => member.text ++ ',' :: membersText rest

/-- An object with some members, and white space around it. -/
def objectText (front : List Char) (members : List Member) (back : List Char) : List Char :=
  front ++ '\x7b' :: (membersText members ++ '\x7d' :: back)

/-! ## Spelled values -/

/-- The strings of an array as they may be written, with white space around each. -/
inductive SpellsTexts : List String → List Char → Prop
  | last {text : String} {front literal back : List Char} (hfront : IsGap front)
      (hspells : Spells literal text.toList) (hback : IsGap back) :
      SpellsTexts [text] (front ++ quote literal ++ back)
  | more {text : String} {texts : List String} {front literal back rest : List Char}
      (hfront : IsGap front) (hspells : Spells literal text.toList) (hback : IsGap back)
      (hrest : SpellsTexts texts rest) :
      SpellsTexts (text :: texts) (front ++ quote literal ++ back ++ ',' :: rest)

/-- How null, a truth value, a string and an array of strings may be written. -/
inductive SpellsValue : Value → List Char → Prop
  | null : SpellsValue .null ['n', 'u', 'l', 'l']
  | true_ : SpellsValue (.bool true) ['t', 'r', 'u', 'e']
  | false_ : SpellsValue (.bool false) ['f', 'a', 'l', 's', 'e']
  | string {text : String} {literal : List Char} (hspells : Spells literal text.toList) :
      SpellsValue (.string text) (quote literal)
  | noTexts {gap : List Char} (hgap : IsGap gap) : SpellsValue (.array []) ('[' :: (gap ++ [']']))
  | texts {texts : List String} {inner : List Char} (hinner : SpellsTexts texts inner) :
      SpellsValue (.array (texts.map Value.string)) ('[' :: (inner ++ [']']))

theorem Spells.isLiteral {literal chars : List Char} (hspells : Spells literal chars) :
    IsLiteral literal := by
  induction hspells with
  | nil => exact .nil
  | bare hc _ ih => exact .bare hc ih
  | named hmark _ ih => exact .named hmark ih
  | unit hunit _ _ _ ih => exact .unit hunit ih
  | pair hhigh _ hlow _ _ ih => exact .unit hhigh (.unit hlow ih)

theorem SpellsTexts.isText {texts : List String} {inner : List Char}
    (hspells : SpellsTexts texts inner) : IsText .elements inner := by
  induction hspells with
  | last hfront hspells hback => exact .lastElement hfront (.string hspells.isLiteral) hback
  | more hfront hspells hback _ ih =>
      exact .moreElements hfront (.string hspells.isLiteral) hback ih

theorem SpellsValue.isText {value : Value} {text : List Char} (hspells : SpellsValue value text) :
    IsText .value text := by
  cases hspells with
  | null => exact .null
  | true_ => exact .true_
  | false_ => exact .false_
  | string hspells => exact .string hspells.isLiteral
  | noTexts hgap => exact .emptyArray hgap
  | texts hinner => exact .array hinner.isText

end NodeLink.Json
