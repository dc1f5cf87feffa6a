import NodeLink.Proofs.Json.Grammar
import NodeLink.Proofs.Json.Integer
/-!
# Numbers of the grammar

A number goes through the stages of a literal one after the other, and where it ends the
literal is complete.
-/

namespace NodeLink.Json.NumberText

open NodeLink.Text

/-- A text leads from one literal to a longer one that is at some stage. -/
def Reaches (literal : NumberText) (text : List Char) (stage : NumberStage) : Prop :=
  ∃ later, text.foldlM extend? literal = some later ∧ later.stage = stage

theorem Reaches.trans {literal : NumberText} {former latter : List Char}
    {middle last : NumberStage} (hfirst : literal.Reaches former middle)
    (hsecond : ∀ later : NumberText, later.stage = middle → later.Reaches latter last) :
    literal.Reaches (former ++ latter) last := by
  obtain ⟨later, hformer, hstage⟩ := hfirst
  obtain ⟨final, hlatter, hlast⟩ := hsecond later hstage
  refine ⟨final, ?_, hlast⟩
  rw [List.foldlM_append, hformer]
  exact hlatter

theorem Reaches.cons {literal next : NumberText} {c : Char} {rest : List Char}
    {stage : NumberStage} (hnext : literal.extend? c = some next)
    (hrest : next.Reaches rest stage) :
    literal.Reaches (c :: rest) stage := by
  obtain ⟨later, hlater, hstage⟩ := hrest
  exact ⟨later, by rw [List.foldlM_cons, hnext]; exact hlater, hstage⟩

theorem Reaches.nil (literal : NumberText) : literal.Reaches [] literal.stage :=
  ⟨literal, rfl, rfl⟩

/-- Digits do not end a run of digits. -/
theorem reaches_digits {stage : NumberStage}
    (hstage : stage = .whole ∨ stage = .fraction ∨ stage = .exponent) {digits : List Char}
    (hdigits : ∀ c ∈ digits, Numeral.isDigit c = true) {literal : NumberText}
    (hliteral : literal.stage = stage) : literal.Reaches digits stage := by
  induction digits generalizing literal with
  | nil => exact hliteral ▸ Reaches.nil literal
  | cons c digits ih =>
      have hc := hdigits c List.mem_cons_self
      have hnext : ∃ next : NumberText, literal.extend? c = some next ∧ next.stage = stage := by
        rcases hstage with rfl | rfl | rfl <;>
          simp [extend?, hliteral, hc, pushFraction, pushExponent]
      obtain ⟨next, hextend, hsame⟩ := hnext
      exact .cons hextend (ih (fun d hd => hdigits d (List.mem_cons_of_mem c hd)) hsame)

/-! ## The parts of a number -/

theorem head_of_isWhole {whole : List Char} (hwhole : IsWhole whole) :
    whole = ['0'] ∨ ∃ c digits, whole = c :: digits ∧ c ≠ '0' ∧ Numeral.isDigit c = true ∧
      ∀ d ∈ digits, Numeral.isDigit d = true := by
  cases whole with
  | nil => exact absurd rfl hwhole.digits.some
  | cons c digits =>
      rcases hwhole.leading with hzero | hother
      · exact .inl hzero
      · refine .inr ⟨c, digits, rfl, by simpa using hother, ?_, ?_⟩
        · exact hwhole.digits.digit c List.mem_cons_self
        · exact fun d hd => hwhole.digits.digit d (List.mem_cons_of_mem c hd)

theorem exists_start {whole : List Char} (hwhole : IsWhole whole) :
    ∃ c digits start, whole = c :: digits ∧ start? c = some start ∧
      (start.Reaches digits .zero ∨ start.Reaches digits .whole) := by
  rcases head_of_isWhole hwhole with rfl | ⟨c, digits, rfl, hzero, hc, hdigits⟩
  · exact ⟨'0', [], _, rfl, rfl, .inl (.nil _)⟩
  · have hsign : c ≠ '-' := by
      rintro rfl
      exact absurd hc (by decide)
    have hstart : start? c = some ⟨.whole, false, [c], [], false, []⟩ := by
      simp [start?, hsign, hzero, hc]
    exact ⟨c, digits, _, rfl, hstart, .inr (reaches_digits (.inl rfl) hdigits rfl)⟩

theorem reaches_whole {whole : List Char} (hwhole : IsWhole whole) {literal : NumberText}
    (hliteral : literal.stage = .sign) :
    literal.Reaches whole .zero ∨ literal.Reaches whole .whole := by
  rcases head_of_isWhole hwhole with rfl | ⟨c, digits, rfl, hzero, hc, hdigits⟩
  · exact .inl ⟨{ literal with stage := .zero, whole := ['0'] }, by simp [extend?, hliteral], rfl⟩
  · have hnext : literal.extend? c = some { literal with stage := .whole, whole := [c] } := by
      simp [extend?, hliteral, hzero, hc]
    exact .inr (.cons hnext (reaches_digits (.inl rfl) hdigits rfl))

/-- A stage at which a fraction may begin, or end. -/
def IsBroad (stage : NumberStage) : Prop :=
  stage = .zero ∨ stage = .whole ∨ stage = .fraction

theorem reaches_fraction {fraction : List Char} (hfraction : IsFraction fraction)
    {literal : NumberText} (hliteral : literal.stage = .zero ∨ literal.stage = .whole) :
    ∃ stage, IsBroad stage ∧ literal.Reaches fraction stage := by
  rcases hfraction with rfl | ⟨digits, hdigits, rfl⟩
  · exact ⟨literal.stage, hliteral.imp_right .inl, .nil literal⟩
  · have hpoint : literal.extend? '.' = some { literal with stage := .point } := by
      have hdot : Numeral.isDigit '.' = false := rfl
      rcases hliteral with hstage | hstage <;> simp [extend?, hstage, hdot]
    cases hsome : digits with
    | nil => exact absurd hsome hdigits.some
    | cons c rest =>
        subst hsome
        have hnext : extend? { literal with stage := .point } c =
            some (pushFraction { literal with stage := .point } c) := by
          simp [extend?, hdigits.digit c List.mem_cons_self]
        have hrest : (pushFraction { literal with stage := .point } c).Reaches rest .fraction :=
          reaches_digits (.inr (.inl rfl))
            (fun d hd => hdigits.digit d (List.mem_cons_of_mem c hd)) rfl
        exact ⟨.fraction, .inr (.inr rfl), .cons hpoint (.cons hnext hrest)⟩

theorem reaches_exponent {exponent : List Char} (hexponent : IsExponent exponent)
    {literal : NumberText} (hliteral : IsBroad literal.stage) :
    ∃ stage, (IsBroad stage ∨ stage = .exponent) ∧ literal.Reaches exponent stage := by
  rcases hexponent with rfl | ⟨mark, sign, digits, hmark, hsign, hdigits, rfl⟩
  · exact ⟨literal.stage, .inl hliteral, .nil literal⟩
  · have hbegin : literal.extend? mark = some { literal with stage := .mark } := by
      rcases hmark with rfl | rfl <;> rcases hliteral with hstage | hstage | hstage <;>
        simp [extend?, hstage, isMark, Numeral.isDigit, Numeral.digitValue?]
    have hsigned : ∃ stage, (stage = .mark ∨ stage = .markSign) ∧
        Reaches { literal with stage := .mark } sign stage := by
      rcases hsign with rfl | rfl | rfl
      · exact ⟨.mark, .inl rfl, .nil _⟩
      · exact ⟨.markSign, .inr rfl, .cons rfl (.nil _)⟩
      · exact ⟨.markSign, .inr rfl, .cons rfl (.nil _)⟩
    obtain ⟨stage, hstage, hreaches⟩ := hsigned
    refine ⟨.exponent, .inr rfl, .cons hbegin (hreaches.trans fun later hlater => ?_)⟩
    cases hsome : digits with
    | nil => exact absurd hsome hdigits.some
    | cons c rest =>
        subst hsome
        have hc := hdigits.digit c List.mem_cons_self
        have hother : c ≠ '+' ∧ c ≠ '-' := by
          constructor <;> rintro rfl <;> exact absurd hc (by decide)
        have hnext : later.extend? c = some (pushExponent later c) := by
          rcases hstage with rfl | rfl <;> simp [extend?, hlater, hc, hother]
        exact .cons hnext (reaches_digits (.inr (.inr rfl))
          (fun d hd => hdigits.digit d (List.mem_cons_of_mem c hd)) rfl)

/-! ## Whole numbers -/

/-- What stands behind the sign leads to a literal that may end. -/
theorem exists_unsigned {whole fraction exponent : List Char} {literal : NumberText}
    (hwhole : literal.Reaches whole .zero ∨ literal.Reaches whole .whole)
    (hfraction : IsFraction fraction) (hexponent : IsExponent exponent) :
    ∃ later, (whole ++ fraction ++ exponent).foldlM extend? literal = some later ∧
      later.isComplete = true := by
  have hstage : ∃ stage, (stage = .zero ∨ stage = .whole) ∧ literal.Reaches whole stage := by
    rcases hwhole with hzero | hdigits
    · exact ⟨.zero, .inl rfl, hzero⟩
    · exact ⟨.whole, .inr rfl, hdigits⟩
  obtain ⟨stage, hstage, first, hfirst, rfl⟩ := hstage
  obtain ⟨_, hbroad, second, hsecond, rfl⟩ := reaches_fraction hfraction hstage
  obtain ⟨_, hlast, third, hthird, rfl⟩ := reaches_exponent hexponent hbroad
  refine ⟨third, ?_, ?_⟩
  · simp [List.foldlM_append, hfirst, hsecond, hthird]
  · rcases hlast with (hlast | hlast | hlast) | hlast <;> simp [isComplete, hlast]

/-- A number of the grammar is a literal that may end where it does. -/
theorem exists_ofText?_of_isNumber {text : List Char} (hnumber : IsNumber text) :
    ∃ literal, ofText? text = some literal ∧ literal.isComplete = true := by
  obtain @⟨sign, whole, fraction, exponent, hsign, hwhole, hfraction, hexponent⟩ := hnumber
  rcases hsign with rfl | rfl
  · obtain ⟨c, digits, start, rfl, hstart, hdigits⟩ := exists_start hwhole
    obtain ⟨literal, hliteral, hcomplete⟩ := exists_unsigned hdigits hfraction hexponent
    exact ⟨literal, by simpa [ofText?, hstart] using hliteral, hcomplete⟩
  · let start : NumberText := ⟨.sign, true, [], [], false, []⟩
    have hwhole : start.Reaches whole .zero ∨ start.Reaches whole .whole :=
      reaches_whole hwhole rfl
    obtain ⟨literal, hliteral, hcomplete⟩ := exists_unsigned hwhole hfraction hexponent
    have hstart : start? '-' = some start := rfl
    exact ⟨literal, by simpa [ofText?, hstart] using hliteral, hcomplete⟩

end NodeLink.Json.NumberText
