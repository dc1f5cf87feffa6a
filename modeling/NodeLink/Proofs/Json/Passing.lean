import NodeLink.Proofs.Json.NumberText
import NodeLink.Proofs.Json.Reader
/-!
# Texts that the machine gets through

Within an array or an object the machine gets through the text of any value, and then
stands behind some value.  It may refuse what it would have to hold: a literal that spells no
string, a number or a nesting that is too great.  What it only skims it never refuses.
-/

namespace NodeLink.Json.Reader

open NodeLink.Text

variable {known : String → Bool} {skimming : Bool}

/-- The machine goes through a text and is in one of some states behind it, or it refuses the
text, which it may do only under a condition. -/
def Passes (known : String → Bool) (refusable : Prop) (st : State) (text : List Char)
    (ends : State → Prop) : Prop :=
  (∃ later, Reads known st text later ∧ ends later) ∨
    refusable ∧ text.foldlM (State.step known) st = none

namespace Passes

variable {refusable : Prop} {st later : State} {ends middle : State → Prop}
  {former latter rest : List Char} {c : Char}

theorem of_reads (hreads : Reads known st former later) (hends : ends later) :
    Passes known refusable st former ends :=
  .inl ⟨later, hreads, hends⟩

theorem nil (hends : ends st) : Passes known refusable st [] ends :=
  of_reads (.nil st) hends

theorem single (hstep : st.step known c = some later) (hends : ends later) :
    Passes known refusable st [c] ends :=
  of_reads (.single hstep) hends

theorem refused (hmay : refusable) (hstep : st.step known c = none) :
    Passes known refusable st (c :: rest) ends :=
  .inr ⟨hmay, by rw [List.foldlM_cons, hstep]; rfl⟩

theorem trans (hfirst : Passes known refusable st former middle)
    (hsecond : ∀ later, middle later → Passes known refusable later latter ends) :
    Passes known refusable st (former ++ latter) ends := by
  rcases hfirst with ⟨halfway, hreads, hmiddle⟩ | ⟨hmay, hnone⟩
  · rcases hsecond halfway hmiddle with ⟨last, hrest, hends⟩ | ⟨hmay, hnone⟩
    · exact .inl ⟨last, hreads.trans hrest, hends⟩
    · refine .inr ⟨hmay, ?_⟩
      rw [List.foldlM_append, show former.foldlM (State.step known) st = some halfway from hreads]
      exact hnone
  · refine .inr ⟨hmay, ?_⟩
    rw [List.foldlM_append, hnone]
    rfl

theorem goOn (hreads : Reads known st former later)
    (hrest : Passes known refusable later latter ends) :
    Passes known refusable st (former ++ latter) ends := by
  have hfirst : Passes known refusable st former (· = later) := of_reads hreads rfl
  exact hfirst.trans fun _ hlater => hlater ▸ hrest

theorem cons (hstep : st.step known c = some later)
    (hrest : Passes known refusable later rest ends) :
    Passes known refusable st (c :: rest) ends :=
  goOn (.single hstep) hrest

theorem weaken {wider : Prop} (hpasses : Passes known refusable st former ends)
    (hmay : refusable → wider) : Passes known wider st former ends :=
  hpasses.imp_right fun ⟨h, hnone⟩ => ⟨hmay h, hnone⟩

end Passes

/-! ## Strings -/

/-- The machine is in a literal, between two characters; or half of a pair of surrogates has been
read, which it only notices if it does not skim. -/
inductive InLiteral (stack : List Frame) (isName skimming : Bool) : State → Prop
  | between (before : List Char) :
      InLiteral stack isName skimming (inText stack isName before skimming)
  | torn (before : List Char) (lead : Nat) (hskim : skimming = false) :
      InLiteral stack isName skimming (inEscape stack isName before (.leading lead) skimming)

section

variable {stack : List Frame} {isName : Bool} {before : List Char} {st : State}

theorem step_torn_of_ne (lead : Nat) {c : Char} (hc : c ≠ '\\') :
    (inEscape stack isName before (.leading lead) skimming).step known c = none := by
  simp [inEscape, State.step, StringText.step, StringText.isPlain, hc]

theorem passes_unit {digits : List Char} {n : Nat} (hunit : IsUnit digits n)
    (lead : Option Nat) :
    Passes known (skimming = false) (inEscape stack isName before (.digits lead []) skimming) digits
      (InLiteral stack isName skimming) := by
  have hdigits : digits.foldlM (State.step known)
      (inEscape stack isName before (.digits lead []) skimming) = _ :=
    foldlM_unit lead hunit
  have hbetween (c : Char) : InLiteral stack isName skimming
      ⟨stack, .text isName (StringText.push ⟨before, .absent, false⟩ c), skimming⟩ :=
    .between (c :: before)
  cases skimming with
  | true => exact .of_reads hdigits (hbetween _)
  | false =>
      cases hresult : StringText.unit ⟨before, .absent, false⟩ false lead n with
      | none =>
          rw [hresult] at hdigits
          exact .inr ⟨rfl, hdigits⟩
      | some part =>
          rw [hresult] at hdigits
          refine .of_reads hdigits ?_
          simp only [StringText.unit, Bool.false_eq_true, if_false] at hresult
          cases lead with
          | none =>
              simp only at hresult
              split_ifs at hresult
              · obtain rfl := Option.some.inj hresult
                exact .torn before n rfl
              · obtain rfl := Option.some.inj hresult
                exact hbetween _
          | some high =>
              simp only at hresult
              split_ifs at hresult
              obtain rfl := Option.some.inj hresult
              exact hbetween _

theorem passes_literal {literal : List Char} (hliteral : IsLiteral literal)
    (hst : InLiteral stack isName skimming st) :
    Passes known (skimming = false) st literal (InLiteral stack isName skimming) := by
  induction hliteral generalizing st with
  | nil => exact .nil hst
  | bare hc _ ih =>
      cases hst with
      | between before =>
          exact Passes.goOn (reads_bare hc) (ih (.between _))
      | torn before lead hskim => exact .refused hskim (step_torn_of_ne lead hc.backslash)
  | named hmark _ ih =>
      cases hst with
      | between before => exact .goOn (reads_named hmark) (ih (.between _))
      | torn before lead hskim =>
          apply Passes.cons (step_torn_backslash lead)
          exact .refused hskim (by rw [step_torn_mark, if_neg (namedEscape?_of_mem hmark).2])
  | unit hunit _ ih =>
      cases hst with
      | between before =>
          apply Passes.cons step_backslash
          apply Passes.cons step_mark
          exact (passes_unit hunit none).trans fun _ hlater => ih hlater
      | torn before lead hskim =>
          apply Passes.cons (step_torn_backslash lead)
          apply Passes.cons (by rw [step_torn_mark, if_pos rfl])
          exact (passes_unit hunit (some lead)).trans fun _ hlater => ih hlater

/-- A literal is closed where it is not torn. -/
theorem passes_quote {ends : State → Prop} {literal : List Char} (hliteral : IsLiteral literal)
    (hends : ∀ before, ∃ later,
      (inText stack isName before skimming).step known '"' = some later ∧ ends later) :
    Passes known (skimming = false) (inText stack isName [] skimming) (literal ++ ['"']) ends := by
  refine (passes_literal hliteral (.between [])).trans fun st hst => ?_
  cases hst with
  | between before =>
      obtain ⟨later, hstep, hlater⟩ := hends before
      exact .of_reads (.single hstep) hlater
  | torn before lead hskim => exact .refused hskim (step_torn_of_ne lead (by decide))

end

/-! ## Behind a value -/

/-- The machine stands behind some value, or behind a number that still has to end. -/
inductive Past (stack : List Frame) (skimming : Bool) : State → Prop
  | behind (value : Value) : Past stack skimming (delivered stack value skimming)
  | number {literal : NumberText} (hcomplete : literal.isComplete = true) :
      Past stack skimming ⟨stack, .number literal, skimming⟩

/-- A number that cannot be held is noticed where it ends. -/
theorem Past.step (known : String → Bool) {stack : List Frame} {st : State} {c : Char}
    (hpast : Past stack skimming st) (hc : Separates c) :
    (∃ value, st.step known c = (delivered stack value skimming).step known c) ∨
      skimming = false ∧ st.step known c = none := by
  cases hpast with
  | behind value => exact .inl ⟨value, rfl⟩
  | @number literal hcomplete =>
      cases hvalue : literal.value? with
      | some n =>
          refine .inl ⟨.number n, ?_⟩
          rw [step_delivered]
          simp [State.step, extend?_of_separates hc, hcomplete, State.endNumber, hvalue, deliver_eq]
      | none =>
          cases skimming with
          | true =>
              refine .inl ⟨.null, ?_⟩
              rw [step_delivered]
              simp [State.step, extend?_of_separates hc, hcomplete, State.endNumber, hvalue,
                deliver_eq]
          | false =>
              refine .inr ⟨rfl, ?_⟩
              simp [State.step, extend?_of_separates hc, hcomplete, State.endNumber, hvalue]

theorem delivered_member {before : List (String × Value)} {name : String} {stack : List Frame}
    (hstack : stack ≠ []) (value : Value) :
    delivered (.object before name :: stack) value skimming =
      ⟨.object ((name, value) :: before) name :: stack, .behind, skimming⟩ := by
  simp [delivered, State.deliver, hstack]

/-- What stands behind a value is met alike by every state there. -/
theorem Past.passes {stack : List Frame} {st : State} {c : Char} {rest : List Char}
    {ends : State → Prop} {refusable : Prop} (hpast : Past stack skimming st) (hc : Separates c)
    (hmay : skimming = false → refusable)
    (hrest : ∀ value,
      Passes known refusable (delivered stack value skimming) (c :: rest) ends) :
    Passes known refusable st (c :: rest) ends := by
  rcases hpast.step known hc with ⟨value, hstep⟩ | ⟨hskim, hstep⟩
  · have hvalue := hrest value
    unfold Passes Reads at *
    rw [List.foldlM_cons] at hvalue ⊢
    rwa [hstep]
  · exact .refused (hmay hskim) hstep

/-! ## White space -/

theorem isSpace_of_gap {c : Char} (hc : c = ' ' ∨ c = '\t' ∨ c = '\n' ∨ c = '\r') :
    isSpace c = true := by
  rcases hc with rfl | rfl | rfl | rfl <;> rfl

theorem reads_gap {st : State} (hstays : ∀ c, isSpace c = true → st.step known c = some st)
    {gap : List Char} (hgap : IsGap gap) : Reads known st gap st := by
  induction gap with
  | nil => exact .nil st
  | cons c gap ih =>
      have hc := isSpace_of_gap (hgap c List.mem_cons_self)
      exact .cons (hstays c hc) (ih fun d hd => hgap d (List.mem_cons_of_mem c hd))

/-- The machine expects the name of a member, or perhaps the end of an object. -/
def atName (stack : List Frame) (closable skimming : Bool) : State :=
  ⟨stack, .name closable, skimming⟩

section

variable {gap : List Char} (hgap : IsGap gap) (stack : List Frame)

include hgap

theorem reads_gap_value (closable skimming : Bool) :
    Reads known (atValue stack closable skimming) gap (atValue stack closable skimming) :=
  reads_gap (fun c hc => by simp [atValue, State.step, hc]) hgap

theorem reads_gap_name (closable skimming : Bool) :
    Reads known (atName stack closable skimming) gap (atName stack closable skimming) :=
  reads_gap (fun c hc => by simp [atName, State.step, hc]) hgap

theorem reads_gap_colon (before : List (String × Value)) (name : String) (skimming : Bool) :
    Reads known (atColon before name stack skimming) gap (atColon before name stack skimming) :=
  reads_gap (fun c hc => by simp [atColon, State.step, hc]) hgap

theorem reads_gap_behind (value : Value) (skimming : Bool) :
    Reads known (delivered stack value skimming) gap (delivered stack value skimming) :=
  reads_gap (fun c hc => by simp [step_delivered, State.behind, hc]) hgap

end

theorem Past.gap {stack : List Frame} {st : State} (hpast : Past stack skimming st)
    {gap : List Char} (hgap : IsGap gap) :
    Passes known (skimming = false) st gap (Past stack skimming) := by
  cases gap with
  | nil => exact .nil hpast
  | cons c gap =>
      have hc := isSpace_of_gap (hgap c List.mem_cons_self)
      refine hpast.passes (separates_of_isSpace hc) id fun value => ?_
      exact .of_reads (reads_gap_behind hgap stack value skimming) (.behind value)

/-! ## Values -/

section

variable {stack : List Frame} {closable : Bool}

theorem passes_string {literal : List Char} (hliteral : IsLiteral literal) :
    Passes known (skimming = false) (atValue stack closable skimming) (quote literal)
      (Past stack skimming) := by
  apply Passes.cons (step_quote stack closable)
  apply passes_quote hliteral
  intro before
  refine ⟨delivered stack (.string (String.ofList before.reverse)) skimming, ?_, .behind _⟩
  simp [inText, State.step, StringText.isPlain, State.endString, deliver_eq]

theorem passes_number {text : List Char} (hnumber : IsNumber text) :
    Passes known (skimming = false) (atValue stack closable skimming) text
      (Past stack skimming) := by
  obtain ⟨literal, hliteral, hcomplete⟩ := NumberText.exists_ofText?_of_isNumber hnumber
  exact .of_reads (reads_number closable hliteral) (.number hcomplete)

/-- A bracket opens unless the nesting is too great. -/
theorem passes_open {c : Char} {frame : Frame} {mode : Mode} {rest : List Char}
    {ends : State → Prop} (hspace : isSpace c = false) (hclose : c ≠ ']')
    (hbegin : (atValue stack closable skimming).begin c =
      (atValue stack closable skimming).openWith frame mode)
    (hrest : Passes known (skimming = false) ⟨frame :: stack, mode, skimming⟩ rest ends) :
    Passes known (skimming = false) (atValue stack closable skimming) (c :: rest) ends := by
  have hstep : (atValue stack closable skimming).step known c = _ :=
    (step_atValue stack closable hspace hclose).trans hbegin
  unfold State.openWith at hstep
  split_ifs at hstep with hdeep
  · simp only [Bool.and_eq_true, Bool.not_eq_true'] at hdeep
    exact .refused hdeep.1 hstep
  · exact .cons hstep hrest

theorem passes_openArray {rest : List Char} {ends : State → Prop}
    (hrest : Passes known (skimming = false) (atValue (.array [] :: stack) true skimming) rest
      ends) :
    Passes known (skimming = false) (atValue stack closable skimming) ('[' :: rest) ends :=
  passes_open (by decide) (by decide) (by simp [State.begin]) hrest

theorem passes_openObject {rest : List Char} {ends : State → Prop}
    (hrest : Passes known (skimming = false) (atName (.object [] "" :: stack) true skimming) rest
      ends) :
    Passes known (skimming = false) (atValue stack closable skimming) ('\x7b' :: rest) ends :=
  passes_open (by decide) (by decide) (by simp [State.begin]) hrest

end

/-! ## Parts of values -/

/-- The machine stands behind an element of an array. -/
def PastElement (stack : List Frame) (skimming : Bool) (st : State) : Prop :=
  ∃ before, Past (.array before :: stack) skimming st

/-- The machine stands behind a member of an object. -/
def PastMember (stack : List Frame) (skimming : Bool) (st : State) : Prop :=
  ∃ before name, Past (.object before name :: stack) skimming st

/-- How the machine gets through a part of a text, within an array or an object. -/
def IsPassed (known : String → Bool) : Phrase → List Char → Prop
  | .value, text => ∀ (stack : List Frame) (closable skimming : Bool), stack ≠ [] →
      Passes known (skimming = false) (atValue stack closable skimming) text (Past stack skimming)
  | .elements, text => ∀ (stack : List Frame) (before : List Value) (closable skimming : Bool),
      Passes known (skimming = false) (atValue (.array before :: stack) closable skimming) text
        (PastElement stack skimming)
  | .members, text => ∀ (stack : List Frame) (before : List (String × Value)) (former : String)
      (closable skimming : Bool), stack ≠ [] →
      Passes known (skimming = false) (atName (.object before former :: stack) closable skimming)
        text (PastMember stack skimming)

section

variable {stack : List Frame} {closable : Bool} {front text back rest : List Char}
  {ends : State → Prop}

theorem IsPassed.framed (htext : IsPassed known .value text) (hfront : IsGap front)
    (hback : IsGap back) (hstack : stack ≠ []) :
    Passes known (skimming = false) (atValue stack closable skimming) (front ++ text ++ back)
      (Past stack skimming) := by
  have hvalue := Passes.goOn (reads_gap_value hfront stack closable skimming)
    (htext stack closable skimming hstack)
  exact hvalue.trans fun _ hpast => hpast.gap hback

/-! ## Arrays -/

theorem PastElement.close {st : State} (hpast : PastElement stack skimming st) :
    Passes known (skimming = false) st [']'] (Past stack skimming) := by
  obtain ⟨before, hpast⟩ := hpast
  refine hpast.passes (by simp [Separates]) id fun value => ?_
  exact .single (step_close_array (value :: before)) (.behind _)

theorem PastElement.comma {st : State} (hpast : PastElement stack skimming st)
    (hrest : IsPassed known .elements rest) :
    Passes known (skimming = false) st (',' :: rest) (PastElement stack skimming) := by
  obtain ⟨before, hpast⟩ := hpast
  refine hpast.passes (by simp [Separates]) id fun value => ?_
  exact .cons (step_comma_array (value :: before)) (hrest stack (value :: before) false skimming)

theorem passes_emptyArray {gap : List Char} (hgap : IsGap gap) :
    Passes known (skimming = false) (atValue stack closable skimming) ('[' :: (gap ++ [']']))
      (Past stack skimming) := by
  apply passes_openArray
  exact .goOn (reads_gap_value hgap _ true skimming)
    (.single (step_close_noElement []) (.behind _))

/-! ## Objects -/

theorem passes_name {before : List (String × Value)} {former : String} {literal middle : List Char}
    (hliteral : IsLiteral literal) (hfront : IsGap front) (hmiddle : IsGap middle) :
    Passes known (skimming = false) (atName (.object before former :: stack) closable skimming)
      (front ++ quote literal ++ middle) (∃ name, · = atColon before name stack skimming) := by
  have hquote : Passes known (skimming = false)
      (atName (.object before former :: stack) closable skimming) (quote literal)
      (∃ name, · = atColon before name stack skimming) := by
    apply Passes.cons (step_quote_name before former closable)
    apply passes_quote hliteral
    intro chars
    refine ⟨atColon before (String.ofList chars.reverse) stack skimming, ?_, _, rfl⟩
    simp [inText, State.step, StringText.isPlain, State.endString, atColon]
  refine (Passes.goOn (reads_gap_name hfront _ closable skimming) hquote).trans ?_
  rintro _ ⟨name, rfl⟩
  exact .of_reads (reads_gap_colon hmiddle stack before name skimming) ⟨name, rfl⟩

theorem passes_member {before : List (String × Value)} {former : String} {member : MemberText}
    (hgaps : member.HasGaps) (hliteral : IsLiteral member.literal)
    (hvalue : IsPassed known .value member.value) (hstack : stack ≠ []) :
    Passes known (skimming = false) (atName (.object before former :: stack) closable skimming)
      member.text (PastMember stack skimming) := by
  refine (passes_name hliteral hgaps.front hgaps.middle).trans ?_
  rintro _ ⟨name, rfl⟩
  apply Passes.cons step_colon
  rw [skims_nested hstack]
  exact (hvalue.framed hgaps.gap hgaps.back (by simp)).imp_left
    fun ⟨later, hreads, hpast⟩ => ⟨later, hreads, before, name, hpast⟩

theorem PastMember.close {st : State} (hpast : PastMember stack skimming st) (hstack : stack ≠ []) :
    Passes known (skimming = false) st ['\x7d'] (Past stack skimming) := by
  obtain ⟨before, name, hpast⟩ := hpast
  refine hpast.passes (by simp [Separates]) id fun value => ?_
  rw [delivered_member hstack]
  exact .single (step_close_object ((name, value) :: before) name) (.behind _)

theorem PastMember.comma {st : State} (hpast : PastMember stack skimming st) (hstack : stack ≠ [])
    (hrest : IsPassed known .members rest) :
    Passes known (skimming = false) st (',' :: rest) (PastMember stack skimming) := by
  obtain ⟨before, name, hpast⟩ := hpast
  refine hpast.passes (by simp [Separates]) id fun value => ?_
  rw [delivered_member hstack]
  exact .cons (step_comma_object ((name, value) :: before) name)
    (hrest stack _ name false skimming hstack)

theorem passes_emptyObject {gap : List Char} (hgap : IsGap gap) :
    Passes known (skimming = false) (atValue stack closable skimming)
      ('\x7b' :: (gap ++ ['\x7d'])) (Past stack skimming) := by
  apply passes_openObject
  exact .goOn (reads_gap_name hgap _ true skimming)
    (.single (step_close_noMember [] "") (.behind _))

end

/-! ## The whole grammar -/

/-- Within an array or an object the machine gets through every text of the grammar, and if it
skims it refuses none. -/
theorem isPassed_of_isText {phrase : Phrase} {text : List Char} (htext : IsText phrase text) :
    IsPassed known phrase text := by
  induction htext with
  | null => exact fun _ closable skimming _ => .of_reads (reads_null closable skimming) (.behind _)
  | true_ => exact fun _ closable skimming _ => .of_reads (reads_true closable skimming) (.behind _)
  | false_ =>
      exact fun _ closable skimming _ => .of_reads (reads_false closable skimming) (.behind _)
  | number hnumber => exact fun _ _ _ _ => passes_number hnumber
  | string hliteral => exact fun _ _ _ _ => passes_string hliteral
  | emptyArray hgap => exact fun _ _ _ _ => passes_emptyArray hgap
  | array _ ih =>
      intro stack closable skimming _
      exact passes_openArray ((ih stack [] true skimming).trans fun _ hpast => hpast.close)
  | emptyObject hgap => exact fun _ _ _ _ => passes_emptyObject hgap
  | object _ ih =>
      intro stack closable skimming hstack
      exact passes_openObject ((ih stack [] "" true skimming hstack).trans fun _ hpast =>
        hpast.close hstack)
  | lastElement hfront _ hback ih =>
      intro stack before closable skimming
      exact (ih.framed hfront hback (by simp)).imp_left
        fun ⟨later, hreads, hpast⟩ => ⟨later, hreads, before, hpast⟩
  | moreElements hfront _ hback _ ih ihrest =>
      intro stack before closable skimming
      exact (ih.framed hfront hback (by simp)).trans fun _ hpast =>
        PastElement.comma ⟨before, hpast⟩ ihrest
  | lastMember hgaps hliteral _ ih =>
      intro stack before former closable skimming hstack
      exact passes_member hgaps hliteral ih hstack
  | moreMembers hgaps hliteral _ _ ih ihrest =>
      intro stack before former closable skimming hstack
      exact (passes_member hgaps hliteral ih hstack).trans fun _ hpast =>
        hpast.comma hstack ihrest

end NodeLink.Json.Reader
