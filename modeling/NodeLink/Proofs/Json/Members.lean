import NodeLink.Proofs.Json.Passing
/-!
# The members of an object

An object whose members stand in any order, with any white space, is read member by member.
The value of a member whose name is known comes out as it was spelled; the value of any other
member may be whatever the grammar allows.
-/

namespace NodeLink.Json.Reader

open NodeLink.Text

variable {known : String → Bool}

theorem reads_spelledName {literal front middle : List Char} {name : String}
    (hspells : Spells literal name.toList) (hfront : IsGap front) (hmiddle : IsGap middle)
    (before : List (String × Value)) (former : String) (rest : List Frame) (closable : Bool) :
    Reads known (atName (.object before former :: rest) closable false)
      (front ++ quote literal ++ middle) (atColon before name rest) := by
  have hquote : Reads known (atName (.object before former :: rest) closable false)
      (quote literal) (atColon before name rest) :=
    .cons (step_quote_name before former closable) (reads_name before former hspells)
  have hname := (reads_gap_name hfront _ closable false).trans hquote
  exact hname.trans (reads_gap_colon hmiddle rest before name false)

/-! ## Spelled values -/

section

variable {stack : List Frame}

/-- A value with white space around it. -/
theorem Reads.framed {closable skimming : Bool} {front text back : List Char} {value : Value}
    (htext : Reads known (atValue stack closable skimming) text (delivered stack value skimming))
    (hfront : IsGap front) (hback : IsGap back) :
    Reads known (atValue stack closable skimming) (front ++ text ++ back)
      (delivered stack value skimming) :=
  ((reads_gap_value hfront stack closable skimming).trans htext).trans
    (reads_gap_behind hback stack value skimming)

theorem reads_spelledTexts {texts : List String} {inner : List Char}
    (hspells : SpellsTexts texts inner) (before : List Value) (closable : Bool) :
    Reads known (atValue (.array before :: stack) closable) (inner ++ [']'])
      (delivered stack (.array (before.reverse ++ texts.map Value.string))) := by
  induction hspells generalizing before closable with
  | @last text front literal back hfront hspells hback =>
      have htext : Reads known (atValue (.array before :: stack) closable) _ _ :=
        (reads_string _ closable hspells).framed hfront hback
      have hclose := htext.trans (.single (step_close_array (.string text :: before)))
      rwa [List.reverse_cons] at hclose
  | @more text texts front literal back rest hfront hspells hback _ ih =>
      have htext : Reads known (atValue (.array before :: stack) closable) _ _ :=
        (reads_string _ closable hspells).framed hfront hback
      have hrest := Reads.cons (step_comma_array (.string text :: before))
        (ih (.string text :: before) false)
      rw [List.reverse_cons, List.append_assoc] at hrest
      have hwhole := htext.trans hrest
      rwa [← List.cons_append, ← List.append_assoc] at hwhole

/-- A spelled value is read as it was spelled. -/
theorem reads_spelledValue {value : Value} {text : List Char} (hspells : SpellsValue value text)
    (hroom : stack.length < greatestDepth) (closable : Bool) :
    Reads known (atValue stack closable) text (delivered stack value) := by
  cases hspells with
  | null => exact reads_null closable false
  | true_ => exact reads_true closable false
  | false_ => exact reads_false closable false
  | string hspells => exact reads_string stack closable hspells
  | noTexts hgap =>
      exact .cons (step_openArray closable hroom)
        ((reads_gap_value hgap _ true false).trans (.single (step_close_noElement [])))
  | texts hinner => exact .cons (step_openArray closable hroom) (reads_spelledTexts hinner [] true)

end

/-! ## Members -/

/-- A member whose name is known has the value that is wanted of it. -/
def IsWanted (known : String → Bool) (wanted : String → Option Value) (member : Member) : Prop :=
  known member.name = true →
    ∃ value, wanted member.name = some value ∧ SpellsValue value member.value

/-- What may come of a member. -/
structure Yields (known : String → Bool) (wanted : String → Option Value) (member : Member)
    (found : String × Value) : Prop where
  name : found.1 = member.name
  value : known member.name = true → IsWanted known wanted member →
    wanted member.name = some found.2

section

variable {wanted : String → Option Value} {refusable : Prop} {back : List Char}

theorem names_of_yields {members : List Member} {found : List (String × Value)}
    (hfound : List.Forall₂ (Yields known wanted) members found) :
    found.map (·.1) = members.map (·.name) := by
  induction hfound with
  | nil => rfl
  | cons hyields _ ih => rw [List.map_cons, List.map_cons, hyields.name, ih]

/-- Where every member is as wanted, so is all that comes of those with known names. -/
theorem wanted_of_yields {members : List Member} {found : List (String × Value)}
    (hfound : List.Forall₂ (Yields known wanted) members found)
    (hwanted : ∀ member ∈ members, IsWanted known wanted member) {name : String} {value : Value}
    (hknown : known name = true) (hmem : (name, value) ∈ found) : wanted name = some value := by
  induction hfound with
  | nil => exact absurd hmem List.not_mem_nil
  | @cons member first members found hyields _ ih =>
      cases List.mem_cons.mp hmem with
      | inl hfirst =>
          subst hfirst
          have hname : name = member.name := hyields.name
          rw [hname] at hknown ⊢
          exact hyields.value hknown (hwanted member List.mem_cons_self)
      | inr hrest =>
          exact ih (fun other hother => hwanted other (List.mem_cons_of_mem _ hother)) hrest

theorem delivered_outermost (before : List (String × Value)) (name : String) (value : Value)
    (skimming : Bool) : delivered [.object before name] value skimming =
      ⟨[.object ((name, value) :: before) name], .behind, false⟩ := by
  simp [delivered, State.deliver]

/-- Whatever comes of a member, the machine stands behind it in the outermost object. -/
theorem passes_outermost {member : Member} {before : List (String × Value)} {former : String}
    {closable : Bool} {c : Char} {rest : List Char} {ends : State → Prop}
    (hmay : ¬ IsWanted known wanted member → refusable) (hc : Separates c)
    (hrest : ∀ value, Yields known wanted member (member.name, value) →
      Passes known refusable
        ⟨[.object ((member.name, value) :: before) member.name], .behind, false⟩ (c :: rest) ends) :
    Passes known refusable (atName [.object before former] closable false)
      (member.text ++ c :: rest) ends := by
  rw [MemberText.text, List.append_assoc, List.cons_append]
  apply Passes.goOn (reads_spelledName member.spells member.gaps.front member.gaps.middle ..)
  apply Passes.cons step_colon
  show Passes known refusable (atValue [.object before member.name] false (!known member.name))
    _ ends
  have hany {skimming : Bool} : Passes known (skimming = false)
      (atValue [.object before member.name] false skimming)
      (member.gap ++ member.value ++ member.back) (Past [.object before member.name] skimming) :=
    (isPassed_of_isText member.isText).framed member.gaps.gap member.gaps.back (by simp)
  cases hknown : known member.name with
  | false =>
      refine (hany.weaken (by simp)).trans fun _ hpast => ?_
      refine hpast.passes hc (by simp) fun value => ?_
      rw [delivered_outermost]
      exact hrest value ⟨rfl, fun htrue => absurd (hknown.symm.trans htrue) (by decide)⟩
  | true =>
      by_cases hwanted : IsWanted known wanted member
      · obtain ⟨value, hvalue, hspells⟩ := hwanted hknown
        have hreads : Reads known (atValue [.object before member.name] false) _ _ :=
          (reads_spelledValue hspells (by simp [greatestDepth]) false).framed member.gaps.gap
            member.gaps.back
        rw [delivered_outermost] at hreads
        exact .goOn hreads (hrest value ⟨rfl, fun _ _ => hvalue⟩)
      · refine (hany.weaken fun _ => hmay hwanted).trans fun _ hpast => ?_
        refine hpast.passes hc (fun _ => hmay hwanted) fun value => ?_
        rw [delivered_outermost]
        exact hrest value ⟨rfl, fun _ htrue => absurd htrue hwanted⟩

/-- The machine reads the members one after the other, or it refuses one that is not as wanted. -/
theorem passes_members {members : List Member} (before : List (String × Value)) (former : String)
    (closable : Bool) (hclosable : members = [] → closable = true)
    (hmay : ∀ member ∈ members, ¬ IsWanted known wanted member → refusable)
    (hback : IsGap back) :
    Passes known refusable (atName [.object before former] closable false)
      (membersText members ++ '\x7d' :: back)
      (fun later => ∃ found, List.Forall₂ (Yields known wanted) members found ∧
        later = delivered [] (.object (before.reverse ++ found))) := by
  induction members generalizing before former closable with
  | nil =>
      obtain rfl := hclosable rfl
      exact .of_reads (.cons (step_close_noMember before former)
        (reads_gap_behind hback [] _ false)) ⟨[], .nil, by simp⟩
  | cons member members ih =>
      have hfirst := hmay member List.mem_cons_self
      cases members with
      | nil =>
          refine passes_outermost hfirst (by simp [Separates]) fun value hyields => ?_
          refine .of_reads (.cons (step_close_object _ member.name)
            (reads_gap_behind hback [] _ false)) ⟨[(member.name, value)], ?_, by simp⟩
          exact .cons hyields .nil
      | cons next members =>
          have htext : membersText (member :: next :: members) =
              member.text ++ ',' :: membersText (next :: members) := rfl
          rw [htext, List.append_assoc, List.cons_append]
          refine passes_outermost hfirst (by simp [Separates]) fun value hyields => ?_
          apply Passes.cons (step_comma_object _ member.name)
          have hrest := ih ((member.name, value) :: before) member.name false (by simp)
            fun other hother => hmay other (List.mem_cons_of_mem _ hother)
          refine hrest.imp_left ?_
          rintro ⟨later, hreads, found, hfound, rfl⟩
          exact ⟨_, hreads, (member.name, value) :: found, .cons hyields hfound, by simp⟩

end

/-! ## Whole objects -/

/-- An object is read with its members in their order, unless one is not as wanted. -/
theorem readKnowing_objectText (known : String → Bool) (wanted : String → Option Value)
    (members : List Member) {front back : List Char} (hfront : IsGap front) (hback : IsGap back) :
    (∃ found, List.Forall₂ (Yields known wanted) members found ∧
      readKnowing known (objectText front members back) = .ok (.object found)) ∨
    (∃ member ∈ members, ¬ IsWanted known wanted member) ∧
      readKnowing known (objectText front members back) = .error .malformed := by
  have hopen : (atValue [] false).step known '\x7b' = some (atName [.object [] ""] true false) :=
    step_openObject false (by decide)
  have hmembers : Passes known (∃ member ∈ members, ¬ IsWanted known wanted member)
      (atName [.object [] ""] true false) (membersText members ++ '\x7d' :: back) _ :=
    passes_members [] "" true (by simp)
      (fun member hmember hother => ⟨member, hmember, hother⟩) hback
  have hpasses := Passes.goOn (reads_gap_value hfront [] false false) (.cons hopen hmembers)
  rcases hpasses with ⟨later, hreads, found, hfound, rfl⟩ | ⟨hother, hnone⟩
  · refine .inl ⟨found, hfound, ?_⟩
    exact readKnowing_of_readsValue (Reads.value hreads)
  · refine .inr ⟨hother, ?_⟩
    rw [readKnowing, objectText, show State.start = atValue [] false from rfl, hnone]
    rfl

end NodeLink.Json.Reader
