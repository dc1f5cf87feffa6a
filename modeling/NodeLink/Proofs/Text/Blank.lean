import Mathlib.Data.List.DropRight
import NodeLink.Text.Blank
/-!
# What trimming leaves

Trimming stops at the first character on either side that is not blank.  So what it
leaves of a text with something in it has no blank character at its ends, and still has
something in it; and a text without blanks is left as it is.
-/

namespace NodeLink.Text

theorem isBlank_head_dropWhile {text : List Char} {c : Char}
    (hhead : (text.dropWhile isBlank).head? = some c) : isBlank c = false := by
  have hstop := List.head?_dropWhile_not isBlank text
  rw [hhead] at hstop
  exact hstop

theorem trimmed_eq (text : List Char) :
    trimmed text = (text.dropWhile isBlank).rdropWhile isBlank := rfl

theorem isBlank_head_trimmed {text : List Char} {c : Char}
    (hhead : (trimmed text).head? = some c) : isBlank c = false := by
  obtain ⟨rest, hprefix⟩ := List.rdropWhile_prefix isBlank (text.dropWhile isBlank)
  rw [← trimmed_eq] at hprefix
  have hstop : (text.dropWhile isBlank).head? = some c := by
    rw [← hprefix, List.head?_append, hhead, Option.some_or]
  exact isBlank_head_dropWhile hstop

theorem isBlank_last_trimmed {text : List Char} {c : Char}
    (hlast : (trimmed text).getLast? = some c) : isBlank c = false := by
  rw [trimmed, List.getLast?_reverse] at hlast
  exact isBlank_head_dropWhile hlast

theorem trimmed_eq_nil_iff {text : List Char} : trimmed text = [] ↔ text.all isBlank = true := by
  rw [trimmed_eq, List.rdropWhile_eq_nil_iff, List.all_eq_true]
  constructor
  · intro hall
    rw [← List.dropWhile_eq_nil_iff, ← List.head?_eq_none_iff, Option.eq_none_iff_forall_ne_some]
    intro c hhead
    have hblank := hall c (List.mem_of_head? hhead)
    rw [isBlank_head_dropWhile hhead] at hblank
    cases hblank
  · intro hall c hc
    exact hall c ((List.dropWhile_suffix isBlank).subset hc)

/-- Trimming leaves nothing but blanks just of a text of blanks. -/
theorem all_isBlank_trimmed (text : List Char) :
    (trimmed text).all isBlank = text.all isBlank := by
  rw [Bool.eq_iff_iff]
  constructor
  · intro hall
    apply trimmed_eq_nil_iff.mp
    cases htrimmed : trimmed text with
    | nil => rfl
    | cons c rest =>
        have hsolid : isBlank c = false := isBlank_head_trimmed (by rw [htrimmed]; rfl)
        simp [htrimmed, hsolid] at hall
  · intro hall
    rw [trimmed_eq_nil_iff.mpr hall]
    rfl

theorem dropWhile_isBlank {text : List Char} (hplain : ∀ c ∈ text, isBlank c = false) :
    text.dropWhile isBlank = text := by
  cases text with
  | nil => rfl
  | cons c rest =>
      apply List.dropWhile_cons_of_neg
      simp [hplain c List.mem_cons_self]

theorem trimmed_of_not_blank {text : List Char} (hplain : ∀ c ∈ text, isBlank c = false) :
    trimmed text = text := by
  have hreverse : ∀ c ∈ text.reverse, isBlank c = false := by
    intro c hc
    exact hplain c (List.mem_reverse.mp hc)
  rw [trimmed, dropWhile_isBlank hplain, dropWhile_isBlank hreverse, List.reverse_reverse]

/-- A text with something in it and no blank character at either end. -/
structure IsTidy (text : String) : Prop where
  solid : isBlankText text = false
  first : ∀ c, text.toList.head? = some c → isBlank c = false
  last : ∀ c, text.toList.getLast? = some c → isBlank c = false

theorem isTidy_trim {text : String} (hsolid : isBlankText text = false) :
    IsTidy (trim text) := by
  have htext : (trim text).toList = trimmed text.toList := by rw [trim, String.toList_ofList]
  refine ⟨?_, ?_, ?_⟩
  · rw [isBlankText, htext, all_isBlank_trimmed]
    exact hsolid
  · intro c hhead
    rw [htext] at hhead
    exact isBlank_head_trimmed hhead
  · intro c hlast
    rw [htext] at hlast
    exact isBlank_last_trimmed hlast

end NodeLink.Text
