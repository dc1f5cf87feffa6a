import NodeLink.Session.Roster
/-!
# Rosters only grow new numbers

A roster gives every listener a number of its own.  Whatever happens to it, a
number that was given out and is no longer listed does not come back; so a
listener that is listed at two moments was listed all the time between them.
-/

namespace NodeLink.Session

namespace Roster

def ids (roster : Roster) : List Nat :=
  roster.registry.entries.map (·.1)

structure WellFormed (roster : Roster) : Prop where
  nodup : roster.ids.Nodup
  lt_next : ∀ id ∈ roster.ids, id < roster.registry.next

/-- What happened to a roster added new numbers at most. -/
structure Extends (roster later : Roster) : Prop where
  wellFormed : roster.WellFormed → later.WellFormed
  next_le : roster.registry.next ≤ later.registry.next
  mem : ∀ id ∈ later.ids, id ∈ roster.ids ∨ roster.registry.next ≤ id

namespace Extends

variable {roster later last : Roster}

theorem refl (roster : Roster) : roster.Extends roster :=
  ⟨id, Nat.le_refl _, fun _ hmem => .inl hmem⟩

theorem trans (hfirst : roster.Extends later) (hsecond : later.Extends last) :
    roster.Extends last where
  wellFormed := hsecond.wellFormed ∘ hfirst.wellFormed
  next_le := Nat.le_trans hfirst.next_le hsecond.next_le
  mem := by
    intro id hid
    rcases hsecond.mem id hid with hlater | hnew
    · exact hfirst.mem id hlater
    · exact .inr (Nat.le_trans hfirst.next_le hnew)

/-- A listener that is gone does not come back. -/
theorem not_mem (hextends : roster.Extends later) {id : Nat}
    (hold : id < roster.registry.next) (hgone : id ∉ roster.ids) : id ∉ later.ids := by
  intro hback
  rcases hextends.mem id hback with hmem | hnew
  · exact hgone hmem
  · omega

end Extends

theorem wellFormed_empty : Roster.empty.WellFormed :=
  ⟨List.nodup_nil, fun _ hid => by simp [ids, empty, Registry.empty] at hid⟩

theorem extends_add (roster : Roster) (listener : Listener) :
    roster.Extends (roster.add listener) where
  wellFormed := by
    intro hformed
    have hids : (roster.add listener).ids = roster.ids ++ [roster.registry.next] := by
      simp [ids, add, Registry.add]
    constructor
    · rw [hids, List.nodup_append]
      refine ⟨hformed.nodup, by simp, ?_⟩
      intro id hid other hother
      have hlt := hformed.lt_next id hid
      simp only [List.mem_singleton] at hother
      omega
    · intro id hid
      rw [hids, List.mem_append, List.mem_singleton] at hid
      show id < roster.registry.next + 1
      rcases hid with hmem | rfl
      · exact Nat.lt_succ_of_lt (hformed.lt_next id hmem)
      · exact Nat.lt_succ_self _
  next_le := Nat.le_succ _
  mem := by
    intro id hid
    simp only [ids, add, Registry.add, List.map_append, List.mem_append, List.map_cons,
      List.map_nil, List.mem_singleton] at hid
    rcases hid with hmem | rfl
    · exact .inl hmem
    · exact .inr (Nat.le_refl _)

theorem extends_of_sublist {roster later : Roster}
    (hsublist : later.ids.Sublist roster.ids)
    (hnext : later.registry.next = roster.registry.next) : roster.Extends later where
  wellFormed := fun hformed =>
    ⟨hformed.nodup.sublist hsublist,
      fun id hid => hnext ▸ hformed.lt_next id (hsublist.subset hid)⟩
  next_le := Nat.le_of_eq hnext.symm
  mem := fun _ hid => .inl (hsublist.subset hid)

theorem extends_remove (roster : Roster) (name : String) :
    roster.Extends (roster.remove name).1 := by
  unfold remove
  cases roster.idOf? name with
  | none => exact .refl roster
  | some id =>
      apply extends_of_sublist
      · exact List.Sublist.map _ List.filter_sublist
      · rfl

theorem extends_addUnused (roster : Roster) (name : String) :
    roster.Extends (roster.addUnused name) := by
  unfold addUnused
  cases roster.idOf? name with
  | none => exact roster.extends_add _
  | some id => exact .refl roster

theorem extends_clear (roster : Roster) : roster.Extends roster.clear :=
  extends_of_sublist (List.nil_sublist _) rfl

end Roster

end NodeLink.Session
