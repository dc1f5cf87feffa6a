import Mathlib.Data.List.Induction
import Mathlib.Data.List.Nodup
import Mathlib.Data.String.Basic
import NodeLink.Proofs.Json.Reader
/-!
# Members of canonical values

Sorting the members of an object keeps one of each name and makes up none.  So a
value that a reader delivers names every member once, to look a member up is to
find it among the members, and the values of its members are canonical again.
Nothing else is found under a name than before.
-/

namespace NodeLink.Json

def IsCanonical (value : Value) : Prop :=
  ∃ source : Value, value = source.canonical

namespace Members

def Ascending (members : List (String × Value)) : Prop :=
  members.Pairwise fun former latter => former.1 < latter.1

theorem mem_of_mem_insert {name : String} {value : Value} {members : List (String × Value)}
    {member : String × Value} (hmem : member ∈ insert name value members) :
    member = (name, value) ∨ member ∈ members := by
  induction members with
  | nil => exact .inl (List.mem_singleton.mp hmem)
  | cons first rest ih =>
      unfold insert at hmem
      split at hmem
      next => exact List.mem_cons.mp hmem
      next =>
        split at hmem
        next =>
          rcases List.mem_cons.mp hmem with hnew | hrest
          · exact .inl hnew
          · exact .inr (List.mem_cons_of_mem first hrest)
        next =>
          rcases List.mem_cons.mp hmem with hfirst | hlater
          · exact .inr (hfirst ▸ List.mem_cons_self)
          · exact (ih hlater).imp_right (List.mem_cons_of_mem first)

theorem Ascending.insert {members : List (String × Value)} (hmembers : Ascending members)
    (name : String) (value : Value) : Ascending (insert name value members) := by
  induction members with
  | nil => exact List.pairwise_singleton _ _
  | cons first rest ih =>
      obtain ⟨hfirst, hrest⟩ := List.pairwise_cons.mp hmembers
      unfold Members.insert
      split
      next hbefore =>
        refine List.pairwise_cons.mpr ⟨?_, hmembers⟩
        intro member hmem
        rcases List.mem_cons.mp hmem with rfl | hlater
        · exact hbefore
        · exact lt_trans hbefore (hfirst member hlater)
      next hbefore =>
        split
        next hsame => exact List.pairwise_cons.mpr ⟨hsame ▸ hfirst, hrest⟩
        next hother =>
          refine List.pairwise_cons.mpr ⟨?_, ih hrest⟩
          intro member hmem
          rcases mem_of_mem_insert hmem with rfl | hlater
          · exact lt_of_le_of_ne (not_lt.mp hbefore) (Ne.symm hother)
          · exact hfirst member hlater

theorem ascending_sorted (members : List (String × Value)) : Ascending (sorted members) := by
  unfold sorted
  induction members using List.reverseRecOn with
  | nil => exact List.Pairwise.nil
  | append_singleton members last ih =>
      rw [List.foldl_append, List.foldl_cons, List.foldl_nil]
      exact ih.insert last.1 last.2

theorem mem_of_mem_sorted {members : List (String × Value)} {member : String × Value}
    (hmem : member ∈ sorted members) : member ∈ members := by
  unfold sorted at hmem
  induction members using List.reverseRecOn with
  | nil => exact hmem
  | append_singleton members last ih =>
      rw [List.foldl_append, List.foldl_cons, List.foldl_nil] at hmem
      rcases mem_of_mem_insert hmem with rfl | hformer
      · exact List.mem_append_right members List.mem_cons_self
      · exact List.mem_append_left [last] (ih hformer)

theorem Ascending.names_nodup {members : List (String × Value)} (hmembers : Ascending members) :
    (members.map (·.1)).Nodup :=
  List.pairwise_map.mpr (hmembers.imp ne_of_lt)

/-- Where every name stands once, a member is found under its name. -/
theorem find?_eq_some_iff {members : List (String × Value)} (hmembers : Ascending members)
    {name : String} {value : Value} :
    find? members name = some value ↔ (name, value) ∈ members := by
  have hnamed {member : String × Value} (hfound : members.reverse.find? (·.1 = name) = some member) :
      member ∈ members ∧ member.1 = name :=
    ⟨List.mem_reverse.mp (List.mem_of_find?_eq_some hfound), by simpa using List.find?_some hfound⟩
  unfold find?
  constructor
  · intro hfound
    obtain ⟨member, hmember, rfl⟩ := Option.map_eq_some_iff.mp hfound
    obtain ⟨hmem, rfl⟩ := hnamed hmember
    exact hmem
  · intro hmem
    cases hfound : members.reverse.find? (·.1 = name) with
    | none =>
        have hnone := List.find?_eq_none.mp hfound _ (List.mem_reverse.mpr hmem)
        simp at hnone
    | some member =>
        obtain ⟨hmember, hname⟩ := hnamed hfound
        have hsame : member = (name, value) :=
          List.inj_on_of_nodup_map hmembers.names_nodup hmember hmem hname
        rw [Option.map_some, hsame]

/-! ## Looking a member up -/

theorem find?_cons (member : String × Value) (rest : List (String × Value)) (name : String) :
    find? (member :: rest) name =
      (find? rest name).or (if member.1 = name then some member.2 else none) := by
  unfold find?
  rw [List.reverse_cons, List.find?_append, Option.map_or]
  congr 1
  by_cases hname : member.1 = name <;> simp [hname]

theorem find?_eq_none {members : List (String × Value)} {name : String}
    (habsent : ∀ member ∈ members, member.1 ≠ name) : find? members name = none := by
  unfold find?
  rw [Option.map_eq_none_iff, List.find?_eq_none]
  intro member hmem
  simpa using habsent member (List.mem_reverse.mp hmem)

theorem find?_insert {members : List (String × Value)} (hmembers : Ascending members)
    (name : String) (value : Value) (other : String) :
    find? (insert name value members) other =
      if name = other then some value else find? members other := by
  induction members with
  | nil => simp [insert, find?_cons, find?_eq_none]
  | cons first rest ih =>
      obtain ⟨hfirst, hrest⟩ := List.pairwise_cons.mp hmembers
      unfold insert
      split
      next hbefore =>
        rw [find?_cons]
        split
        next hsame =>
          subst hsame
          rw [find?_eq_none, Option.none_or]
          intro member hmem
          rcases List.mem_cons.mp hmem with rfl | hlater
          · exact (ne_of_lt hbefore).symm
          · exact (ne_of_lt (lt_trans hbefore (hfirst member hlater))).symm
        next => rw [Option.or_none]
      next hbefore =>
        split
        next hsame =>
          rw [find?_cons, find?_cons, ← hsame]
          split
          next hother =>
            subst hother
            rw [find?_eq_none, Option.none_or]
            intro member hmem
            exact (ne_of_lt (hsame ▸ hfirst member hmem)).symm
          next => rw [Option.or_none]
        next hother =>
          rw [find?_cons, ih hrest, find?_cons]
          split
          next => rw [Option.some_or]
          next => rfl

/-- Sorting changes nothing about what is found under a name. -/
theorem find?_sorted (members : List (String × Value)) (name : String) :
    find? (sorted members) name = find? members name := by
  unfold sorted
  induction members using List.reverseRecOn with
  | nil => rfl
  | append_singleton members last ih =>
      have hascending : Ascending (members.foldl (fun done member =>
          insert member.1 member.2 done) []) := ascending_sorted members
      rw [List.foldl_append, List.foldl_cons, List.foldl_nil, find?_insert hascending, ih]
      unfold find?
      rw [List.reverse_append, List.reverse_singleton, List.singleton_append, List.find?_cons]
      by_cases hname : last.1 = name <;> simp [hname]

end Members

theorem find?_canonicalMembers (members : List (String × Value)) (name : String) :
    Members.find? (canonicalMembers members) name =
      (Members.find? members name).map Value.canonical := by
  induction members with
  | nil => rfl
  | cons first rest ih =>
      obtain ⟨former, value⟩ := first
      rw [canonicalMembers, Members.find?_cons, Members.find?_cons, ih, Option.map_or]
      congr 1
      split <;> rfl

theorem find?_sorted_canonical (members : List (String × Value)) (name : String) :
    Members.find? (Members.sorted (canonicalMembers members)) name =
      (Members.find? members name).map Value.canonical := by
  rw [Members.find?_sorted, find?_canonicalMembers]

theorem member?_canonical (value : Value) (name : String) :
    value.canonical.member? name = (value.member? name).map Value.canonical := by
  cases value with
  | object members =>
      rw [Value.canonical, Value.member?, Value.member?, find?_sorted_canonical]
  | null | bool | number | string | array => simp [Value.canonical, Value.member?]

theorem member?_canonical_of_none {value : Value} {name : String}
    (hnone : value.member? name = none) : value.canonical.member? name = none := by
  rw [member?_canonical, hnone, Option.map_none]

theorem canonicalItems_eq (items : List Value) :
    canonicalItems items = items.map Value.canonical := by
  induction items with
  | nil => rfl
  | cons item rest ih => rw [canonicalItems, ih, List.map_cons]

theorem mem_canonicalMembers_iff {members : List (String × Value)} {member : String × Value} :
    member ∈ canonicalMembers members ↔
      ∃ former ∈ members, member = (former.1, former.2.canonical) := by
  induction members with
  | nil => simp [canonicalMembers]
  | cons first rest ih =>
      obtain ⟨name, value⟩ := first
      rw [canonicalMembers, List.mem_cons, ih]
      simp

/-- Sorting members keeps values exact. -/
theorem Value.Exact.canonical {depth : Nat} {value : Value} (hexact : value.Exact depth) :
    value.canonical.Exact depth := by
  induction hexact with
  | null => exact .null
  | bool b => exact .bool b
  | integer hfits => exact .integer hfits
  | string text => exact .string text
  | array hitems ih =>
      rw [Value.canonical, canonicalItems_eq]
      apply Value.Exact.array
      intro item hitem
      obtain ⟨source, hsource, rfl⟩ := List.mem_map.mp hitem
      exact ih source hsource
  | object hmembers ih =>
      rw [Value.canonical]
      apply Value.Exact.object
      intro member hmember
      obtain ⟨former, hformer, rfl⟩ :=
        mem_canonicalMembers_iff.mp (Members.mem_of_mem_sorted hmember)
      exact ih former hformer

/-- The object that is read of what was written of an object. -/
theorem readText_object {depth : Nat} {members : List (String × Value)}
    (hexact : (Value.object members).Exact depth) (hdepth : depth ≤ greatestDepth) :
    readText (Value.object members).text =
      .ok (.object (Members.sorted (canonicalMembers members))) := by
  rw [readText_text hexact hdepth, Value.canonical]

theorem mem_canonicalMembers {members : List (String × Value)} {member : String × Value}
    (hmem : member ∈ canonicalMembers members) : IsCanonical member.2 := by
  obtain ⟨former, -, rfl⟩ := mem_canonicalMembers_iff.mp hmem
  exact ⟨former.2, rfl⟩

theorem IsCanonical.of_items {items : List Value} (hcanonical : IsCanonical (.array items)) :
    ∀ item ∈ items, IsCanonical item := by
  obtain ⟨source, hsource⟩ := hcanonical
  cases source with
  | array written =>
      rw [Value.canonical, canonicalItems_eq, Value.array.injEq] at hsource
      rw [hsource]
      intro item hitem
      obtain ⟨value, -, rfl⟩ := List.mem_map.mp hitem
      exact ⟨value, rfl⟩
  | null | bool | number | string | object => simp [Value.canonical] at hsource

theorem IsCanonical.of_members {members : List (String × Value)}
    (hcanonical : IsCanonical (.object members)) :
    Members.Ascending members ∧ ∀ member ∈ members, IsCanonical member.2 := by
  obtain ⟨source, hsource⟩ := hcanonical
  cases source with
  | object written =>
      rw [Value.canonical, Value.object.injEq] at hsource
      rw [hsource]
      refine ⟨Members.ascending_sorted _, ?_⟩
      intro member hmem
      exact mem_canonicalMembers (Members.mem_of_mem_sorted hmem)
  | null | bool | number | string | array => simp [Value.canonical] at hsource

theorem IsCanonical.member?_eq_some_iff {members : List (String × Value)}
    (hcanonical : IsCanonical (.object members)) {name : String} {value : Value} :
    (Value.object members).member? name = some value ↔ (name, value) ∈ members :=
  Members.find?_eq_some_iff hcanonical.of_members.1

end NodeLink.Json
