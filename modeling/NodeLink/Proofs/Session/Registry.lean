import Mathlib.Data.List.Induction
import NodeLink.Session.Registry
/-!
# What listeners can rely on

A registry may be changed from outside and by the listeners that it calls, while it calls
them.  A chronicle keeps all that happened, each time with the registry as it stood then.
Who is registered is read off the chronicle alone: those who were added and have neither
been removed nor cleared away since.  The registry lists just these at every moment, in the
order of their numbers, and notifying goes through those it began with.
-/

namespace NodeLink.Session.Registry

variable {α : Type}

inductive Change (α : Type)
  | add (listener : α)
  | remove (id : Nat)
  | clear
  deriving DecidableEq, Repr

inductive Happening (α : Type)
  | added (id : Nat) (listener : α)
  | removed (id : Nat) (wasThere : Bool)
  | cleared
  | called (id : Nat) (listener : α)
  deriving DecidableEq, Repr

/-- Something that happened, and the registry as it stands behind it. -/
structure Moment (α : Type) where
  happening : Happening α
  registry : Registry α

structure Chronicle (α : Type) where
  registry : Registry α
  past : List (Moment α)

/-- What the listener does that was called last.  It may go by all that happened so far, and
what comes of each of its changes is settled by that. -/
abbrev Conduct (α : Type) := List (Moment α) → List (Change α)

namespace Chronicle

def start : Chronicle α := ⟨.empty, []⟩

def note (chronicle : Chronicle α) (happening : Happening α) (registry : Registry α) :
    Chronicle α :=
  ⟨registry, chronicle.past ++ [⟨happening, registry⟩]⟩

def change (chronicle : Chronicle α) : Change α → Chronicle α
  | .add listener =>
    let (registry, id) := chronicle.registry.add listener
    chronicle.note (.added id listener) registry
  | .remove id =>
    let (registry, wasThere) := chronicle.registry.remove id
    chronicle.note (.removed id wasThere) registry
  | .clear => chronicle.note .cleared chronicle.registry.clear

def call (conduct : Conduct α) (entry : Nat × α) (chronicle : Chronicle α) : Chronicle α :=
  let noted := chronicle.note (.called entry.1 entry.2) chronicle.registry
  (conduct noted.past).foldl change noted

end Chronicle

inductive Operation (α : Type)
  | change (change : Change α)
  | notify
  deriving DecidableEq, Repr

namespace Chronicle

def perform (conduct : Conduct α) (chronicle : Chronicle α) : Operation α → Chronicle α
  | .change change => chronicle.change change
  | .notify => Registry.notify Chronicle.registry (call conduct) chronicle

def run (conduct : Conduct α) (operations : List (Operation α)) : Chronicle α :=
  operations.foldl (perform conduct) start

end Chronicle

/-! ## Reading a chronicle -/

def Happening.givenId? : Happening α → Option Nat
  | .added id _ => some id
  | _ => none

def Happening.call? : Happening α → Option (Nat × α)
  | .called id listener => some (id, listener)
  | _ => none

/-- What happened leaves nobody registered under a number. -/
def Happening.Ends (id : Nat) : Happening α → Prop
  | .removed other _ => other = id
  | .cleared => True
  | _ => False

def givenIds (past : List (Moment α)) : List Nat :=
  past.filterMap (·.happening.givenId?)

def calls (past : List (Moment α)) : List (Nat × α) :=
  past.filterMap (·.happening.call?)

/-- A listener was added under a number, and nothing has ended that since. -/
def IsRegistered (past : List (Moment α)) (id : Nat) (listener : α) : Prop :=
  ∃ before registry after, past = before ++ ⟨.added id listener, registry⟩ :: after ∧
    ∀ moment ∈ after, ¬ moment.happening.Ends id

def ids (registry : Registry α) : List Nat :=
  registry.entries.map (·.1)

/-- What holds at each moment of a chronicle.  Numbers are given out in turn, so none comes
twice; the registry is in the order of the numbers, and it lists who is registered; removing
tells whether someone was. -/
structure KeepsLaws (past : List (Moment α)) : Prop where
  numbered : givenIds past = List.range (givenIds past).length
  ordered : ∀ moment ∈ past, moment.registry.ids.Pairwise (· < ·)
  listed : ∀ before moment after, past = before ++ moment :: after → ∀ id listener,
    (id, listener) ∈ moment.registry.entries ↔ IsRegistered (before ++ [moment]) id listener
  answered : ∀ before id wasThere registry after,
    past = before ++ ⟨.removed id wasThere, registry⟩ :: after →
      (wasThere = true ↔ ∃ listener, IsRegistered before id listener)

/-! ## One moment more -/

theorem concat_eq_append_cons {β : Type} {past before after : List β} {last found : β}
    (hsame : past ++ [last] = before ++ found :: after) :
    (before = past ∧ found = last) ∨ ∃ rest, past = before ++ found :: rest := by
  rcases List.eq_nil_or_concat after with rfl | ⟨rest, final, rfl⟩
  · obtain ⟨hpast, hlast⟩ := List.append_inj' hsame rfl
    exact .inl ⟨hpast.symm, (List.cons.inj hlast).1.symm⟩
  · rw [List.concat_eq_append, ← List.cons_append, ← List.append_assoc] at hsame
    exact .inr ⟨rest, (List.append_inj' hsame rfl).1⟩

section

variable {past : List (Moment α)} {moment : Moment α} {id : Nat} {listener : α}

theorem isRegistered_concat :
    IsRegistered (past ++ [moment]) id listener ↔
      moment.happening = .added id listener ∨
        IsRegistered past id listener ∧ ¬ moment.happening.Ends id := by
  constructor
  · rintro ⟨before, registry, after, hpast, hafter⟩
    rcases List.eq_nil_or_concat after with rfl | ⟨rest, final, rfl⟩
    · obtain ⟨-, hlast⟩ := List.append_inj' hpast rfl
      rw [(List.cons.inj hlast).1]
      exact .inl rfl
    · rw [List.concat_eq_append] at hpast hafter
      rw [← List.cons_append, ← List.append_assoc] at hpast
      obtain ⟨hpast, hlast⟩ := List.append_inj' hpast rfl
      rw [(List.cons.inj hlast).1]
      refine .inr ⟨⟨before, registry, rest, hpast, ?_⟩, ?_⟩
      · exact fun moment hmem => hafter moment (List.mem_append_left _ hmem)
      · exact hafter final (List.mem_append_right _ (List.mem_singleton_self final))
  · rintro (hadded | ⟨⟨before, registry, after, rfl, hafter⟩, hstays⟩)
    · refine ⟨past, moment.registry, [], ?_, fun _ hmem => absurd hmem List.not_mem_nil⟩
      rw [← hadded]
    · refine ⟨before, registry, after ++ [moment], by simp, fun other hmem => ?_⟩
      rcases List.mem_append.mp hmem with hold | hnew
      · exact hafter other hold
      · rw [List.mem_singleton.mp hnew]
        exact hstays

theorem mem_givenIds_of_isRegistered (hregistered : IsRegistered past id listener) :
    id ∈ givenIds past := by
  obtain ⟨before, registry, after, rfl, -⟩ := hregistered
  simp [givenIds, Happening.givenId?]

end

/-! ## Chronicles that keep the laws -/

namespace Chronicle

/-- A chronicle that keeps the laws, with its registry as the last moment left it. -/
structure Faithful (chronicle : Chronicle α) : Prop where
  laws : KeepsLaws chronicle.past
  next : chronicle.registry.next = (givenIds chronicle.past).length
  ordered : chronicle.registry.ids.Pairwise (· < ·)
  listed : ∀ id listener, (id, listener) ∈ chronicle.registry.entries ↔
    IsRegistered chronicle.past id listener

/-- What a happening may do to the registry before it. -/
structure Follows (former : Registry α) (happening : Happening α) (later : Registry α) :
    Prop where
  next : later.next = former.next + happening.givenId?.toList.length
  given : ∀ id ∈ happening.givenId?, id = former.next
  ordered : later.ids.Pairwise (· < ·)
  listed : ∀ id listener, (id, listener) ∈ later.entries ↔
    happening = .added id listener ∨ (id, listener) ∈ former.entries ∧ ¬ happening.Ends id
  answered : ∀ id wasThere, happening = .removed id wasThere →
    (wasThere = true ↔ ∃ listener, (id, listener) ∈ former.entries)

theorem faithful_start : (start : Chronicle α).Faithful where
  laws :=
    { numbered := rfl
      ordered := fun _ hmem => absurd hmem List.not_mem_nil
      listed := by simp [start]
      answered := by simp [start] }
  next := rfl
  ordered := List.Pairwise.nil
  listed := by simp [start, IsRegistered, Registry.empty]

theorem Faithful.note {chronicle : Chronicle α} (hfaithful : chronicle.Faithful)
    {happening : Happening α} {later : Registry α}
    (hfollows : Follows chronicle.registry happening later) :
    (chronicle.note happening later).Faithful := by
  have hgiven : givenIds (chronicle.note happening later).past =
      givenIds chronicle.past ++ happening.givenId?.toList := by
    cases hid : happening.givenId? <;> simp [givenIds, Chronicle.note, hid]
  have hlisted (id : Nat) (listener : α) : (id, listener) ∈ later.entries ↔
      IsRegistered (chronicle.past ++ [⟨happening, later⟩]) id listener := by
    rw [hfollows.listed, isRegistered_concat, hfaithful.listed]
  refine ⟨⟨?_, ?_, ?_, ?_⟩, ?_, hfollows.ordered, hlisted⟩
  · rw [hgiven, List.length_append, hfaithful.laws.numbered]
    cases hid : happening.givenId? with
    | none => simp
    | some id =>
        have hnext := (hfollows.given id hid).trans hfaithful.next
        simp [hnext, List.range_succ]
  · intro moment hmem
    rcases List.mem_append.mp hmem with hold | hnew
    · exact hfaithful.laws.ordered moment hold
    · rw [List.mem_singleton.mp hnew]
      exact hfollows.ordered
  · intro before moment after hpast
    rcases concat_eq_append_cons hpast with ⟨rfl, rfl⟩ | ⟨rest, hrest⟩
    · exact hlisted
    · exact hfaithful.laws.listed before moment rest hrest
  · intro before id wasThere registry after hpast
    rcases concat_eq_append_cons hpast with ⟨rfl, hmoment⟩ | ⟨rest, hrest⟩
    · have hhappening : happening = .removed id wasThere := (congrArg Moment.happening hmoment).symm
      rw [hfollows.answered id wasThere hhappening]
      simp only [hfaithful.listed]
    · exact hfaithful.laws.answered before id wasThere registry rest hrest
  · rw [hgiven, List.length_append, ← hfaithful.next]
    exact hfollows.next

/-! ## Changes and calls -/

theorem follows_clear (registry : Registry α) : Follows registry .cleared registry.clear where
  next := rfl
  given := fun _ hid => by cases hid
  ordered := List.Pairwise.nil
  listed := by simp [clear, Happening.Ends]
  answered := fun _ _ hother => by cases hother

section

variable {registry : Registry α} (hordered : registry.ids.Pairwise (· < ·))

include hordered

theorem follows_add (hnew : ∀ id ∈ registry.ids, id < registry.next) (listener : α) :
    Follows registry (.added registry.next listener) (registry.add listener).1 where
  next := rfl
  given := fun id hid => (Option.some.inj hid).symm
  ordered := by
    simp only [ids, add, List.map_append, List.map_cons, List.map_nil, List.pairwise_append,
      List.mem_singleton, forall_eq]
    exact ⟨hordered, List.pairwise_singleton _ _, hnew⟩
  listed := by
    intro id other
    simp only [add, List.mem_append, List.mem_singleton, Prod.mk.injEq, Happening.added.injEq,
      Happening.Ends, not_false_eq_true, and_true, eq_comm (a := id), eq_comm (a := other)]
    exact Or.comm
  answered := fun _ _ hother => by cases hother

theorem follows_remove (id : Nat) :
    Follows registry (.removed id (registry.remove id).2) (registry.remove id).1 where
  next := rfl
  given := fun _ hid => by cases hid
  ordered := hordered.sublist (List.Sublist.map _ List.filter_sublist)
  listed := by
    intro other listener
    simp [remove, Happening.Ends, eq_comm (a := id)]
  answered := by
    intro other wasThere hsame
    obtain ⟨rfl, rfl⟩ := Happening.removed.inj hsame
    simp [remove, holds]

theorem follows_called (entry : Nat × α) :
    Follows registry (.called entry.1 entry.2) registry where
  next := rfl
  given := fun _ hid => by cases hid
  ordered := hordered
  listed := by simp [Happening.Ends]
  answered := fun _ _ hother => by cases hother

end

namespace Faithful

variable {chronicle : Chronicle α} (hfaithful : chronicle.Faithful)

include hfaithful

theorem lt_next : ∀ id ∈ chronicle.registry.ids, id < chronicle.registry.next := by
  intro id hid
  obtain ⟨⟨_, listener⟩, hmem, rfl⟩ := List.mem_map.mp hid
  have hgiven := mem_givenIds_of_isRegistered ((hfaithful.listed _ _).mp hmem)
  rw [hfaithful.laws.numbered, List.mem_range, ← hfaithful.next] at hgiven
  exact hgiven

theorem change (change : Change α) : (chronicle.change change).Faithful := by
  cases change with
  | add listener =>
      exact hfaithful.note (follows_add hfaithful.ordered hfaithful.lt_next listener)
  | remove id => exact hfaithful.note (follows_remove hfaithful.ordered id)
  | clear => exact hfaithful.note (follows_clear _)

theorem changes (changes : List (Change α)) :
    (changes.foldl Chronicle.change chronicle).Faithful := by
  induction changes generalizing chronicle with
  | nil => exact hfaithful
  | cons change changes ih => exact ih (hfaithful.change change)

theorem call (conduct : Conduct α) (entry : Nat × α) :
    (chronicle.call conduct entry).Faithful :=
  (hfaithful.note (follows_called hfaithful.ordered entry)).changes _

theorem calls (conduct : Conduct α) (entries : List (Nat × α)) :
    (entries.foldl (fun chronicle entry => chronicle.call conduct entry) chronicle).Faithful := by
  induction entries generalizing chronicle with
  | nil => exact hfaithful
  | cons entry entries ih => exact ih (hfaithful.call conduct entry)

theorem perform (conduct : Conduct α) (operation : Operation α) :
    (chronicle.perform conduct operation).Faithful := by
  cases operation with
  | change change => exact hfaithful.change change
  | notify => exact hfaithful.calls conduct _

end Faithful

theorem faithful_run (conduct : Conduct α) (operations : List (Operation α)) :
    (run conduct operations).Faithful := by
  unfold run
  induction operations using List.reverseRecOn with
  | nil => exact faithful_start
  | append_singleton operations operation ih =>
      rw [List.foldl_append]
      exact ih.perform conduct operation

/-! ## Who is called -/

/-- A chronicle goes on, and meanwhile some listeners are called. -/
def GoesOn (chronicle : Chronicle α) (entries : List (Nat × α)) (later : Chronicle α) : Prop :=
  ∃ during, later.past = chronicle.past ++ during ∧ Registry.calls during = entries

namespace GoesOn

variable {chronicle later last : Chronicle α} {entries others : List (Nat × α)}

theorem refl (chronicle : Chronicle α) : chronicle.GoesOn [] chronicle :=
  ⟨[], (List.append_nil _).symm, rfl⟩

theorem trans (hfirst : chronicle.GoesOn entries later) (hsecond : later.GoesOn others last) :
    chronicle.GoesOn (entries ++ others) last := by
  obtain ⟨former, hformer, hentries⟩ := hfirst
  obtain ⟨latter, hlatter, hothers⟩ := hsecond
  refine ⟨former ++ latter, by rw [hlatter, hformer, List.append_assoc], ?_⟩
  rw [Registry.calls, List.filterMap_append, ← hentries, ← hothers]
  rfl

end GoesOn

theorem goesOn_change (chronicle : Chronicle α) (change : Change α) :
    chronicle.GoesOn [] (chronicle.change change) := by
  cases change with
  | add | remove | clear => exact ⟨_, rfl, rfl⟩

theorem goesOn_changes (chronicle : Chronicle α) (changes : List (Change α)) :
    chronicle.GoesOn [] (changes.foldl change chronicle) := by
  induction changes generalizing chronicle with
  | nil => exact .refl chronicle
  | cons change changes ih => exact (chronicle.goesOn_change change).trans (ih _)

theorem goesOn_call (conduct : Conduct α) (entry : Nat × α) (chronicle : Chronicle α) :
    chronicle.GoesOn [entry] (chronicle.call conduct entry) := by
  have hcalled : chronicle.GoesOn [entry]
      (chronicle.note (.called entry.1 entry.2) chronicle.registry) := ⟨_, rfl, rfl⟩
  exact hcalled.trans (goesOn_changes _ _)

theorem goesOn_calls (conduct : Conduct α) (entries : List (Nat × α)) (chronicle : Chronicle α) :
    chronicle.GoesOn entries
      (entries.foldl (fun chronicle entry => chronicle.call conduct entry) chronicle) := by
  induction entries generalizing chronicle with
  | nil => exact .refl chronicle
  | cons entry entries ih => exact (chronicle.goesOn_call conduct entry).trans (ih _)

/-- Whatever the listeners change meanwhile, those are called that were listed before. -/
theorem goesOn_notify (conduct : Conduct α) (chronicle : Chronicle α) :
    chronicle.GoesOn chronicle.registry.entries (chronicle.perform conduct .notify) :=
  goesOn_calls conduct _ chronicle

theorem exists_goesOn (conduct : Conduct α) (operations : List (Operation α))
    (chronicle : Chronicle α) :
    ∃ entries, chronicle.GoesOn entries (operations.foldl (perform conduct) chronicle) := by
  induction operations generalizing chronicle with
  | nil => exact ⟨_, .refl chronicle⟩
  | cons operation operations ih =>
      obtain ⟨others, hrest⟩ := ih (chronicle.perform conduct operation)
      cases operation with
      | change change => exact ⟨_, (chronicle.goesOn_change change).trans hrest⟩
      | notify => exact ⟨_, (chronicle.goesOn_notify conduct).trans hrest⟩

end Chronicle

open Chronicle (run)

/-- What happens while listeners are notified: each of those that were registered before is
called once, in the order in which they were added. -/
structure Notifies (past during : List (Moment α)) : Prop where
  inOrder : ((calls during).map (·.1)).Pairwise (· < ·)
  exact : ∀ id listener, (id, listener) ∈ calls during ↔ IsRegistered past id listener

/-- However its listeners behave, a registry keeps the laws, and each time it notifies just those
who were registered when it began are called. -/
theorem registry_keeps_laws (conduct : Conduct α) (operations latter : List (Operation α)) :
    KeepsLaws (run conduct operations).past ∧
      (givenIds (run conduct operations).past).Nodup ∧
      (∀ id ∈ givenIds (run conduct operations).past,
        id < (givenIds (run conduct operations).past).length) ∧
      ∃ during after,
        (run conduct (operations ++ [.notify])).past = (run conduct operations).past ++ during ∧
        Notifies (run conduct operations).past during ∧
        (run conduct (operations ++ .notify :: latter)).past =
          (run conduct (operations ++ [.notify])).past ++ after := by
  have hfaithful := Chronicle.faithful_run conduct operations
  have hnumbered := hfaithful.laws.numbered
  refine ⟨hfaithful.laws, ?_, ?_, ?_⟩
  · rw [hnumbered]
    exact List.nodup_range
  · intro id hid
    rw [hnumbered] at hid
    exact List.mem_range.mp hid
  · obtain ⟨during, hduring, hcalls⟩ := (run conduct operations).goesOn_notify conduct
    obtain ⟨_, after, hafter, -⟩ :=
      Chronicle.exists_goesOn conduct latter ((run conduct operations).perform conduct .notify)
    refine ⟨during, after, ?_, ⟨?_, ?_⟩, ?_⟩
    · rw [run, List.foldl_append]
      exact hduring
    · rw [hcalls]
      exact hfaithful.ordered
    · rw [hcalls]
      exact hfaithful.listed
    · rw [run, run, List.foldl_append, List.foldl_append]
      exact hafter

/-- The first listener leaves and brings another one along, which is called from the next time
on. -/
example :
    let conduct : Conduct String := fun past =>
      match (past.getLast?.bind (·.happening.call?)) with
      | some (id, "fickle") => [.remove id, .add "late"]
      | _ => []
    calls (run conduct [.change (.add "fickle"), .change (.add "steady"), .notify, .notify]).past =
      [(0, "fickle"), (1, "steady"), (1, "steady"), (2, "late")] := by
  decide

end NodeLink.Session.Registry
