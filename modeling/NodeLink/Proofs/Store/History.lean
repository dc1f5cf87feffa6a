import NodeLink.Proofs.Store.Directory
import NodeLink.Proofs.Store.Profiles
/-!
# What a store answers is decided by the last write

However often a profile was saved, cleared away or overwritten with bytes of any
kind, and whatever was asked in between, a store in memory and one of files
both answer from the last of these writes alone.
-/

namespace NodeLink.Store

open NodeLink.Text

/-! ## Histories -/

/-- What is done with a store that keeps a profile. -/
inductive Action
  | save (profile : Profile)
  | clear
  | put (bytes : List UInt8)
  | load
  | look

inductive Answer
  | written (result : Except FileFault Unit)
  | loaded (profile? : Option Profile)
  | seen (isSaved : Bool)

def perform (store : Store) : Action → Store × Answer
  | .save profile => ((store.save profile).1, .written (store.save profile).2)
  | .clear => (store.clear.1, .written store.clear.2)
  | .put bytes => ((store.put profileKey bytes).1, .written (store.put profileKey bytes).2)
  | .load => (store, .loaded store.load)
  | .look => (store, .seen store.isSaved)

def after (store : Store) (actions : List Action) : Store :=
  actions.foldl (fun store action => (store.perform action).1) store

/-- The answer to an action at the end of a history. -/
def answer (store : Store) (actions : List Action) (action : Action) : Answer :=
  ((store.after actions).perform action).2

def Action.writes : Action → Bool
  | .load => false
  | .look => false
  | _ => true

def lastWrite? (actions : List Action) : Option Action :=
  actions.reverse.find? Action.writes

/-! ## The bytes that are held -/

/-- The bytes that an action leaves of those before it. -/
def Action.leaves (held : Option (List UInt8)) : Action → Option (List UInt8)
  | .save profile => some (Utf8.encode profile.stored)
  | .clear => none
  | .put bytes => some bytes
  | .load => held
  | .look => held

def heldAfter (actions : List Action) : Option (List UInt8) :=
  actions.foldl Action.leaves none

theorem heldAfter_eq (actions : List Action) :
    heldAfter actions = (lastWrite? actions).bind (Action.leaves none) := by
  induction actions using List.reverseRecOn with
  | nil => rfl
  | append_singleton actions action ih =>
      have hstep : heldAfter (actions ++ [action]) = action.leaves (heldAfter actions) := by
        simp only [heldAfter, List.foldl_append, List.foldl_cons, List.foldl_nil]
      have hlast : lastWrite? (actions ++ [action]) =
          if action.writes then some action else lastWrite? actions := by
        cases hwrites : action.writes <;> simp [lastWrite?, hwrites]
      rw [hstep, hlast]
      cases action with
      | save profile => rfl
      | clear => rfl
      | put bytes => rfl
      | load => exact ih
      | look => exact ih

/-! ## Stores without other writers -/

def profileFile : String := profileKey ++ ".json"

/-- A store into which nothing has been put: it has no entries, or its directory is empty
once it is made. -/
def IsFresh : Store → Prop
  | .memory entries => entries = []
  | .files directory tree =>
    tree.HasDirectory [] ∧ (tree.makeDirectories directory).2 = .ok () ∧
      (tree.makeDirectories directory).1.stat directory = .ok (.directory [])

/-- A store has these bytes under the key of a profile, and nothing else. -/
def Holds : Store → Option (List UInt8) → Prop
  | .memory entries, held => entries = (held.map fun bytes => (profileKey, bytes)).toList
  | .files directory tree, none => tree.Awaits directory profileFile
  | .files directory tree, some bytes => tree.Houses directory profileFile (some bytes)

theorem IsFresh.holds {store : Store} (hfresh : store.IsFresh) : store.Holds none := by
  cases store with
  | memory entries => exact hfresh
  | files directory tree =>
      obtain ⟨hroot, hmade, hstat⟩ := hfresh
      refine ⟨hroot, hmade, hroot.makeDirectories directory, ?_⟩
      cases hlocate : (tree.makeDirectories directory).1.locate directory with
      | error fault => simp [FileNode.stat, hlocate, bind, Except.bind] at hstat
      | ok place =>
          refine ⟨place, rfl, ?_⟩
          obtain ⟨entries, hfind⟩ :=
            (FileNode.stat_eq_directory_iff hlocate).mp ⟨[], hstat⟩
          simp only [FileNode.stat, hlocate, hfind, bind, Except.bind, pure, Except.pure] at hstat
          cases hstat
          exact hfind

section

variable {store : Store} {held : Option (List UInt8)}

theorem Holds.get (hholds : store.Holds held) : store.get profileKey = .ok held := by
  cases store with
  | memory entries =>
      obtain rfl : entries = _ := hholds
      cases held <;> simp [Store.get]
  | files directory tree =>
      cases held with
      | none =>
          have hstat := FileNode.Awaits.stat plainName_profileKey hholds
          simp only [Store.get, FileNode.read, fileOf, hstat]
          rfl
      | some bytes =>
          have hstat := FileNode.Houses.stat plainName_profileKey hholds
          simp only [Store.get, FileNode.read, fileOf, hstat]
          rfl

theorem Holds.contains (hholds : store.Holds held) : store.contains profileKey = held.isSome := by
  cases store with
  | memory entries =>
      obtain rfl : entries = _ := hholds
      cases held <;> simp [Store.contains]
  | files directory tree =>
      cases held with
      | none =>
          have hstat := FileNode.Awaits.stat plainName_profileKey hholds
          simp only [Store.contains, FileNode.isFile, fileOf, hstat]
          rfl
      | some bytes =>
          have hstat := FileNode.Houses.stat plainName_profileKey hholds
          simp only [Store.contains, FileNode.isFile, fileOf, hstat]
          rfl

theorem Holds.put (hholds : store.Holds held) (bytes : List UInt8) :
    (store.put profileKey bytes).2 = .ok () ∧
      (store.put profileKey bytes).1.Holds (some bytes) := by
  cases store with
  | memory entries =>
      obtain rfl : entries = _ := hholds
      refine ⟨rfl, ?_⟩
      cases held <;> simp [Store.put, Holds, putEntry]
  | files directory tree =>
      have hmade : ∃ made, tree.makeDirectories directory = (made, .ok ()) ∧
          ∃ former, made.Houses directory profileFile former := by
        cases held with
        | none => exact ⟨_, Prod.ext rfl hholds.2.1, none, hholds.2.2⟩
        | some former => exact ⟨tree, FileNode.Houses.makeDirectories hholds, _, hholds⟩
      obtain ⟨made, hmake, former, hhouses⟩ := hmade
      obtain ⟨later, hwrite, hlater⟩ := hhouses.write plainName_profileKey bytes
      simp only [Store.put, hmake, fileOf] at hwrite ⊢
      rw [hwrite]
      exact ⟨rfl, hlater⟩

/-- Clearing succeeds, and does nothing where there is nothing to clear. -/
theorem Holds.remove (hholds : store.Holds held) :
    (store.remove profileKey).2 = .ok () ∧ (store.remove profileKey).1.Holds none ∧
      (held = none → (store.remove profileKey).1 = store) := by
  cases store with
  | memory entries =>
      obtain rfl : entries = _ := hholds
      cases held <;> simp [Store.remove, Holds]
  | files directory tree =>
      cases held with
      | none =>
          have hremove : tree.remove (fileOf directory profileKey) = .error .notFound := by
            simp [FileNode.remove, fileOf, FileNode.Awaits.stat plainName_profileKey hholds,
              bind, Except.bind]
          rw [Store.remove, hremove]
          exact ⟨rfl, hholds, fun _ => rfl⟩
      | some bytes =>
          obtain ⟨later, hremove, hlater⟩ := FileNode.Houses.remove plainName_profileKey hholds
          simp only [Store.remove, fileOf] at hremove ⊢
          rw [hremove]
          exact ⟨rfl, hlater.awaits, fun hnone => by cases hnone⟩

theorem Holds.perform (hholds : store.Holds held) (action : Action) :
    (store.perform action).1.Holds (action.leaves held) := by
  cases action with
  | save profile => exact (hholds.put _).2
  | clear => exact hholds.remove.2.1
  | put bytes => exact (hholds.put bytes).2
  | load => exact hholds
  | look => exact hholds

theorem Holds.after (hholds : store.Holds held) (actions : List Action) :
    (store.after actions).Holds (actions.foldl Action.leaves held) := by
  induction actions generalizing store held with
  | nil => exact hholds
  | cons action actions ih => exact ih (hholds.perform action)

/-- Every write to a store that holds something succeeds. -/
theorem Holds.written (hholds : store.Holds held) {action : Action}
    (hwrites : action.writes = true) : (store.perform action).2 = .written (.ok ()) := by
  cases action with
  | save profile => exact congrArg Answer.written (hholds.put _).1
  | clear => exact congrArg Answer.written hholds.remove.1
  | put bytes => exact congrArg Answer.written (hholds.put bytes).1
  | load => cases hwrites
  | look => cases hwrites

theorem Holds.load (hholds : store.Holds held) : store.load = held.bind profileOf? := by
  rw [Store.load, hholds.get]
  cases held <;> rfl

end

theorem profileOf?_eq_some_iff {bytes : List UInt8} {profile : Profile} :
    profileOf? bytes = some profile ↔
      Profile.ofStoredBytes? bytes = some profile ∧ profile.flaw? = none := by
  rw [profileOf?, Option.filter_eq_some_iff, Option.isNone_iff_eq_none]

/-! ## The last write -/

/-- After any history of a fresh store, all that it answers follows from the last write.  A
profile that was saved is there and loads if it is one that can be used, bytes that were put
load as the usable profile that they are, and after clearing there is nothing.  Every write
succeeds, looking and loading change nothing, and nor does clearing twice. -/
theorem last_write_decides {store : Store} (hfresh : store.IsFresh) (actions : List Action) :
    (∀ action, action.writes = true → store.answer actions action = .written (.ok ())) ∧
      (store.answer actions .look = .seen true ↔
        ∃ action, lastWrite? actions = some action ∧ action ≠ .clear) ∧
      (∃ loaded, store.answer actions .load = .loaded loaded ∧
        (lastWrite? actions = none → loaded = none) ∧
        (lastWrite? actions = some .clear → loaded = none) ∧
        (∀ profile, lastWrite? actions = some (.save profile) →
          loaded = if profile.flaw? = none then some profile else none) ∧
        (∀ bytes, lastWrite? actions = some (.put bytes) → ∀ profile,
          loaded = some profile ↔
            Profile.ofStoredBytes? bytes = some profile ∧ profile.flaw? = none)) ∧
      store.after (actions ++ [.load]) = store.after actions ∧
      store.after (actions ++ [.look]) = store.after actions ∧
      store.after (actions ++ [.clear, .clear]) = store.after (actions ++ [.clear]) := by
  have hholds : (store.after actions).Holds (heldAfter actions) := hfresh.holds.after actions
  have hheld := heldAfter_eq actions
  have hafter (more : List Action) :
      store.after (actions ++ more) = (store.after actions).after more := by
    rw [after, List.foldl_append, ← after, ← after]
  refine ⟨fun action => hholds.written, ?_, ⟨_, rfl, ?_, ?_, ?_, ?_⟩, ?_, ?_, ?_⟩
  · have hseen : store.answer actions .look = .seen (heldAfter actions).isSome :=
      congrArg Answer.seen hholds.contains
    rw [hseen, hheld, Answer.seen.injEq]
    cases hlast : lastWrite? actions with
    | none => simp
    | some action =>
        have hwrites := List.find?_some hlast
        cases action <;> simp_all [Action.leaves, Action.writes]
  · intro hlast
    rw [hholds.load, hheld, hlast]
    rfl
  · intro hlast
    rw [hholds.load, hheld, hlast]
    rfl
  · intro profile hlast
    rw [hholds.load, hheld, hlast]
    exact profileOf?_encode profile
  · intro bytes hlast profile
    rw [hholds.load, hheld, hlast]
    exact profileOf?_eq_some_iff
  · exact hafter [.load]
  · exact hafter [.look]
  · rw [hafter, hafter]
    exact (hholds.perform .clear).remove.2.2 rfl

/-- Bytes that are no profile are there and yet load as nothing, until a profile takes their
place. -/
theorem stray_bytes_hide_a_profile :
    let store := Store.files "profiles" .empty
    let actions := [.save Profile.Sample.full, .load, .put [0x7B]]
    store.IsFresh ∧ store.answer actions .look = .seen true ∧
      store.answer actions .load = .loaded none ∧
      store.answer (actions ++ [.clear, .save Profile.Sample.full]) .load =
        .loaded (some Profile.Sample.full) := by
  intro store actions
  have hfresh : store.IsFresh := ⟨⟨[], rfl⟩, rfl, rfl⟩
  obtain ⟨-, hlook, ⟨loaded, hload, -, -, -, hput⟩, -⟩ := last_write_decides hfresh actions
  obtain ⟨-, -, ⟨again, hagain, -, -, hsave, -⟩, -⟩ :=
    last_write_decides hfresh (actions ++ [.clear, .save Profile.Sample.full])
  have hnone : loaded = none := by
    rw [Option.eq_none_iff_forall_ne_some]
    intro profile hsome
    have hstray : Profile.ofStoredBytes? [0x7B] = none := by rfl
    rw [hput [0x7B] rfl profile, hstray] at hsome
    cases hsome.1
  have hfull : again = some Profile.Sample.full := by
    rw [hsave Profile.Sample.full rfl]
    rfl
  exact ⟨hfresh, hlook.mpr ⟨_, rfl, by simp⟩, hnone ▸ hload, hfull ▸ hagain⟩

end NodeLink.Store
