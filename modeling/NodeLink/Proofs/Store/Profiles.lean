import NodeLink.Profile.Samples
import NodeLink.Store.Profiles
import NodeLink.Proofs.Profile.Stored
import NodeLink.Proofs.Store.FileTree
/-!
# A saved profile comes back

A store gives back the bytes that it took last under a key.  The bytes of a
profile read as that profile, so loading after saving finds the profile again,
unless it is one that cannot be used.
-/

namespace NodeLink.Store

open NodeLink.Text

/-- A store that is in order: the files of one stand in a directory. -/
def Rooted : Store → Prop
  | .memory _ => True
  | .files _ tree => tree.HasDirectory []

theorem find?_putEntry (key : String) (value : List UInt8) (entries : List (String × List UInt8)) :
    (putEntry key value entries).find? (·.1 = key) = some (key, value) := by
  induction entries with
  | nil => simp [putEntry]
  | cons entry entries ih =>
      unfold putEntry
      by_cases hkey : entry.1 = key
      · simp [hkey]
      · rw [if_neg hkey, List.find?_cons_of_neg (by simpa using hkey)]
        exact ih

/-- A store has room for a key: the directory of a file store can be made, and no directory
has the name of the file. -/
def HasRoom (store : Store) (key : String) : Prop :=
  match store with
  | .memory _ => True
  | .files directory tree =>
    (tree.makeDirectories directory).2 = .ok () ∧
      ¬ ∃ entries,
        (tree.makeDirectories directory).1.stat (fileOf directory key) = .ok (.directory entries)

/-- What is put into a store depends on its room alone, whatever the value. -/
theorem put_eq_ok_iff {store : Store} {key : String} (value : List UInt8)
    (hname : FileNode.PlainName (key ++ ".json")) (hstore : store.Rooted) :
    (store.put key value).2 = .ok () ↔ store.HasRoom key := by
  cases store with
  | memory entries => exact iff_of_true rfl trivial
  | files directory tree =>
      have hwrite := FileNode.exists_write_iff directory value hname hstore
      simp only [put, HasRoom, fileOf] at hwrite ⊢
      cases hmake : tree.makeDirectories directory with
      | mk made result =>
          rw [hmake] at hwrite
          cases result with
          | error fault => simp
          | ok _ =>
              rw [← hwrite rfl]
              cases hresult : made.write (Path.join directory (key ++ ".json")) value with
              | error fault => simp [hresult]
              | ok written => simp [hresult]

theorem get_of_put {store : Store} {key : String} {value : List UInt8} (hstore : store.Rooted)
    (hput : (store.put key value).2 = .ok ()) :
    (store.put key value).1.Rooted ∧ (store.put key value).1.get key = .ok (some value) := by
  cases store with
  | memory entries =>
      constructor
      · trivial
      · simp only [put, get, find?_putEntry, Option.map_some]
  | files directory tree =>
      have hmade := FileNode.HasDirectory.makeDirectories directory hstore
      simp only [put] at hput ⊢
      cases hmake : tree.makeDirectories directory with
      | mk made result =>
          rw [hmake] at hmade
          cases result with
          | error fault => simp [hmake] at hput
          | ok _ =>
              simp only [hmake] at hput ⊢
              cases hwrite : made.write (fileOf directory key) value with
              | error fault => simp [hwrite] at hput
              | ok written =>
                  obtain ⟨hroot, hread⟩ := FileNode.read_of_write hmade hwrite
                  constructor
                  · exact hroot
                  · simp only [get, hread]

/-- The bytes of a profile are as good as the profile. -/
theorem profileOf?_encode (profile : Profile) :
    profileOf? (Utf8.encode profile.stored) =
      if profile.flaw? = none then some profile else none := by
  rw [profileOf?, Profile.ofStoredBytes?_encode, Option.filter_some]
  simp only [Option.isNone_iff_eq_none]

theorem plainName_profileKey : FileNode.PlainName (profileKey ++ ".json") where
  relative := by decide
  alone := by decide
  notUp := by decide
  short := by decide
  noNul := by decide
  notDirectory := by decide

/-- The text and the bytes that are stored of a profile read as that profile.  On either kind of
store saving it succeeds exactly where there is room, and loading after that gives it back,
unless it is one that cannot be used. -/
theorem saved_profile_comes_back (profile : Profile) :
    Profile.ofStored? profile.stored = some profile ∧
      Profile.ofStoredBytes? (Utf8.encode profile.stored) = some profile ∧
      profileOf? (Utf8.encode profile.stored) =
        (if profile.flaw? = none then some profile else none) ∧
      ∀ store : Store, store.Rooted →
        ((store.save profile).2 = .ok () ↔ store.HasRoom profileKey) ∧
        ((store.save profile).2 = .ok () → (store.save profile).1.Rooted ∧
          (store.save profile).1.load = if profile.flaw? = none then some profile else none) := by
  refine ⟨profile.ofStored?_stored, profile.ofStoredBytes?_encode, profileOf?_encode profile, ?_⟩
  intro store hstore
  constructor
  · exact put_eq_ok_iff _ plainName_profileKey hstore
  · intro hsave
    obtain ⟨hlater, hget⟩ := get_of_put hstore hsave
    constructor
    · exact hlater
    · rw [load, save, hget]
      exact profileOf?_encode profile

theorem full_profile_comes_back :
    let store := Store.files "profiles" .empty
    store.HasRoom profileKey ∧
      (store.save Profile.Sample.full).1.load = some Profile.Sample.full := by
  intro store
  have hstore : store.Rooted := ⟨[], rfl⟩
  obtain ⟨-, -, -, hcomesBack⟩ := saved_profile_comes_back Profile.Sample.full
  obtain ⟨hroom, hloads⟩ := hcomesBack store hstore
  have hsaved : (store.save Profile.Sample.full).2 = .ok () := by rfl
  exact ⟨hroom.mp hsaved, (hloads hsaved).2⟩

end NodeLink.Store
