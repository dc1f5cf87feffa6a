import NodeLink.Proofs.Store.Directory
import NodeLink.Proofs.Store.Profiles
/-!
# A new file takes the place of the old one

A file store writes a value to a file of a spare name first, in the directory of its keys, and
then gives that file the name of the key.  In the end the tree is as if the value had been
written to the file of the key at once.  Whoever reads the key in between finds what was there
before, however much of the value the new file has by then.
-/

namespace NodeLink

namespace FileNode

/-! ## Names of files -/

/-- Gives a file another name.  A file that had the name is gone then; a directory keeps it. -/
def rename (root : FileNode) (path target : String) : Except FileFault FileNode := do
  match ← root.stat path with
  | .directory _ => throw .isDirectory
  | .file bytes =>
    let source ← root.locate path
    let place ← root.locate target
    match root.find? place with
    | some (.directory _) => throw .isDirectory
    | _ =>
      if Path.namesDirectory target then throw .notDirectory
      else if place = source then return root
      else return (root.alter (fun _ => none) source).alter (fun _ => some (.file bytes)) place

theorem alterEntry_undone {name : String} {first second : Option FileNode → Option FileNode}
    {entries : List (String × FileNode)} {node : FileNode}
    (hfirst : first (child? entries name) = some node)
    (hsecond : second (some node) = child? entries name) :
    alterEntry name second (alterEntry name first entries) = entries := by
  induction entries with
  | nil =>
      have hnew : first none = some node := hfirst
      have hgone : second (some node) = none := hsecond
      simp [alterEntry, hnew, hgone]
  | cons entry entries ih =>
      by_cases hname : entry.1 = name
      · obtain ⟨same, old⟩ := entry
        simp only at hname
        subst hname
        rw [child?_cons_same] at hfirst hsecond
        simp [alterEntry, hfirst, hsecond]
      · rw [child?_cons_other hname] at hfirst hsecond
        rw [alterEntry, if_neg hname, alterEntry, if_neg hname, ih hfirst hsecond]

/-- What was put at a place is taken away again by putting back what was there. -/
theorem alter_undone {root node : FileNode} {place : List String}
    {second : Option FileNode → Option FileNode} (hplace : place ≠ [])
    (habove : root.HasDirectory place.dropLast) (hsecond : second (some node) = root.find? place) :
    (root.alter (fun _ => some node) place).alter second place = root := by
  induction place generalizing root with
  | nil => exact absurd rfl hplace
  | cons name rest ih =>
      cases rest with
      | nil =>
          obtain ⟨entries, rfl⟩ := HasDirectory.nil habove
          have hfind : (FileNode.directory entries).find? [name] = child? entries name := by
            rw [find?_cons]
            cases child? entries name <;> simp [find?]
          rw [alter, alter, alterEntry_undone rfl (hsecond.trans hfind)]
      | cons next rest =>
          rw [List.dropLast_cons_cons] at habove
          obtain ⟨entries, child, rfl, hchild, hrest⟩ := habove.cons
          rw [find?_cons, hchild, Option.bind_some] at hsecond
          have hback := ih (by simp) hrest hsecond
          rw [alter_cons _ (by simp), alter_cons _ (by simp), alterEntry_undone]
          · rw [hchild, Option.map_some]
          · rw [hchild, Option.map_some, hback]

end FileNode

namespace Store

/-- A name in a directory that nothing has, and that is not the name of a key's file. -/
structure SpareName (tree : FileNode) (directory key name : String) : Prop where
  plain : FileNode.PlainName name
  other : name ≠ key ++ ".json"
  unused : tree.stat (Path.join directory name) = .error .notFound

/-- Writes a value to a file of a spare name, which then takes the place of the key's file.  If
it cannot, it is removed. -/
def replace (tree : FileNode) (directory key spare : String) (value : List UInt8) :
    FileNode × Except FileFault Unit :=
  match tree.makeDirectories directory with
  | (made, .error fault) => (made, .error fault)
  | (made, .ok ()) =>
    match made.write (Path.join directory spare) value with
    | .error fault => (made, .error fault)
    | .ok staged =>
      match staged.rename (Path.join directory spare) (fileOf directory key) with
      | .ok later => (later, .ok ())
      | .error fault =>
        ((staged.remove (Path.join directory spare)).toOption.getD staged, .error fault)

/-! ## While the spare file is there -/

/-- A tree in which a spare file was written to a directory that stands at a place. -/
structure Stages (made : FileNode) (directory spare : String) (bytes : List UInt8)
    (place : List String) (staged : FileNode) : Prop where
  written : made.write (Path.join directory spare) bytes = .ok staged
  base : staged.locate directory = .ok place
  stays : staged.HasDirectory place
  held : staged.find? (place ++ [spare]) = some (.file bytes)
  others : ∀ other ≠ spare, staged.find? (place ++ [other]) = made.find? (place ++ [other])
  undone : staged.alter (fun _ => none) (place ++ [spare]) = made

section

variable {tree made staged : FileNode} {directory key spare : String} {bytes value : List UInt8}
  {place : List String}

theorem SpareName.find? (hspare : SpareName made directory key spare)
    (hbase : made.locate directory = .ok place) (hplace : made.HasDirectory place) :
    made.find? (place ++ [spare]) = none := by
  have hunused := hspare.unused
  rw [FileNode.stat, FileNode.locate_join hspare.plain hbase hplace] at hunused
  cases hfind : made.find? (place ++ [spare]) with
  | none => rfl
  | some node =>
      cases node <;>
        simp [hfind, FileNode.namesDirectory_join hspare.plain, bind, Except.bind, pure,
          Except.pure] at hunused

theorem SpareName.stages (hspare : SpareName made directory key spare)
    (hbase : made.locate directory = .ok place) (hplace : made.HasDirectory place)
    (bytes : List UInt8) : ∃ staged, Stages made directory spare bytes place staged := by
  have hnone := hspare.find? hbase hplace
  have hfree := FileNode.not_hasDirectory_of_none hnone
  have habove : made.HasDirectory (place ++ [spare]).dropLast := by
    rwa [List.dropLast_concat]
  have hkeep (other : List String) (hother : made.HasDirectory other) :
      (made.alter (fun _ => some (.file bytes)) (place ++ [spare])).HasDirectory other :=
    hother.alter hfree _
  refine ⟨made.alter (fun _ => some (.file bytes)) (place ++ [spare]),
    { written := ?_, base := FileNode.locate_of_directories hkeep hbase
      stays := hkeep place hplace
      held := FileNode.find?_alter (by simp) habove _
      others := ?_
      undone := FileNode.alter_undone (by simp) habove hnone.symm }⟩
  · exact FileNode.write_eq_ok_iff.mpr ⟨_, FileNode.locate_join hspare.plain hbase hplace, hfree,
      FileNode.namesDirectory_join hspare.plain, rfl⟩
  · intro other hother
    obtain ⟨entries, hfind⟩ := hplace
    rw [FileNode.find?_append, FileNode.find?_append, FileNode.find?_alter_inside hfind, hfind,
      Option.bind_some, Option.bind_some, FileNode.find?_cons, FileNode.find?_cons,
      FileNode.child?_alterEntry_other hother]

theorem Stages.remove (hstages : Stages made directory spare bytes place staged)
    (hplain : FileNode.PlainName spare) :
    staged.remove (Path.join directory spare) = .ok made := by
  have hlocate := FileNode.locate_join hplain hstages.base hstages.stays
  simp [FileNode.remove, FileNode.stat, hlocate, hstages.held, hstages.undone,
    FileNode.namesDirectory_join hplain, bind, Except.bind, pure, Except.pure]

/-- A file takes the place of another one as if it had been written there. -/
theorem Stages.rename (hstages : Stages made directory spare bytes place staged)
    (hbase : made.locate directory = .ok place) (hplace : made.HasDirectory place)
    (hname : FileNode.PlainName (key ++ ".json")) (hspare : SpareName made directory key spare) :
    staged.rename (Path.join directory spare) (fileOf directory key) =
      made.write (fileOf directory key) bytes := by
  have hsource := FileNode.locate_join hspare.plain hstages.base hstages.stays
  have htarget := FileNode.locate_join hname hstages.base hstages.stays
  have hbefore := FileNode.locate_join hname hbase hplace
  have hsame := hstages.others _ hspare.other.symm
  have hdistinct : place ++ [key ++ ".json"] ≠ place ++ [spare] := by
    simpa using hspare.other.symm
  simp only [FileNode.rename, FileNode.stat, FileNode.write, fileOf, hsource, htarget, hbefore,
    hstages.held, hsame, hstages.undone, FileNode.namesDirectory_join hspare.plain,
    FileNode.namesDirectory_join hname, bind, Except.bind, pure, Except.pure, if_neg hdistinct]
  cases made.find? (place ++ [key ++ ".json"]) with
  | none => simp
  | some node => cases node <;> simp

/-- As long as the spare file is there, the key reads as it did before. -/
theorem Stages.get (hstages : Stages made directory spare bytes place staged)
    (hbase : made.locate directory = .ok place) (hplace : made.HasDirectory place)
    (hname : FileNode.PlainName (key ++ ".json")) (hother : key ++ ".json" ≠ spare) :
    (Store.files directory staged).get key = (Store.files directory made).get key := by
  have hlocate := FileNode.locate_join hname hstages.base hstages.stays
  have hbefore := FileNode.locate_join hname hbase hplace
  simp only [Store.get, FileNode.read, FileNode.stat, fileOf, hlocate, hbefore,
    hstages.others _ hother, bind, Except.bind]

end

/-! ## Replacing is putting -/

section

variable {tree made : FileNode} {directory key spare : String}

theorem exists_place (hroot : tree.HasDirectory [])
    (hmake : tree.makeDirectories directory = (made, .ok ())) :
    ∃ place, made.locate directory = .ok place ∧ made.HasDirectory place := by
  have hmade : (tree.makeDirectories directory).2 = .ok () := by rw [hmake]
  have hplace := FileNode.locate_makeDirectories hroot hmade
  rwa [hmake] at hplace

/-- Once the directory is made, nothing but writing to the file of the key can fail. -/
theorem replace_of_made (hroot : tree.HasDirectory [])
    (hname : FileNode.PlainName (key ++ ".json"))
    (hmake : tree.makeDirectories directory = (made, .ok ()))
    (hspare : SpareName made directory key spare) (value : List UInt8) :
    replace tree directory key spare value =
      match made.write (fileOf directory key) value with
      | .ok later => (later, .ok ())
      | .error fault => (made, .error fault) := by
  obtain ⟨place, hbase, hplace⟩ := exists_place hroot hmake
  obtain ⟨staged, hstages⟩ := hspare.stages hbase hplace value
  simp only [replace, hmake, hstages.written, hstages.rename hbase hplace hname hspare,
    hstages.remove hspare.plain]
  cases made.write (fileOf directory key) value <;> rfl

/-- To replace the file of a key by a new one comes to the same as to put the value there. -/
theorem put_eq_replace (hroot : tree.HasDirectory [])
    (hname : FileNode.PlainName (key ++ ".json"))
    (hspare : ∀ made, tree.makeDirectories directory = (made, .ok ()) →
      SpareName made directory key spare) (value : List UInt8) :
    (Store.files directory tree).put key value =
      (.files directory (replace tree directory key spare value).1,
        (replace tree directory key spare value).2) := by
  cases hmake : tree.makeDirectories directory with
  | mk made result =>
      cases result with
      | error fault => simp only [Store.put, replace, hmake]
      | ok _ =>
          rw [replace_of_made hroot hname hmake (hspare made hmake)]
          simp only [Store.put, hmake]
          cases made.write (fileOf directory key) value <;> rfl

/-- Once its directory is made, a store that is read while a file is replaced gives the former
value, however much of the new one is written.  After that it gives the new one; or, if the file
of the key cannot be replaced, nothing is left of the attempt. -/
theorem readers_see_old_or_new (hroot : tree.HasDirectory [])
    (hname : FileNode.PlainName (key ++ ".json"))
    (hmake : tree.makeDirectories directory = (made, .ok ()))
    (hspare : SpareName made directory key spare) (value : List UInt8) :
    let later := replace tree directory key spare value
    (∀ bytes, ∃ staged, made.write (Path.join directory spare) bytes = .ok staged ∧
        (Store.files directory staged).get key = (Store.files directory made).get key) ∧
      (later.2 = .ok () → (Store.files directory later.1).get key = .ok (some value)) ∧
      ∀ fault, later.2 = .error fault → later.1 = made := by
  intro later
  refine ⟨?_, ?_, ?_⟩
  · intro bytes
    obtain ⟨place, hbase, hplace⟩ := exists_place hroot hmake
    obtain ⟨staged, hstages⟩ := hspare.stages hbase hplace bytes
    exact ⟨staged, hstages.written, hstages.get hbase hplace hname hspare.other.symm⟩
  · intro hdone
    have hput : (Store.files directory tree).put key value = (.files directory later.1, later.2) := by
      apply put_eq_replace hroot hname
      intro other hother
      rw [hmake] at hother
      cases hother
      exact hspare
    have hrooted : (Store.files directory tree).Rooted := hroot
    have hsaved : ((Store.files directory tree).put key value).2 = .ok () := by rw [hput, hdone]
    obtain ⟨-, hget⟩ := get_of_put hrooted hsaved
    rwa [hput] at hget
  · intro fault hfault
    have hlater : later = _ := replace_of_made hroot hname hmake hspare value
    rw [hlater] at hfault ⊢
    cases hwrite : made.write (fileOf directory key) value with
    | error fault => rfl
    | ok written => simp [hwrite] at hfault

/-- A directory that is empty has a name to spare. -/
example : SpareName (.directory [("profiles", .empty)]) "profiles" profileKey ".tmp" where
  plain := ⟨by decide, by decide, by decide, by decide, by decide, by decide⟩
  other := by decide
  unused := rfl

end

end Store

end NodeLink
