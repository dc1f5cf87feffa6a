import NodeLink.Proofs.Store.FileTree
/-!
# A directory of its own

Making directories leaves every file as it is.  A directory that nobody else
writes to, once it is made, holds what was last put under the one name that is
used in it, and the path of that name leads there from then on.
-/

namespace NodeLink.FileNode

/-! ## Files that stay -/

/-- The same files with the same bytes stand at the same places. -/
def SameFiles (root later : FileNode) : Prop :=
  ∀ place bytes, later.find? place = some (.file bytes) ↔ root.find? place = some (.file bytes)

theorem SameFiles.refl (root : FileNode) : root.SameFiles root := fun _ _ => Iff.rfl

theorem SameFiles.trans {root later latest : FileNode} (hfirst : root.SameFiles later)
    (hsecond : later.SameFiles latest) : root.SameFiles latest := fun place bytes =>
  (hsecond place bytes).trans (hfirst place bytes)

theorem alterEntry_of_absent {name : String} {change : Option FileNode → Option FileNode}
    {entries : List (String × FileNode)} (habsent : child? entries name = none)
    (hchange : change none = none) : alterEntry name change entries = entries := by
  induction entries with
  | nil => simp [alterEntry, hchange]
  | cons entry entries ih =>
      have hname : entry.1 ≠ name := by
        rintro rfl
        rw [child?_cons_same] at habsent
        cases habsent
      rw [child?_cons_other hname] at habsent
      rw [alterEntry, if_neg hname, ih habsent]

/-- A directory that is new leaves all files as they are. -/
theorem sameFiles_alter {root : FileNode} {place : List String}
    (hnone : root.find? place = none) :
    root.SameFiles (root.alter (fun _ => some empty) place) := by
  intro other bytes
  induction place generalizing root other with
  | nil => cases hnone
  | cons name rest ih =>
      cases root with
      | file old =>
          cases rest with
          | nil => rw [alter]; simp
          | cons next rest => rw [alter]; simp
      | directory entries =>
          obtain ⟨changed, hchanged⟩ :=
            alter_directory (fun _ => some empty) (name :: rest) entries
          cases other with
          | nil => rw [hchanged, find?, find?]; simp
          | cons first others =>
              rw [find?_cons] at hnone
              cases rest with
              | nil =>
                  have habsent : child? entries name = none := by
                    simpa [find?, Option.bind_eq_none_iff, Option.eq_none_iff_forall_ne_some]
                      using hnone
                  rw [alter, find?_cons, find?_cons]
                  by_cases hname : first = name
                  · subst hname
                    have hnew : child? (alterEntry first (fun _ => some empty) entries) first =
                        some empty := child?_alterEntry rfl
                    rw [hnew, habsent]
                    cases others <;> simp [empty, find?, child?]
                  · rw [child?_alterEntry_other hname]
              | cons next rest =>
                  rw [alter_cons _ (by simp), find?_cons, find?_cons]
                  by_cases hname : first = name
                  · subst hname
                    cases hchild : child? entries first with
                    | none => rw [alterEntry_of_absent hchild rfl, hchild]
                    | some child =>
                        rw [hchild] at hnone
                        have haltered : child? (alterEntry first (fun node? => node?.map
                            (alter (fun _ => some empty) (next :: rest))) entries) first =
                            some (child.alter (fun _ => some empty) (next :: rest)) :=
                          child?_alterEntry (by rw [hchild]; rfl)
                        rw [haltered]
                        exact ih hnone others
                  · rw [child?_alterEntry_other hname]

theorem sameFiles_makeAll (root : FileNode) (done names : List String) :
    root.SameFiles (root.makeAll done names).1 := by
  induction names generalizing root done with
  | nil => exact .refl root
  | cons name rest ih =>
      unfold makeAll
      by_cases hname : name = ".."
      · rw [if_pos hname]
        exact ih root _
      · rw [if_neg hname]
        split
        next => exact .refl root
        next =>
          dsimp only
          split
          next => exact ih root _
          next => exact .refl root
          next hfind => exact (sameFiles_alter hfind).trans (ih _ _)

theorem sameFiles_makeDirectories (root : FileNode) (path : String) :
    root.SameFiles (root.makeDirectories path).1 := by
  unfold makeDirectories
  split_ifs with hnul
  · exact .refl root
  · exact sameFiles_makeAll root [] _

/-! ## The way to a directory -/

theorem find?_append (root : FileNode) (place more : List String) :
    root.find? (place ++ more) = (root.find? place).bind fun node => node.find? more := by
  induction place generalizing root with
  | nil => cases root <;> rfl
  | cons name rest ih =>
      cases root with
      | file bytes => rfl
      | directory entries =>
          rw [List.cons_append, find?_cons, find?_cons]
          cases child? entries name with
          | none => rfl
          | some child => exact ih child

theorem find?_alter_inside {root : FileNode} {place : List String} {name : String}
    {entries : List (String × FileNode)} (hplace : root.find? place = some (.directory entries))
    (change : Option FileNode → Option FileNode) :
    (root.alter change (place ++ [name])).find? place =
      some (.directory (alterEntry name change entries)) := by
  induction place generalizing root with
  | nil =>
      rw [find?] at hplace
      obtain rfl := Option.some.inj hplace
      rw [List.nil_append, alter, find?]
  | cons first rest ih =>
      cases root with
      | file bytes => cases hplace
      | directory outer =>
          rw [find?_cons] at hplace
          cases hchild : child? outer first with
          | none => simp [hchild] at hplace
          | some child =>
              rw [hchild] at hplace
              have haltered : child? (alterEntry first
                  (fun node? => node?.map (alter change (rest ++ [name]))) outer) first =
                  some (child.alter change (rest ++ [name])) := by
                apply child?_alterEntry
                rw [hchild, Option.map_some]
              rw [List.cons_append, alter_cons _ (by simp), find?_cons, haltered]
              exact ih hplace

/-- Where all directories of a path are there, making them does nothing. -/
theorem makeAll_of_leads {root : FileNode} {done names place : List String}
    (hleads : root.Leads done names place) (hplace : root.HasDirectory place) :
    root.makeAll done names = (root, .ok ()) := by
  induction hleads with
  | stay => rfl
  | up _ ih =>
      rw [makeAll, if_pos rfl]
      exact ih hplace
  | last hname hshort =>
      obtain ⟨entries, hfind⟩ := hplace
      rw [makeAll, if_neg hname, hshort]
      simp only [hfind]
      rfl
  | into hname hshort hdirectory _ ih =>
      obtain ⟨entries, hfind⟩ := hdirectory
      rw [makeAll, if_neg hname, hshort]
      simp only [hfind]
      exact ih hplace

/-- As long as the directories of a path still have to be made, nothing stands behind it, and
that is all that is wrong with it. -/
theorem settle_of_makeAll {root : FileNode} {done names : List String} {name : String}
    (hname : name ≠ "..") (hshort : checkName name = .ok ())
    (hmade : (root.makeAll done names).2 = .ok ()) :
    (∃ place, root.settle done (names ++ [name]) = .ok place) ∨
      root.settle done (names ++ [name]) = .error .notFound := by
  induction names generalizing done with
  | nil => exact .inl ⟨_, (Leads.last hname hshort).settle⟩
  | cons first rest ih =>
      unfold makeAll at hmade
      rw [List.cons_append]
      unfold settle
      by_cases hfirst : first = ".."
      · rw [if_pos hfirst] at hmade ⊢
        exact ih hmade
      · rw [if_neg hfirst] at hmade ⊢
        have hmore : rest ++ [name] ≠ [] := by simp
        cases hcheck : checkName first with
        | error fault => simp [hcheck] at hmade
        | ok _ =>
            simp only [hcheck] at hmade
            simp only [bind, Except.bind]
            split
            next hnil => exact absurd hnil hmore
            next hfind _ => exact .inr rfl
            next hfind _ =>
              simp only [hfind] at hmade
              cases hmade
            next hfind _ =>
              simp only [hfind] at hmade
              exact ih hmade

/-! ## A directory with one file -/

def onlyFile (name : String) (held : Option (List UInt8)) : List (String × FileNode) :=
  (held.map fun bytes => (name, FileNode.file bytes)).toList

/-- A directory is there and holds nothing but, where there are bytes, a file of a name. -/
def Houses (root : FileNode) (base name : String) (held : Option (List UInt8)) : Prop :=
  root.HasDirectory [] ∧ ∃ place, root.locate base = .ok place ∧
    root.find? place = some (.directory (onlyFile name held))

section

variable {root : FileNode} {base name : String} {held : Option (List UInt8)}

theorem Houses.makeDirectories (hhouses : root.Houses base name held) :
    root.makeDirectories base = (root, .ok ()) := by
  obtain ⟨-, place, hlocate, hfind⟩ := hhouses
  obtain ⟨hnul, hleads⟩ := locate_eq_ok_iff.mp hlocate
  rw [FileNode.makeDirectories, hnul]
  exact makeAll_of_leads hleads ⟨_, hfind⟩

/-- The path of the file leads to its name in the directory. -/
theorem Houses.locate (hname : PlainName name) (hhouses : root.Houses base name held) :
    ∃ place, root.locate base = .ok place ∧
      root.locate (Path.join base name) = .ok (place ++ [name]) ∧
      root.find? place = some (.directory (onlyFile name held)) ∧
      root.find? (place ++ [name]) = held.map .file := by
  obtain ⟨-, place, hlocate, hfind⟩ := hhouses
  refine ⟨place, hlocate, locate_join hname hlocate ⟨_, hfind⟩, hfind, ?_⟩
  rw [find?_append, hfind, Option.bind_some, find?_cons]
  cases held <;> simp [onlyFile, child?, find?]

theorem Houses.stat (hname : PlainName name) (hhouses : root.Houses base name held) :
    root.stat (Path.join base name) =
      match held with
      | none => .error .notFound
      | some bytes => .ok (.file bytes) := by
  obtain ⟨place, -, hlocate, -, hfile⟩ := hhouses.locate hname
  unfold FileNode.stat
  rw [hlocate]
  simp only [bind, Except.bind, hfile]
  cases held with
  | none => rfl
  | some bytes => simp [namesDirectory_join hname, pure, Except.pure]

/-- Whatever is done to the file, the directory stays where it is. -/
theorem Houses.alter {later : Option (List UInt8)} (hname : PlainName name)
    (hhouses : root.Houses base name held) {place : List String}
    (hlocate : root.locate (Path.join base name) = .ok place)
    (change : Option FileNode → Option FileNode)
    (hchange : alterEntry name change (onlyFile name held) = onlyFile name later) :
    (root.alter change place).Houses base name later := by
  obtain ⟨outer, houter, hinner, hfind, hfile⟩ := hhouses.locate hname
  obtain rfl := Except.ok.inj (hlocate.symm.trans hinner)
  have hnone : ¬ root.HasDirectory (outer ++ [name]) := by
    rintro ⟨entries, hentries⟩
    rw [hfile] at hentries
    cases held <;> cases hentries
  have hkeep (other : List String) (hother : root.HasDirectory other) :
      (root.alter change (outer ++ [name])).HasDirectory other := hother.alter hnone change
  refine ⟨hkeep [] hhouses.1, outer, locate_of_directories hkeep houter, ?_⟩
  rw [find?_alter_inside hfind change, hchange]

theorem Houses.write (hname : PlainName name) (hhouses : root.Houses base name held)
    (bytes : List UInt8) :
    ∃ later, root.write (Path.join base name) bytes = .ok later ∧
      later.Houses base name (some bytes) := by
  obtain ⟨place, -, hlocate, -, hfile⟩ := hhouses.locate hname
  refine ⟨_, write_eq_ok_iff.mpr ⟨_, hlocate, ?_, namesDirectory_join hname, rfl⟩, ?_⟩
  · rintro ⟨entries, hentries⟩
    rw [hfile] at hentries
    cases held <;> cases hentries
  · apply hhouses.alter hname hlocate
    cases held <;> simp [onlyFile, alterEntry]

theorem Houses.remove (hname : PlainName name) (hhouses : root.Houses base name held) :
    match held with
    | none => root.remove (Path.join base name) = .error .notFound
    | some _ => ∃ later, root.remove (Path.join base name) = .ok later ∧
        later.Houses base name none := by
  have hstat := hhouses.stat hname
  obtain ⟨place, -, hlocate, -, -⟩ := hhouses.locate hname
  cases held with
  | none => simp [FileNode.remove, hstat, bind, Except.bind]
  | some bytes =>
      refine ⟨root.alter (fun _ => none) (place ++ [name]), ?_, ?_⟩
      · simp [FileNode.remove, hstat, hlocate, bind, Except.bind, pure, Except.pure]
      · apply hhouses.alter hname hlocate
        simp [onlyFile, alterEntry]

end

/-! ## A directory that may still have to be made -/

/-- A directory can be made if it is not there, and holds nothing then. -/
def Awaits (root : FileNode) (base name : String) : Prop :=
  root.HasDirectory [] ∧ (root.makeDirectories base).2 = .ok () ∧
    (root.makeDirectories base).1.Houses base name none

section

variable {root : FileNode} {base name : String}

theorem Houses.awaits (hhouses : root.Houses base name none) : root.Awaits base name := by
  have hmade := hhouses.makeDirectories
  refine ⟨hhouses.1, by rw [hmade], ?_⟩
  rw [hmade]
  exact hhouses

/-- Until the directory is made, the file in it is missing, and nothing else is wrong. -/
theorem Awaits.stat (hname : PlainName name) (hawaits : root.Awaits base name) :
    root.stat (Path.join base name) = .error .notFound := by
  obtain ⟨-, hmade, hhouses⟩ := hawaits
  obtain ⟨place, -, hlater, -, hfile⟩ := hhouses.locate hname
  have hnul := (locate_eq_ok_iff.mp hlater).1
  have hmadeAll : (root.makeAll [] (Path.components base)).2 = .ok () := by
    unfold makeDirectories at hmade
    split_ifs at hmade
    exact hmade
  have hsettle := settle_of_makeAll hname.notUp hname.short hmadeAll
  rw [← hname.alone, ← components_join hname.relative] at hsettle
  have hlocate : root.locate (Path.join base name) =
      root.settle [] (Path.components (Path.join base name)) := by
    rw [FileNode.locate, hnul]
    rfl
  rw [← hlocate] at hsettle
  rcases hsettle with ⟨found, hfound⟩ | hmissing
  · have hagain := locate_of_directories (fun _ => HasDirectory.makeDirectories base) hfound
    obtain rfl := Except.ok.inj (hagain.symm.trans hlater)
    have hnone : root.find? (place ++ [name]) = none := by
      cases hnode : root.find? (place ++ [name]) with
      | none => rfl
      | some node =>
          cases node with
          | file bytes =>
              have hkept := (sameFiles_makeDirectories root base _ bytes).mpr hnode
              rw [hfile] at hkept
              cases hkept
          | directory entries =>
              have hdirectory : root.HasDirectory (place ++ [name]) := ⟨entries, hnode⟩
              obtain ⟨more, hkept⟩ := hdirectory.makeDirectories base
              rw [hfile] at hkept
              cases hkept
    simp [FileNode.stat, hfound, hnone, bind, Except.bind, throw_eq_error]
  · simp [FileNode.stat, hmissing, bind, Except.bind]

end

end NodeLink.FileNode
