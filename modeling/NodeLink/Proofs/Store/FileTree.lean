import Mathlib.Tactic.SplitIfs
import NodeLink.FileTree
/-!
# What was written to a file is read from it

Putting a file into a tree changes what stands at one place and leaves every
directory a directory, so that the path of the file still leads to that place.
-/

namespace NodeLink.FileNode

/-- A directory stands at a place below a node. -/
def HasDirectory (root : FileNode) (place : List String) : Prop :=
  ∃ entries, root.find? place = some (.directory entries)

/-! ## Entries of one directory -/

theorem child?_cons_same (name : String) (node : FileNode) (entries : List (String × FileNode)) :
    child? ((name, node) :: entries) name = some node := by
  simp [child?]

theorem child?_cons_other {entry : String × FileNode} {name : String} (hother : entry.1 ≠ name)
    (entries : List (String × FileNode)) :
    child? (entry :: entries) name = child? entries name := by
  simp [child?, hother]

theorem child?_alterEntry {name : String} {change : Option FileNode → Option FileNode}
    {entries : List (String × FileNode)} {node : FileNode}
    (hchange : change (child? entries name) = some node) :
    child? (alterEntry name change entries) name = some node := by
  induction entries with
  | nil =>
      have hnone : change none = some node := hchange
      simp [alterEntry, hnone, child?]
  | cons entry entries ih =>
      unfold alterEntry
      by_cases hname : entry.1 = name
      · obtain ⟨other, old⟩ := entry
        simp only at hname
        subst hname
        rw [child?_cons_same] at hchange
        simp [hchange, child?_cons_same]
      · rw [child?_cons_other hname] at hchange
        rw [if_neg hname, child?_cons_other hname]
        exact ih hchange

theorem child?_alterEntry_other {name other : String} (hother : other ≠ name)
    (change : Option FileNode → Option FileNode) (entries : List (String × FileNode)) :
    child? (alterEntry name change entries) other = child? entries other := by
  induction entries with
  | nil =>
      cases hnode : change none with
      | none => simp [alterEntry, hnode]
      | some node => simp [alterEntry, hnode, child?, hother.symm]
  | cons entry entries ih =>
      unfold alterEntry
      by_cases hname : entry.1 = name
      · have hentry : entry.1 ≠ other := fun heq => hother (heq.symm.trans hname)
        rw [if_pos hname, child?_cons_other hentry]
        cases hnode : change (some entry.2) with
        | none => simp
        | some node =>
            have hnew : (name, node).1 ≠ other := hother.symm
            simp [child?_cons_other hnew]
      · rw [if_neg hname]
        by_cases hentry : entry.1 = other
        · obtain ⟨same, node⟩ := entry
          simp only at hentry
          subst hentry
          rw [child?_cons_same, child?_cons_same]
        · rw [child?_cons_other hentry, child?_cons_other hentry]
          exact ih

/-! ## Places -/

theorem find?_cons (entries : List (String × FileNode)) (name : String) (rest : List String) :
    (FileNode.directory entries).find? (name :: rest) =
      (child? entries name).bind fun node => node.find? rest := by
  rw [find?]

theorem not_hasDirectory_of_none {root : FileNode} {place : List String}
    (hfind : root.find? place = none) : ¬ root.HasDirectory place := by
  rintro ⟨entries, hentries⟩
  rw [hfind] at hentries
  cases hentries

theorem not_hasDirectory_of_file {root : FileNode} {place : List String} {bytes : List UInt8}
    (hfind : root.find? place = some (.file bytes)) : ¬ root.HasDirectory place := by
  rintro ⟨entries, hentries⟩
  rw [hfind] at hentries
  cases hentries

theorem HasDirectory.nil {root : FileNode} (hroot : root.HasDirectory []) :
    ∃ entries, root = .directory entries := by
  obtain ⟨entries, hfind⟩ := hroot
  rw [find?] at hfind
  exact ⟨entries, Option.some.inj hfind⟩

theorem HasDirectory.cons {root : FileNode} {name : String} {rest : List String}
    (hplace : root.HasDirectory (name :: rest)) :
    ∃ entries node, root = .directory entries ∧ child? entries name = some node ∧
      node.HasDirectory rest := by
  obtain ⟨found, hfind⟩ := hplace
  cases root with
  | file bytes => simp [find?] at hfind
  | directory entries =>
      rw [find?_cons] at hfind
      cases hchild : child? entries name with
      | none => simp [hchild] at hfind
      | some node =>
          rw [hchild] at hfind
          exact ⟨entries, node, rfl, hchild, found, hfind⟩

theorem hasDirectory_cons {entries : List (String × FileNode)} {name : String} {node : FileNode}
    (hchild : child? entries name = some node) (rest : List String) :
    (FileNode.directory entries).HasDirectory (name :: rest) ↔ node.HasDirectory rest := by
  simp only [HasDirectory, find?_cons, hchild, Option.bind_some]

/-- Whatever stands in a directory has a directory above it. -/
theorem HasDirectory.dropLast {root : FileNode} {place : List String}
    (hplace : root.HasDirectory place) : root.HasDirectory place.dropLast := by
  induction place generalizing root with
  | nil => exact hplace
  | cons name rest ih =>
      obtain ⟨entries, node, rfl, hchild, hrest⟩ := hplace.cons
      cases rest with
      | nil => exact ⟨entries, by rw [List.dropLast_singleton, find?]⟩
      | cons next rest =>
          rw [List.dropLast_cons_cons, hasDirectory_cons hchild]
          exact ih hrest

/-! ## Altering one place -/

theorem alter_cons (change : Option FileNode → Option FileNode) {name : String}
    {rest : List String} (hrest : rest ≠ []) (entries : List (String × FileNode)) :
    (FileNode.directory entries).alter change (name :: rest) =
      .directory (alterEntry name (fun node? => node?.map (alter change rest)) entries) := by
  cases rest with
  | nil => exact absurd rfl hrest
  | cons next rest =>
      rw [alter]
      simp

theorem alter_directory (change : Option FileNode → Option FileNode) (place : List String)
    (entries : List (String × FileNode)) :
    ∃ changed, (FileNode.directory entries).alter change place = .directory changed := by
  cases place with
  | nil => exact ⟨entries, by rw [alter]⟩
  | cons name rest =>
      cases rest with
      | nil => exact ⟨_, by rw [alter]⟩
      | cons next rest => exact ⟨_, alter_cons change (by simp) entries⟩

theorem find?_alter {root : FileNode} {place : List String} (hplace : place ≠ [])
    (habove : root.HasDirectory place.dropLast) (node : FileNode) :
    (root.alter (fun _ => some node) place).find? place = some node := by
  induction place generalizing root with
  | nil => exact absurd rfl hplace
  | cons name rest ih =>
      cases rest with
      | nil =>
          obtain ⟨entries, rfl⟩ := HasDirectory.nil habove
          have hchild : child? (alterEntry name (fun _ => some node) entries) name = some node :=
            child?_alterEntry rfl
          rw [alter, find?_cons, hchild, Option.bind_some, find?]
      | cons next rest =>
          rw [List.dropLast_cons_cons] at habove
          obtain ⟨entries, child, rfl, hchild, hrest⟩ := habove.cons
          have haltered : child? (alterEntry name
              (fun node? => node?.map (alter (fun _ => some node) (next :: rest))) entries) name =
              some (child.alter (fun _ => some node) (next :: rest)) := by
            apply child?_alterEntry
            rw [hchild, Option.map_some]
          rw [alter_cons _ (by simp), find?_cons, haltered, Option.bind_some]
          exact ih (by simp) hrest

/-- Where no directory stands, a change loses no directory. -/
theorem HasDirectory.alter {root : FileNode} {place other : List String}
    (hother : root.HasDirectory other) (hplace : ¬ root.HasDirectory place)
    (change : Option FileNode → Option FileNode) :
    (root.alter change place).HasDirectory other := by
  induction place generalizing root other with
  | nil =>
      cases root with
      | file bytes => exact hother
      | directory entries => exact hother
  | cons name rest ih =>
      cases other with
      | nil =>
          obtain ⟨entries, rfl⟩ := hother.nil
          obtain ⟨changed, hchanged⟩ := alter_directory change (name :: rest) entries
          rw [hchanged]
          exact ⟨changed, by rw [find?]⟩
      | cons first others =>
          obtain ⟨entries, child, rfl, hchild, hothers⟩ := hother.cons
          by_cases hname : first = name
          · subst hname
            rw [hasDirectory_cons hchild] at hplace
            cases rest with
            | nil =>
                cases child with
                | file bytes =>
                    cases others with
                    | nil => exact absurd hothers (not_hasDirectory_of_file (by rw [find?]))
                    | cons second others =>
                        exact absurd hothers (not_hasDirectory_of_none (by rw [find?]))
                | directory inner => exact absurd ⟨inner, by rw [find?]⟩ hplace
            | cons next rest =>
                have haltered : child? (alterEntry first
                    (fun node? => node?.map (FileNode.alter change (next :: rest))) entries) first =
                    some (child.alter change (next :: rest)) := by
                  apply child?_alterEntry
                  rw [hchild, Option.map_some]
                rw [alter_cons _ (by simp), hasDirectory_cons haltered]
                exact ih hothers hplace
          · have hsame (change : Option FileNode → Option FileNode) :
                child? (alterEntry name change entries) first = some child := by
              rw [child?_alterEntry_other hname, hchild]
            cases rest with
            | nil =>
                rw [FileNode.alter, hasDirectory_cons (hsame _)]
                exact hothers
            | cons next rest =>
                rw [alter_cons _ (by simp), hasDirectory_cons (hsame _)]
                exact hothers

/-! ## Paths -/

/-- The way that a path takes from the place it has come to. -/
inductive Leads (root : FileNode) : List String → List String → List String → Prop
  | stay {done : List String} : Leads root done [] done.reverse
  | up {done rest place : List String} (hrest : Leads root (done.drop 1) rest place) :
      Leads root done (".." :: rest) place
  | last {done : List String} {name : String} (hname : name ≠ "..")
      (hshort : checkName name = .ok ()) : Leads root done [name] (name :: done).reverse
  | into {done rest place : List String} {name next : String} (hname : name ≠ "..")
      (hshort : checkName name = .ok ()) (hdirectory : root.HasDirectory (name :: done).reverse)
      (hrest : Leads root (name :: done) (next :: rest) place) :
      Leads root done (name :: next :: rest) place

theorem Leads.enter {root : FileNode} {done rest place : List String} {name : String}
    (hname : name ≠ "..") (hshort : checkName name = .ok ())
    (hdirectory : root.HasDirectory (name :: done).reverse)
    (hrest : Leads root (name :: done) rest place) : Leads root done (name :: rest) place := by
  cases rest with
  | nil =>
      cases hrest
      exact .last hname hshort
  | cons next rest => exact .into hname hshort hdirectory hrest

/-- A way to a directory goes on to the names in it. -/
theorem Leads.append {root : FileNode} {done names place : List String} {name : String}
    (hleads : root.Leads done names place) (hplace : root.HasDirectory place)
    (hname : name ≠ "..") (hshort : checkName name = .ok ()) :
    root.Leads done (names ++ [name]) (place ++ [name]) := by
  induction hleads with
  | @stay done =>
      rw [List.nil_append, ← List.reverse_cons]
      exact .last hname hshort
  | up _ ih => exact .up (ih hplace)
  | @last done first hfirst hcheck =>
      rw [List.singleton_append, ← List.reverse_cons]
      exact .into hfirst hcheck hplace (.last hname hshort)
  | into hfirst hcheck hdirectory _ ih => exact .into hfirst hcheck hdirectory (ih hplace)

theorem throw_eq_error {α : Type} (fault : FileFault) :
    (throw fault : Except FileFault α) = .error fault := rfl

theorem leads_of_settle {root : FileNode} {done names place : List String}
    (hsettle : root.settle done names = .ok place) : root.Leads done names place := by
  induction names generalizing done with
  | nil =>
      cases hsettle
      exact .stay
  | cons name rest ih =>
      unfold settle at hsettle
      by_cases hname : name = ".."
      · rw [if_pos hname] at hsettle
        subst hname
        exact .up (ih hsettle)
      · rw [if_neg hname] at hsettle
        cases hshort : checkName name with
        | error fault => simp [hshort, bind, Except.bind] at hsettle
        | ok _ =>
            simp only [hshort, bind, Except.bind] at hsettle
            split at hsettle
            next =>
              cases hsettle
              exact .last hname hshort
            next => simp [throw_eq_error] at hsettle
            next => simp [throw_eq_error] at hsettle
            next entries hmore hfind =>
              exact .enter hname hshort ⟨entries, hfind⟩ (ih hsettle)

theorem Leads.settle {root : FileNode} {done names place : List String}
    (hleads : root.Leads done names place) : root.settle done names = .ok place := by
  induction hleads with
  | stay => rfl
  | up hrest ih =>
      unfold FileNode.settle
      rw [if_pos rfl]
      exact ih
  | last hname hshort =>
      unfold FileNode.settle
      rw [if_neg hname, hshort]
      rfl
  | into hname hshort hdirectory hrest ih =>
      obtain ⟨entries, hfind⟩ := hdirectory
      unfold FileNode.settle
      rw [if_neg hname, hshort, hfind]
      exact ih

/-- A path leads to the same place as long as no directory is lost. -/
theorem Leads.of_directories {root later : FileNode} {done names place : List String}
    (hkeep : ∀ other, root.HasDirectory other → later.HasDirectory other)
    (hleads : root.Leads done names place) : later.Leads done names place := by
  induction hleads with
  | stay => exact .stay
  | up _ ih => exact .up ih
  | last hname hshort => exact .last hname hshort
  | into hname hshort hdirectory _ ih => exact .into hname hshort (hkeep _ hdirectory) ih

theorem hasDirectory_above_done {root : FileNode} {done : List String}
    (hdone : root.HasDirectory done.reverse) : root.HasDirectory (done.drop 1).reverse := by
  cases done with
  | nil => exact hdone
  | cons name done =>
      have habove := hdone.dropLast
      rwa [List.reverse_cons, List.dropLast_concat] at habove

/-- What a path names is a directory or stands in one. -/
theorem Leads.above {root : FileNode} {done names place : List String}
    (hdone : root.HasDirectory done.reverse) (hleads : root.Leads done names place)
    (hplace : ¬ root.HasDirectory place) : place ≠ [] ∧ root.HasDirectory place.dropLast := by
  induction hleads with
  | stay => exact absurd hdone hplace
  | up _ ih => exact ih (hasDirectory_above_done hdone) hplace
  | last _ _ =>
      constructor
      · simp
      · simpa using hdone
  | into _ _ hdirectory _ ih => exact ih hdirectory hplace

/-! ## Files -/

theorem locate_eq_ok_iff {root : FileNode} {path : String} {place : List String} :
    root.locate path = .ok place ↔
      path.toList.contains '\x00' = false ∧ root.Leads [] (Path.components path) place := by
  unfold locate
  split_ifs with hnul
  · simp only [hnul]
    simp
  · constructor
    · intro hsettle
      exact ⟨by simpa using hnul, leads_of_settle hsettle⟩
    · intro hleads
      exact hleads.2.settle

/-- Writing puts a file where the path leads, if that is no directory. -/
theorem write_eq_ok_iff {root later : FileNode} {path : String} {bytes : List UInt8} :
    root.write path bytes = .ok later ↔
      ∃ place, root.locate path = .ok place ∧ ¬ root.HasDirectory place ∧
        Path.namesDirectory path = false ∧
        root.alter (fun _ => some (.file bytes)) place = later := by
  unfold write
  cases hlocate : root.locate path with
  | error fault => simp [bind, Except.bind]
  | ok place =>
      simp only [bind, Except.bind, Except.ok.injEq, exists_eq_left']
      cases hfind : root.find? place with
      | none =>
          have hplace := not_hasDirectory_of_none hfind
          cases hnames : Path.namesDirectory path with
          | true => simp [throw_eq_error]
          | false => simp [hplace, pure, Except.pure]
      | some node =>
          cases node with
          | directory entries =>
              have hplace : root.HasDirectory place := ⟨entries, hfind⟩
              simp [hplace, throw_eq_error]
          | file old =>
              have hplace := not_hasDirectory_of_file hfind
              cases hnames : Path.namesDirectory path with
              | true => simp [throw_eq_error]
              | false => simp [hplace, pure, Except.pure]

theorem stat_eq_directory_iff {root : FileNode} {path : String} {place : List String}
    (hlocate : root.locate path = .ok place) :
    (∃ entries, root.stat path = .ok (.directory entries)) ↔ root.HasDirectory place := by
  simp only [stat, hlocate, bind, Except.bind, HasDirectory]
  cases root.find? place with
  | none => simp [throw_eq_error]
  | some node =>
      cases node with
      | directory entries => simp [pure, Except.pure]
      | file bytes => cases Path.namesDirectory path <;> simp [throw_eq_error, pure, Except.pure]

theorem read_eq_ok_iff {root : FileNode} {path : String} {bytes : List UInt8} :
    root.read path = .ok bytes ↔
      ∃ place, root.locate path = .ok place ∧ root.find? place = some (.file bytes) ∧
        Path.namesDirectory path = false := by
  unfold read stat
  cases hlocate : root.locate path with
  | error fault => simp [bind, Except.bind]
  | ok place =>
      simp only [bind, Except.bind, Except.ok.injEq, exists_eq_left']
      cases hfind : root.find? place with
      | none => simp [throw_eq_error]
      | some node =>
          cases node with
          | directory entries => simp [throw_eq_error, pure, Except.pure]
          | file held =>
              cases hnames : Path.namesDirectory path with
              | true => simp [throw_eq_error]
              | false => simp [pure, Except.pure]

/-- A path is found at the same place as long as no directory is lost. -/
theorem locate_of_directories {root later : FileNode} {path : String} {place : List String}
    (hkeep : ∀ other, root.HasDirectory other → later.HasDirectory other)
    (hlocate : root.locate path = .ok place) : later.locate path = .ok place := by
  obtain ⟨hnul, hleads⟩ := locate_eq_ok_iff.mp hlocate
  exact locate_eq_ok_iff.mpr ⟨hnul, hleads.of_directories hkeep⟩

theorem read_of_write {root later : FileNode} {path : String} {bytes : List UInt8}
    (hroot : root.HasDirectory []) (hwrite : root.write path bytes = .ok later) :
    later.HasDirectory [] ∧ later.read path = .ok bytes := by
  obtain ⟨place, hlocate, hplace, hnames, rfl⟩ := write_eq_ok_iff.mp hwrite
  have hleads := (locate_eq_ok_iff.mp hlocate).2
  have hkeep (other : List String) (hother : root.HasDirectory other) :
      (root.alter (fun _ => some (.file bytes)) place).HasDirectory other :=
    hother.alter hplace _
  obtain ⟨hsome, habove⟩ := hleads.above hroot hplace
  have hfind := find?_alter hsome habove (.file bytes)
  have hagain := locate_of_directories hkeep hlocate
  exact ⟨hkeep [] hroot, read_eq_ok_iff.mpr ⟨place, hagain, hfind, hnames⟩⟩

/-! ## Making directories -/

theorem HasDirectory.makeAll {root : FileNode} {other : List String} (done names : List String)
    (hother : root.HasDirectory other) : (root.makeAll done names).1.HasDirectory other := by
  induction names generalizing root done with
  | nil => exact hother
  | cons name rest ih =>
      unfold FileNode.makeAll
      by_cases hname : name = ".."
      · rw [if_pos hname]
        exact ih _ hother
      · rw [if_neg hname]
        split
        next => exact hother
        next =>
          dsimp only
          split
          next => exact ih _ hother
          next => exact hother
          next hfind =>
            apply ih
            exact hother.alter (not_hasDirectory_of_none hfind) _

theorem HasDirectory.makeDirectories {root : FileNode} {other : List String} (path : String)
    (hother : root.HasDirectory other) : (root.makeDirectories path).1.HasDirectory other := by
  unfold FileNode.makeDirectories
  split_ifs with hnul
  · exact hother
  · exact hother.makeAll [] _

/-- Once all directories of a path are made, it leads to the last one. -/
theorem leads_makeAll {root : FileNode} {done names : List String}
    (hdone : root.HasDirectory done.reverse) (hmade : (root.makeAll done names).2 = .ok ()) :
    ∃ place, (root.makeAll done names).1.Leads done names place ∧
      (root.makeAll done names).1.HasDirectory place := by
  induction names generalizing root done with
  | nil => exact ⟨_, .stay, hdone⟩
  | cons first rest ih =>
      unfold makeAll at hmade ⊢
      by_cases hfirst : first = ".."
      · subst hfirst
        rw [if_pos rfl] at hmade ⊢
        obtain ⟨place, hleads, hplace⟩ := ih (hasDirectory_above_done hdone) hmade
        exact ⟨place, .up hleads, hplace⟩
      · rw [if_neg hfirst] at hmade ⊢
        cases hcheck : checkName first with
        | error fault => simp [hcheck] at hmade
        | ok _ =>
            simp only [hcheck] at hmade ⊢
            cases hfind : root.find? (first :: done).reverse with
            | none =>
                simp only [hfind] at hmade ⊢
                have habove : root.HasDirectory (first :: done).reverse.dropLast := by
                  rwa [List.reverse_cons, List.dropLast_concat]
                have hnew : (root.alter (fun _ => some empty) (first :: done).reverse).HasDirectory
                    (first :: done).reverse := ⟨[], find?_alter (by simp) habove empty⟩
                obtain ⟨place, hleads, hplace⟩ := ih hnew hmade
                exact ⟨place, .enter hfirst hcheck (hnew.makeAll _ rest) hleads, hplace⟩
            | some node =>
                cases node with
                | file bytes =>
                    simp only [hfind] at hmade
                    cases hmade
                | directory entries =>
                    simp only [hfind] at hmade ⊢
                    have hold : root.HasDirectory (first :: done).reverse := ⟨entries, hfind⟩
                    obtain ⟨place, hleads, hplace⟩ := ih hold hmade
                    exact ⟨place, .enter hfirst hcheck (hold.makeAll _ rest) hleads, hplace⟩

theorem locate_makeDirectories {root : FileNode} {base : String} (hroot : root.HasDirectory [])
    (hmade : (root.makeDirectories base).2 = .ok ()) :
    ∃ place, (root.makeDirectories base).1.locate base = .ok place ∧
      (root.makeDirectories base).1.HasDirectory place := by
  unfold makeDirectories at hmade ⊢
  split_ifs at hmade ⊢ with hnul
  obtain ⟨place, hleads, hplace⟩ := leads_makeAll hroot hmade
  exact ⟨place, locate_eq_ok_iff.mpr ⟨by simpa using hnul, hleads⟩, hplace⟩

/-! ## Files of a directory -/

theorem components_join {base path : String} (hpath : path.toList.head? ≠ some '/') :
    Path.components (Path.join base path) = Path.components base ++ Path.components path := by
  have hsplit (front : List Char) (back : List Char) :
      (front ++ '/' :: back).splitOn '/' = front.splitOn '/' ++ back.splitOn '/' :=
    List.splitOnP_append_cons front back (by simp)
  unfold Path.join
  rw [if_neg hpath]
  by_cases hbase : base = ""
  · subst hbase
    simp [Path.components]
  · by_cases hends : base.toList.getLast? = some '/'
    · obtain ⟨front, hfront⟩ := List.getLast?_eq_some_iff.mp hends
      simp [Path.components, hfront, hsplit]
    · simp [Path.components, hends, hbase, hsplit]

/-- A name that can stand for a file of a directory. -/
structure PlainName (name : String) : Prop where
  relative : name.toList.head? ≠ some '/'
  alone : Path.components name = [name]
  notUp : name ≠ ".."
  short : checkName name = .ok ()
  noNul : '\x00' ∉ name.toList
  notDirectory : Path.namesDirectory name = false

theorem toList_join (base path : String) :
    ∃ front, (Path.join base path).toList = front ++ path.toList ∧
      ∀ letter ∈ front, letter ∈ base.toList ∨ letter = '/' := by
  unfold Path.join
  split_ifs with hpath hbase
  · exact ⟨[], rfl, by simp⟩
  · exact ⟨base.toList, String.toList_append, fun letter hletter => .inl hletter⟩
  · refine ⟨base.toList ++ ['/'], by simp, ?_⟩
    intro letter hletter
    simpa using hletter

theorem noNul_join {base name : String} (hname : PlainName name)
    (hbase : base.toList.contains '\x00' = false) :
    (Path.join base name).toList.contains '\x00' = false := by
  obtain ⟨front, hjoin, hfront⟩ := toList_join base name
  simp only [List.contains_eq_mem, decide_eq_false_iff_not] at hbase ⊢
  rw [hjoin, List.mem_append, not_or]
  refine ⟨?_, hname.noNul⟩
  intro hmem
  rcases hfront _ hmem with hinside | hslash
  · exact hbase hinside
  · cases hslash

/-- The name of a file leads on from where its directory stands. -/
theorem locate_join {root : FileNode} {base name : String} {place : List String}
    (hname : PlainName name) (hlocate : root.locate base = .ok place)
    (hplace : root.HasDirectory place) :
    root.locate (Path.join base name) = .ok (place ++ [name]) := by
  obtain ⟨hnul, hleads⟩ := locate_eq_ok_iff.mp hlocate
  refine locate_eq_ok_iff.mpr ⟨noNul_join hname hnul, ?_⟩
  rw [components_join hname.relative, hname.alone]
  exact hleads.append hplace hname.notUp hname.short

theorem namesDirectory_join {base name : String} (hname : PlainName name) :
    Path.namesDirectory (Path.join base name) = false := by
  obtain ⟨front, hjoin, -⟩ := toList_join base name
  have hends := hname.notDirectory
  have hsome : name.toList ≠ [] := by
    intro hnone
    have halone := hname.alone
    simp [Path.components, hnone] at halone
  have hlast := List.getLast?_eq_some_getLast hsome
  unfold Path.namesDirectory at hends ⊢
  rw [hlast] at hends
  rwa [hjoin, List.getLast?_append, hlast, Option.some_or]

/-- A file can be written into a directory that was made, unless a directory has its name. -/
theorem exists_write_iff {root : FileNode} (base : String) {name : String} (bytes : List UInt8)
    (hname : PlainName name) (hroot : root.HasDirectory [])
    (hmade : (root.makeDirectories base).2 = .ok ()) :
    (∃ later, (root.makeDirectories base).1.write (Path.join base name) bytes = .ok later) ↔
      ¬ ∃ entries,
        (root.makeDirectories base).1.stat (Path.join base name) = .ok (.directory entries) := by
  obtain ⟨place, hbase, hplace⟩ := locate_makeDirectories hroot hmade
  have hlocate := locate_join hname hbase hplace
  simp only [write_eq_ok_iff, hlocate, stat_eq_directory_iff hlocate, namesDirectory_join hname]
  simp

end NodeLink.FileNode
