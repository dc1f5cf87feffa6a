import NodeLink.Proofs.Store.Directory
import NodeLink.Proofs.Text.Utf8
import NodeLink.Proofs.Toml.Document
import NodeLink.Settings.File
/-!
# Settings that are saved

Settings whose counts fit 64 bits with a sign are written and read back as they
were, usable or not.  Others are not written at all, and the files stay as they
are.
-/

namespace NodeLink

open NodeLink.Text NodeLink.Toml

/-! ## Paths that can be written to -/

/-- A file can be put at a path: the directories it lies in can be made, and then
no directory stands where the path leads. -/
structure FileNode.Admits (tree : FileNode) (path : String) : Prop where
  root : tree.HasDirectory []
  made : (tree.makeDirectories (parentOf path)).2 = .ok ()
  free : ∃ place, (tree.makeDirectories (parentOf path)).1.locate path = .ok place ∧
    ¬ (tree.makeDirectories (parentOf path)).1.HasDirectory place
  notDirectory : Path.namesDirectory path = false

theorem FileNode.Admits.write {tree : FileNode} {path : String} (hadmits : tree.Admits path)
    (bytes : List UInt8) :
    ∃ later, (tree.makeDirectories (parentOf path)).1.write path bytes = .ok later ∧
      later.read path = .ok bytes := by
  obtain ⟨place, hlocate, hplace⟩ := hadmits.free
  obtain ⟨later, hwrite⟩ :
      ∃ later, (tree.makeDirectories (parentOf path)).1.write path bytes = .ok later :=
    ⟨_, write_eq_ok_iff.mpr ⟨place, hlocate, hplace, hadmits.notDirectory, rfl⟩⟩
  exact ⟨later, hwrite, (read_of_write (hadmits.root.makeDirectories _) hwrite).2⟩

/-- What a path reads stays when directories are made. -/
theorem FileNode.read_makeDirectories {tree : FileNode} {path : String} {bytes : List UInt8}
    (other : String) (hread : tree.read path = .ok bytes) :
    (tree.makeDirectories other).1.read path = .ok bytes := by
  obtain ⟨place, hlocate, hfind, hnames⟩ := read_eq_ok_iff.mp hread
  exact read_eq_ok_iff.mpr
    ⟨place, locate_of_directories (fun _ => HasDirectory.makeDirectories other) hlocate,
      (sameFiles_makeDirectories tree other place bytes).mpr hfind, hnames⟩

namespace Settings

/-! ## Documents -/

theorem isWritable_iff {settings : Settings} :
    settings.isWritable = true ↔ settings.connectTimeout ≤ greatest ∧
      settings.requestTimeout ≤ greatest ∧ settings.refresh ≤ greatest ∧
      settings.maxResponse ≤ greatest := by
  simp only [isWritable, counts, List.all_cons, List.all_nil, Bool.and_true, Bool.and_eq_true,
    decide_eq_true_eq]
  exact Iff.rfl

/-- The lines of a settings file. -/
def lines (settings : Settings) (hwritable : settings.isWritable = true) : List Line :=
  have hcounts := isWritable_iff.mp hwritable
  [.string "data_dir".toList (by decide) (by decide) settings.dataDir.toList,
    .number "connect_timeout_secs".toList (by decide) (by decide) settings.connectTimeout hcounts.1,
    .number "request_timeout_secs".toList (by decide) (by decide) settings.requestTimeout
      hcounts.2.1,
    .number "bootstrap_refresh_secs".toList (by decide) (by decide) settings.refresh
      hcounts.2.2.1,
    .number "max_response_bytes".toList (by decide) (by decide) settings.maxResponse
      hcounts.2.2.2,
    .string "user_agent".toList (by decide) (by decide) settings.userAgent.toList]

theorem render_eq {settings : Settings} (hwritable : settings.isWritable = true) :
    settings.render = (settings.lines hwritable).flatMap Line.text := by
  simp [render, lines, Line.text, Line.string, Line.number]

theorem ofText?_render (defaults : Settings) {settings : Settings}
    (hwritable : settings.isWritable = true) :
    ofText? defaults settings.render = some settings := by
  have hnames : ((settings.lines hwritable).map (·.entry.1)).Nodup := by
    simp [lines, Line.entry, Line.string, Line.number]
  rw [ofText?, render_eq hwritable, readDocument_lines hnames, Option.bind_some]
  simp [lines, Line.entry, Line.string, Line.number, ofEntries?, textField, countField,
    Entries.find?]

/-! ## Files -/

section

variable {settings : Settings} {tree : FileNode} {path : String}

theorem save_eq (hadmits : tree.Admits path) :
    settings.save tree path =
      if settings.isWritable then
        match (tree.makeDirectories (FileNode.parentOf path)).1.write path
            (Utf8.encode settings.render) with
        | .error fault => ((tree.makeDirectories (FileNode.parentOf path)).1, .error (.file fault))
        | .ok later => (later, .ok ())
      else ((tree.makeDirectories (FileNode.parentOf path)).1, .error .unwritable) := by
  have hmade := hadmits.made
  unfold save
  split
  next made fault hfailed => rw [hfailed] at hmade; cases hmade
  next made hdone =>
    rw [hdone]
    cases settings.isWritable <;> rfl

theorem load_of_read (env : Environment) {later : FileNode} (hwritable : settings.isWritable = true)
    (hread : later.read path = .ok (Utf8.encode settings.render)) :
    load env later path = .ok settings := by
  have hdecode : Utf8.decode (Utf8.encode settings.render) = some settings.render :=
    Utf8.decode_eq_some_iff.mpr rfl
  rw [load, hread]
  simp only [hdecode, ofText?_render (default env) hwritable]

/-- Where a file can be put, exactly the settings whose counts fit 64 bits with a
sign are saved, and come back as they were; otherwise no file changes. -/
theorem saved_settings_come_back (env : Environment) (settings : Settings)
    (hadmits : tree.Admits path) :
    ((settings.save tree path).2 = .ok () ↔
        settings.connectTimeout ≤ Nat.pow 2 63 - 1 ∧ settings.requestTimeout ≤ Nat.pow 2 63 - 1 ∧
          settings.refresh ≤ Nat.pow 2 63 - 1 ∧ settings.maxResponse ≤ Nat.pow 2 63 - 1) ∧
      ((settings.save tree path).2 = .ok () →
        load env (settings.save tree path).1 path = .ok settings) ∧
      ∀ error, (settings.save tree path).2 = .error error →
        error = .unwritable ∧ tree.SameFiles (settings.save tree path).1 ∧
          ∀ bytes, tree.read path = .ok bytes →
            (settings.save tree path).1.read path = .ok bytes := by
  have hcounts : settings.isWritable = true ↔
      settings.connectTimeout ≤ Nat.pow 2 63 - 1 ∧ settings.requestTimeout ≤ Nat.pow 2 63 - 1 ∧
        settings.refresh ≤ Nat.pow 2 63 - 1 ∧ settings.maxResponse ≤ Nat.pow 2 63 - 1 := isWritable_iff
  rw [← hcounts, save_eq hadmits]
  by_cases hwritable : settings.isWritable = true
  · obtain ⟨later, hwrite, hread⟩ := hadmits.write (Utf8.encode settings.render)
    rw [if_pos hwritable, hwrite]
    refine ⟨iff_of_true rfl hwritable, fun _ => load_of_read env hwritable hread, ?_⟩
    rintro error ⟨⟩
  · rw [if_neg hwritable]
    refine ⟨iff_of_false (by simp) hwritable, by simp, ?_⟩
    rintro error ⟨⟩
    exact ⟨rfl, FileNode.sameFiles_makeDirectories tree _,
      fun bytes => FileNode.read_makeDirectories _⟩

/-- Quotes in a row, line ends and settings that nobody could use do no harm. -/
theorem unusable_settings_come_back :
    let settings : Settings := ⟨"\"\"\"\r\n\'\'\'\\", 0, 1, 2, 3, ""⟩
    FileNode.empty.Admits "state/bridge.toml" ∧
      (settings.save FileNode.empty "state/bridge.toml").2 = .ok () ∧
      ∀ env, load env (settings.save FileNode.empty "state/bridge.toml").1 "state/bridge.toml" =
        .ok settings := by
  intro settings
  have hadmits : FileNode.empty.Admits "state/bridge.toml" :=
    { root := ⟨[], rfl⟩
      made := by rfl
      free := ⟨["state", "bridge.toml"], by rfl, by rintro ⟨entries, hentries⟩; cases hentries⟩
      notDirectory := by decide }
  have hsaved : (settings.save FileNode.empty "state/bridge.toml").2 = .ok () :=
    (saved_settings_come_back ⟨none, none, none, none, none⟩ settings hadmits).1.mpr (by decide)
  exact ⟨hadmits, hsaved, fun env => (saved_settings_come_back env settings hadmits).2.1 hsaved⟩

end

end Settings

end NodeLink
