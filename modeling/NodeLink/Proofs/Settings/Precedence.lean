import NodeLink.Proofs.Settings.File
/-!
# Which layer counts

Settings come in three layers: the variables of an environment, the entries of a file and the
defaults.  Each field is taken from the first layer that has a value for it, and only what
comes out is checked.  A file that is missing is written with the last layer alone, so that
reading it adds nothing to what the layers said before.
-/

namespace NodeLink.Settings

open NodeLink.Text NodeLink.Toml

/-! ## What each layer says -/

/-- The seconds that a variable asks for, if it is set to a number of 64 bits. -/
def asked? (given : Option String) : Option Nat :=
  given.bind fun text => Numeral.within? Numeral.maxWord64 text.toList

def textAt? (entries : Entries) (name : String) : Option String :=
  match Entries.find? entries name with
  | some (.string text) => some text
  | _ => none

def countAt? (entries : Entries) (name : String) : Option Nat :=
  match Entries.find? entries name with
  | some (.integer (.ofNat n)) => some n
  | _ => none

/-- The entries of a settings file, none where there is no file. -/
def entriesAt (tree : FileNode) (path : String) : Entries :=
  match tree.read path with
  | .error _ => []
  | .ok bytes => ((Utf8.decode bytes).bind readDocument).getD []

/-- Each field as the first layer has it that has a value for it. -/
def layered (env : Environment) (entries : Entries) : Settings where
  dataDir := (env.dataDir.or (textAt? entries "data_dir")).getD (default env).dataDir
  connectTimeout := ((asked? env.connectTimeout).or
    (countAt? entries "connect_timeout_secs")).getD (default env).connectTimeout
  requestTimeout := ((asked? env.requestTimeout).or
    (countAt? entries "request_timeout_secs")).getD (default env).requestTimeout
  refresh := (countAt? entries "bootstrap_refresh_secs").getD (default env).refresh
  maxResponse := (countAt? entries "max_response_bytes").getD (default env).maxResponse
  userAgent := (textAt? entries "user_agent").getD (default env).userAgent

theorem textAt?_nil (name : String) : textAt? [] name = none := rfl

theorem countAt?_nil (name : String) : countAt? [] name = none := rfl

theorem overridden_eq (given : Option String) (otherwise : Nat) :
    overridden given otherwise = (asked? given).getD otherwise := by
  cases given <;> rfl

theorem getD_or_getD {α : Type} (first second : Option α) (otherwise : α) :
    first.getD (second.getD otherwise) = (first.or second).getD otherwise := by
  cases first <;> rfl

/-! ## Files -/

section

variable {defaults settings : Settings} {entries : Entries} {name : String}

theorem textField_eq_some {text otherwise : String}
    (hfield : textField entries name otherwise = some text) :
    text = (textAt? entries name).getD otherwise := by
  unfold textField at hfield
  unfold textAt?
  split at hfield
  next hfind =>
    cases hfield
    rw [hfind]
    rfl
  next hfind =>
    cases hfield
    rw [hfind]
    rfl
  next => cases hfield

theorem countField_eq_some {n otherwise : Nat}
    (hfield : countField entries name otherwise = some n) :
    n = (countAt? entries name).getD otherwise := by
  unfold countField at hfield
  unfold countAt?
  split at hfield
  next hfind =>
    cases hfield
    rw [hfind]
    rfl
  next hfind =>
    cases hfield
    rw [hfind]
    rfl
  next => cases hfield

theorem ofEntries?_eq_some (haccepted : ofEntries? defaults entries = some settings) :
    settings =
      { dataDir := (textAt? entries "data_dir").getD defaults.dataDir
        connectTimeout :=
          (countAt? entries "connect_timeout_secs").getD defaults.connectTimeout
        requestTimeout :=
          (countAt? entries "request_timeout_secs").getD defaults.requestTimeout
        refresh := (countAt? entries "bootstrap_refresh_secs").getD defaults.refresh
        maxResponse := (countAt? entries "max_response_bytes").getD defaults.maxResponse
        userAgent := (textAt? entries "user_agent").getD defaults.userAgent } := by
  simp only [ofEntries?, Option.bind_eq_bind, Option.bind_eq_some_iff, Option.pure_def,
    Option.some.injEq] at haccepted
  obtain ⟨_, hdir, _, hconnect, _, hrequest, _, hrefresh, _, hmost, _, hagent, rfl⟩ := haccepted
  rw [← textField_eq_some hdir, ← countField_eq_some hconnect, ← countField_eq_some hrequest,
    ← countField_eq_some hrefresh, ← countField_eq_some hmost, ← textField_eq_some hagent]

end

section

variable {env : Environment} {tree : FileNode} {path : String} {settings : Settings}

theorem load_eq_ok_iff : load env tree path = .ok settings ↔
    ∃ bytes text entries, tree.read path = .ok bytes ∧ Utf8.decode bytes = some text ∧
      readDocument text = some entries ∧ ofEntries? (default env) entries = some settings := by
  unfold load ofText?
  cases tree.read path with
  | error fault => simp
  | ok bytes =>
      cases hdecode : Utf8.decode bytes with
      | none => simp [hdecode]
      | some text =>
          cases hdocument : readDocument text with
          | none => simp [hdecode, hdocument]
          | some entries =>
              cases haccepted : ofEntries? (default env) entries with
              | none => simp [hdecode, hdocument, haccepted]
              | some accepted => simp [hdecode, hdocument, haccepted]

theorem exists?_of_read {bytes : List UInt8} (hread : tree.read path = .ok bytes) :
    tree.exists? path = true := by
  unfold FileNode.read at hread
  unfold FileNode.exists?
  cases hstat : tree.stat path with
  | error fault =>
      rw [hstat] at hread
      cases hread
  | ok node => rfl

theorem entriesAt_of_absent (habsent : tree.exists? path = false) : entriesAt tree path = [] := by
  unfold entriesAt
  cases hread : tree.read path with
  | error fault => rfl
  | ok bytes =>
      rw [exists?_of_read hread] at habsent
      cases habsent

/-! ## The layers in order -/

theorem withEnvironment_default (env : Environment) :
    withEnvironment env (default env) = layered env [] := by
  simp only [withEnvironment, layered, overridden_eq, textAt?_nil, countAt?_nil,
    Option.or_none, Option.getD_none]

theorem withEnvironment_of_load (hload : load env tree path = .ok settings) :
    withEnvironment env settings = layered env (entriesAt tree path) := by
  obtain ⟨bytes, text, entries, hread, hdecode, hdocument, haccepted⟩ := load_eq_ok_iff.mp hload
  have hentries : entriesAt tree path = entries := by
    simp only [entriesAt, hread, hdecode, Option.bind_some, hdocument, Option.getD_some]
  rw [hentries, ofEntries?_eq_some haccepted]
  simp only [withEnvironment, layered, overridden_eq, getD_or_getD]

theorem isWritable_default (env : Environment) : (default env).isWritable = true :=
  isWritable_iff.mpr ⟨(by decide : 30 ≤ greatest), (by decide : 30 ≤ greatest),
    (by decide : 300 ≤ greatest), (by decide : 4194304 ≤ greatest)⟩

theorem loadOrWrite_of_load (hload : load env tree path = .ok settings) :
    loadOrWrite env tree path = (tree, (layered env (entriesAt tree path)).check) := by
  obtain ⟨bytes, -, -, hread, -⟩ := load_eq_ok_iff.mp hload
  rw [loadOrWrite, if_pos (exists?_of_read hread), hload, ← withEnvironment_of_load hload]
  rfl

theorem loadOrWrite_of_absent (env : Environment) (habsent : tree.exists? path = false)
    (hadmits : tree.Admits path) :
    ∃ later, loadOrWrite env tree path = (later, (layered env (entriesAt tree path)).check) ∧
      later.read path = .ok (Utf8.encode (default env).render) := by
  obtain ⟨later, hwrite, hread⟩ := hadmits.write (Utf8.encode (default env).render)
  have hsave : (default env).save tree path = (later, .ok ()) := by
    rw [save_eq hadmits, if_pos (isWritable_default env), hwrite]
  refine ⟨later, ?_, hread⟩
  rw [loadOrWrite, habsent, if_neg Bool.false_ne_true, hsave, entriesAt_of_absent habsent,
    ← withEnvironment_default]

theorem check_of_flaw?_none (hsound : settings.flaw? = none) : settings.check = .ok settings := by
  rw [check, hsound]

theorem check_of_flaw? {flaw : Flaw} (hflaw : settings.flaw? = some flaw) :
    settings.check = .error (.invalid flaw) := by
  rw [check, hflaw]

end

/-- Where a file is accepted, or there is none and it can be written, the layers decide over
the result field by field, and nothing but what they say together is checked.  A file that is
there stays as it is; another one holds the defaults whatever the environment says, and a
second time the same comes out. -/
theorem first_layer_counts (env : Environment) (tree : FileNode) (path : String)
    (hpath : tree.exists? path = false ∧ tree.Admits path ∨
      ∃ settings, load env tree path = .ok settings) :
    let settings := layered env (entriesAt tree path)
    let later := (loadOrWrite env tree path).1
    let result := (loadOrWrite env tree path).2
    (settings.flaw? = none → result = .ok settings) ∧
      (∀ flaw, settings.flaw? = some flaw → result = .error (.invalid flaw)) ∧
      (tree.exists? path = true → later = tree) ∧
      (tree.exists? path = false →
        later.read path = .ok (Utf8.encode (default env).render) ∧
          ∀ other, load other later path = .ok (default env)) ∧
      loadOrWrite env later path = (later, result) := by
  intro settings later result
  rcases hpath with ⟨habsent, hadmits⟩ | ⟨held, hload⟩
  · obtain ⟨written, hwritten, hread⟩ := loadOrWrite_of_absent env habsent hadmits
    have hlater : later = written := congrArg Prod.fst hwritten
    have hresult : result = settings.check := congrArg Prod.snd hwritten
    have hload (other : Environment) : load other written path = .ok (default env) :=
      load_of_read other (isWritable_default env) hread
    have hagain : loadOrWrite env written path = (written, settings.check) := by
      rw [loadOrWrite_of_load (hload env), ← withEnvironment_of_load (hload env),
        withEnvironment_default, ← entriesAt_of_absent habsent]
    rw [hlater, hresult]
    refine ⟨check_of_flaw?_none, fun _ => check_of_flaw?, ?_, fun _ => ⟨hread, hload⟩, hagain⟩
    intro hexists
    rw [habsent] at hexists
    cases hexists
  · have hsame : loadOrWrite env tree path = (tree, settings.check) := loadOrWrite_of_load hload
    have hlater : later = tree := congrArg Prod.fst hsame
    have hresult : result = settings.check := congrArg Prod.snd hsame
    obtain ⟨bytes, -, -, hread, -⟩ := load_eq_ok_iff.mp hload
    rw [hlater, hresult]
    refine ⟨check_of_flaw?_none, fun _ => check_of_flaw?, fun _ => rfl, ?_, hsame⟩
    intro habsent
    rw [exists?_of_read hread] at habsent
    cases habsent

/-- A variable makes good what a file spoils, and spoils what the defaults that are written
make good. -/
theorem repaired_file_and_spoilt_defaults :
    let env : Environment := ⟨some "/home/me", none, none, some "+45", some "soon"⟩
    let held := "connect_timeout_secs = 0\nrequest_timeout_secs = 9\n".toList
    let tree := FileNode.directory [("bridge.toml", .file (Utf8.encode held))]
    let blank : Environment := ⟨none, none, some " ", none, none⟩
    let written := (loadOrWrite blank FileNode.empty "bridge.toml").1
    (loadOrWrite env tree "bridge.toml").1 = tree ∧
      (loadOrWrite env tree "bridge.toml").2 =
        .ok ⟨"/home/me/.warpnet", 45, 9, 300, 4194304, "warpnet-bridge/0.1.0"⟩ ∧
      load blank written "bridge.toml" =
        .ok ⟨".warpnet", 30, 30, 300, 4194304, "warpnet-bridge/0.1.0"⟩ ∧
      loadOrWrite blank written "bridge.toml" = (written, .error (.invalid .blankDataDir)) := by
  intro env held tree blank written
  have hload : load env tree "bridge.toml" =
      .ok ⟨"/home/me/.warpnet", 0, 9, 300, 4194304, "warpnet-bridge/0.1.0"⟩ := by
    decide +kernel
  have habsent : FileNode.empty.exists? "bridge.toml" = false := by decide +kernel
  have hadmits : FileNode.empty.Admits "bridge.toml" :=
    { root := ⟨[], rfl⟩
      made := by rfl
      free := ⟨["bridge.toml"], by rfl, by rintro ⟨entries, hentries⟩; cases hentries⟩
      notDirectory := by decide }
  obtain ⟨hsound, -, hsame, -⟩ := first_layer_counts env tree "bridge.toml" (.inr ⟨_, hload⟩)
  obtain ⟨-, hflaw, -, hnew, hagain⟩ :=
    first_layer_counts blank FileNode.empty "bridge.toml" (.inl ⟨habsent, hadmits⟩)
  refine ⟨hsame (by decide +kernel), (hsound (by decide +kernel)).trans (by decide +kernel),
    (hnew habsent).2 blank, hagain.trans ?_⟩
  rw [hflaw .blankDataDir (by decide +kernel)]

end NodeLink.Settings
