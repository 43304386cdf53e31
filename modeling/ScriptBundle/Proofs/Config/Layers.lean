import ScriptBundle.CommandLine.Report
import ScriptBundle.Proofs.Config.Settings

namespace ScriptBundle

open Toml

/-- The file along a path has settings: its text is a table, which they reflect under every key. -/
def Loads (fs : FileSystem) (path : String) (s : Settings) : Prop :=
  ∃ text table, fs.readText path = .ok text ∧ Document.parse text.toList = some table ∧
    ∀ key, s.Reflects key (table.find? key)

/-- A failure names a file that cannot be read, with the reason, or one that has no settings. -/
def Blames (fs : FileSystem) (path : String) (failure : Failure) : Prop :=
  (∃ e, fs.readText path = .error e ∧ failure = .readConfig path e.message) ∨
    (∃ text, fs.readText path = .ok text) ∧ failure = .parseConfig path

/-- What a file sets. Its paths start from its directory: absolute ones are kept, and so is the bare
name of an interpreter, which is looked up elsewhere. -/
def Settings.placed (path : String) (s : Settings) : Settings :=
  { s with
    src := s.src.map (Path.join (Config.directoryOf path))
    python := s.python.map fun python =>
      if 1 < (Path.components python).length then Path.join (Config.directoryOf path) python
      else python }

/-- What the command line sets. Flags are only set to say yes. -/
def Settings.ofOptions (o : CommandLine.Options) : Settings where
  src := o.paths
  extraModules := o.modules
  python := o.python
  copyShebang := if o.copyShebang then some true else none
  resolution := if o.strict then some .strict else none

namespace Config

/-- The value of the last layer that sets one. -/
def lastSet {α : Type} (value? : Settings → Option α) (layers : List Settings) : Option α :=
  (layers.filterMap value?).getLast?

/-- The configuration of some layers, later ones over earlier ones. -/
def ofLayers (layers : List Settings) : Config where
  src := layers.flatMap (·.src)
  extraModules := layers.flatMap (·.extraModules)
  python := lastSet (·.python) layers
  copyShebang := (lastSet (·.copyShebang) layers).getD false
  defaultShebang := (lastSet (·.defaultShebang) layers).getD Template.defaultShebang
  resolution := (lastSet (·.resolution) layers).getD .lenient

variable {fs : FileSystem} {path : String} {s : Settings} {c : Config}

/-! ## One more layer -/

theorem lastSet_concat {α : Type} (value? : Settings → Option α) (layers : List Settings)
    (s : Settings) :
    lastSet value? (layers ++ [s]) = (value? s).or (lastSet value? layers) := by
  unfold lastSet
  rw [List.filterMap_append]
  cases h : value? s with
  | none => simp [h]
  | some v => simp [h]

theorem getD_or {α : Type} (a b : Option α) (d : α) : (a.or b).getD d = a.getD (b.getD d) := by
  cases a <;> rfl

theorem layer_ofLayers (layers : List Settings) (path : String) (s : Settings) :
    (ofLayers layers).layer (directoryOf path) s = ofLayers (layers ++ [s.placed path]) := by
  simp only [ofLayers, layer, lastSet_concat, getD_or, List.flatMap_append, List.flatMap_cons,
    List.flatMap_nil, List.append_nil]
  rfl

theorem applyOptions_ofLayers (layers : List Settings) (o : CommandLine.Options) :
    CommandLine.applyOptions o (ofLayers layers) =
      ofLayers (layers ++ [Settings.ofOptions o]) := by
  simp only [ofLayers, CommandLine.applyOptions, lastSet_concat, getD_or, List.flatMap_append,
    List.flatMap_cons, List.flatMap_nil, List.append_nil]
  obtain ⟨_, _, _, _, _, copy, strict, _, _⟩ := o
  cases copy <;> cases strict <;> rfl

/-! ## Files -/

/-- A file loads if it has a text of which the settings are taken. -/
theorem loads_iff : Loads fs path s ↔
    ∃ text, fs.readText path = .ok text ∧
      (Document.parse text.toList).bind Settings.ofTable = some s := by
  constructor
  · rintro ⟨text, table, hread, hparse, h⟩
    have taken := (Settings.ofTable_eq_some_iff (Document.distinct_parse hparse)).2 h
    exact ⟨text, hread, by rw [hparse, Option.bind_some, taken]⟩
  · rintro ⟨text, hread, h⟩
    obtain ⟨table, hparse, taken⟩ := Option.bind_eq_some_iff.1 h
    exact ⟨text, table, hread, hparse,
      (Settings.ofTable_eq_some_iff (Document.distinct_parse hparse)).1 taken⟩

theorem outcome_layerFile_of_loads (h : Loads fs path s) :
    (layerFile fs c path).outcome = .ok (c.layer (directoryOf path) s) := by
  obtain ⟨text, hread, taken⟩ := loads_iff.1 h
  unfold layerFile
  rw [hread]
  simp only [taken]
  rfl

theorem outcome_layerFile_of_not (h : ¬ ∃ s, Loads fs path s) :
    ∃ failure, (layerFile fs c path).outcome = .error failure ∧ Blames fs path failure := by
  unfold layerFile
  cases hread : fs.readText path with
  | error e => exact ⟨_, rfl, .inl ⟨e, hread, rfl⟩⟩
  | ok text =>
    refine ⟨.parseConfig path, ?_, .inr ⟨⟨text, hread⟩, rfl⟩⟩
    cases taken : (Document.parse text.toList).bind Settings.ofTable with
    | none => simp only [taken]; rfl
    | some s => exact absurd ⟨s, loads_iff.2 ⟨text, hread, taken⟩⟩ h

theorem outcome_layerFiles_cons (rest : List String) :
    (layerFiles fs c (path :: rest)).outcome =
      (layerFile fs c path).outcome >>= fun c => (layerFiles fs c rest).outcome :=
  Trial.outcome_bind _ _

/-- Files that load are layers over those there are, and what follows them goes on from there. -/
theorem outcome_layerFiles_append {files : List (String × Settings)}
    (h : ∀ file ∈ files, Loads fs file.1 file.2) (layers : List Settings) (rest : List String) :
    (layerFiles fs (ofLayers layers) (files.map Prod.fst ++ rest)).outcome =
      (layerFiles fs (ofLayers (layers ++ files.map fun file => file.2.placed file.1))
        rest).outcome := by
  induction files generalizing layers with
  | nil => simp
  | cons file files ih =>
    have first := outcome_layerFile_of_loads (c := ofLayers layers)
      (h file List.mem_cons_self)
    rw [List.map_cons, List.cons_append, outcome_layerFiles_cons, first, Trial.ok_bind,
      layer_ofLayers, ih (fun f hf => h f (List.mem_cons_of_mem _ hf)), List.map_cons,
      List.append_assoc, List.singleton_append]

theorem exists_files {paths : List String} (h : ∀ p ∈ paths, ∃ s, Loads fs p s) :
    ∃ files : List (String × Settings), files.map Prod.fst = paths ∧
      ∀ file ∈ files, Loads fs file.1 file.2 := by
  induction paths with
  | nil => exact ⟨[], rfl, nofun⟩
  | cons p paths ih =>
    obtain ⟨s, hs⟩ := h p List.mem_cons_self
    obtain ⟨files, rfl, hfiles⟩ := ih fun q hq => h q (List.mem_cons_of_mem _ hq)
    refine ⟨(p, s) :: files, rfl, ?_⟩
    intro file hf
    rcases List.mem_cons.1 hf with rfl | hf
    · exact hs
    · exact hfiles file hf

theorem ofLayers_nil : ofLayers [] = {} := rfl

/-- **Later layers go over earlier ones.** If the files of user and project load, they and the
command line are the layers of the configuration. Otherwise there is none, and the first file that
does not load is blamed. -/
theorem layers_configure (fs : FileSystem) (user project : Option String) :
    (∀ files : List (String × Settings), files.map Prod.fst = user.toList ++ project.toList →
      (∀ file ∈ files, Loads fs file.1 file.2) →
      ∃ c, (loadFrom fs user project).outcome = .ok c ∧
        ∀ o, CommandLine.applyOptions o c =
          ofLayers (files.map (fun file => file.2.placed file.1) ++ [Settings.ofOptions o])) ∧
    (∀ before path later, user.toList ++ project.toList = before ++ path :: later →
      (∀ p ∈ before, ∃ s, Loads fs p s) → (¬ ∃ s, Loads fs path s) →
      ∃ failure, (loadFrom fs user project).outcome = .error failure ∧
        Blames fs path failure) := by
  unfold loadFrom
  constructor
  · intro files paths loads
    have run := outcome_layerFiles_append loads [] []
    rw [List.append_nil, List.nil_append, paths] at run
    refine ⟨_, run, ?_⟩
    intro o
    exact applyOptions_ofLayers _ o
  · intro before path later paths loads none
    obtain ⟨files, rfl, hfiles⟩ := exists_files loads
    obtain ⟨failure, hfails, blames⟩ := outcome_layerFile_of_not
      (c := ofLayers (files.map fun file => file.2.placed file.1)) none
    refine ⟨failure, ?_, blames⟩
    have run := outcome_layerFiles_append hfiles [] (path :: later)
    rw [List.nil_append] at run
    rw [paths, ← ofLayers_nil, run, outcome_layerFiles_cons, hfails, Trial.error_bind]

/-- A user's file and the file of a project below the working directory. -/
def layered : FileSystem where
  entries := [
    (["user.toml"], .file
      ("src = [\"/opt/shared\"]\nextra-modules = [\"plugins.base\"]\n" ++
        "python = \"bin/python\"\ncopy-shebang = true\n").toUTF8 0o644),
    (["app"], .directory),
    (["app", "plait.toml"], .file
      "src = [\"vendor\"]\npython = \"python3\"\nresolution = \"strict\"\n".toUTF8 0o644)]

def layeredUser : Settings where
  src := ["/opt/shared"]
  extraModules := ["plugins.base"]
  python := some "bin/python"
  copyShebang := some true

def layeredProject : Settings where
  src := ["vendor"]
  python := some "python3"
  resolution := some .strict

/-- Two files and the command line take effect in order, and a file that is missing behind one that
loads is blamed. -/
theorem layers_configure_layered :
    (Loads layered "/user.toml" layeredUser ∧ Loads layered "app/plait.toml" layeredProject ∧
      ∃ c, (loadFrom layered (some "/user.toml") (some "app/plait.toml")).outcome = .ok c ∧
        CommandLine.applyOptions { paths := ["extra"], modules := ["late"] } c =
          { src := ["/opt/shared", "app/vendor", "extra"]
            extraModules := ["plugins.base", "late"]
            python := some "python3"
            copyShebang := true
            resolution := .strict }) ∧
    (¬ ∃ s, Loads layered "none.toml" s) ∧
      (loadFrom layered (some "/user.toml") (some "none.toml")).outcome =
        .error (.readConfig "none.toml" IoError.notFound.message) := by
  have user : Loads layered "/user.toml" layeredUser :=
    loads_iff.2 ⟨_, rfl, by decide +kernel⟩
  have project : Loads layered "app/plait.toml" layeredProject :=
    loads_iff.2 ⟨_, rfl, by decide +kernel⟩
  have missing : layered.readText "none.toml" = .error .notFound := by decide +kernel
  have lost : ¬ ∃ s, Loads layered "none.toml" s := by
    rintro ⟨s, text, table, hread, -⟩
    rw [missing] at hread
    cases hread
  refine ⟨⟨user, project, ?_⟩, lost, ?_⟩
  · obtain ⟨c, hc, happly⟩ :=
      (layers_configure layered (some "/user.toml") (some "app/plait.toml")).1
        [("/user.toml", layeredUser), ("app/plait.toml", layeredProject)] rfl
        (by simp [user, project])
    refine ⟨c, hc, ?_⟩
    rw [happly]
    decide +kernel
  · obtain ⟨failure, hfails, blames⟩ :=
      (layers_configure layered (some "/user.toml") (some "none.toml")).2
        ["/user.toml"] "none.toml" [] rfl (by simpa using ⟨_, user⟩) lost
    rcases blames with ⟨e, he, rfl⟩ | ⟨⟨text, hread⟩, -⟩
    · rw [missing] at he
      cases he
      exact hfails
    · rw [missing] at hread
      cases hread

end Config

end ScriptBundle
