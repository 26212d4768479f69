import Mathlib.Tactic
import PagedQuery.Proofs.Related
import PagedQuery.Settings

/-!
# Settings by layers

Loading puts one layer over another: files over the defaults, in their order, and the environment
over the files. At each setting this is a choice of its own, that of the last layer that gives it,
and only the path of the saved queries is written out afterwards. What no layer is read from does
not count: other files, and other names in the files.
-/

namespace PagedQuery

/-- What the files give: the user's file, the first project file and the file that is named
explicitly. -/
structure FileLayers where
  user : List (String × Value)
  project : List (String × Value)
  named : List (String × Value)

/-- The value of a setting in the last file that gives it, its default if none does. -/
def FileLayers.value (layers : FileLayers) (s : Setting) : Value :=
  (((lookup? s.name layers.named).or (lookup? s.name layers.project)).or
    (lookup? s.name layers.user)).getD s.initial

namespace Setting

variable (s : Setting)

/-- The value that an environment variable gives a setting, if there is one. -/
def given (environment : List (String × String)) : Except Fault (Option Value) :=
  match lookup? s.environmentName environment with
  | none => .ok none
  | some raw => (s.ofText raw).map some

/-- The value of a setting once it is chosen: the path of the saved queries is written out. -/
def finished (w : Workspace) (v : Value) : Value :=
  if s = .queriesFile ∧ v.isTruthy = true then
    (v.text?.map fun path => .text (w.expand path)).getD v
  else v

end Setting

namespace Settings

/-- The layer of a file, if there is one. -/
def optionalLayer (w : Workspace) : Option String → Except Fault (List (String × Value))
  | none => .ok []
  | some path => layer w path

/-- The layers of the files of a workspace, of which one may be named explicitly. -/
def fileLayers (w : Workspace) (file : Option String) : Except Fault FileLayers := do
  let user ← layer w (← userFile w)
  let project ← optionalLayer w (projectFiles.find? w.exists?)
  let named ← optionalLayer w (file.filter (· != ""))
  return ⟨user, project, named⟩

/-! ## Variables -/

section Variables

variable {environment : List (String × String)} {settings result : Settings}

theorem set_self (settings : Settings) (s : Setting) : settings.set s (settings s) = settings := by
  funext t
  unfold set
  split
  · next ht => rw [ht]
  · rfl

theorem fromVariable_eq (environment : List (String × String)) (settings : Settings) (s : Setting) :
    fromVariable environment settings s =
      (s.given environment).map fun v? => settings.set s (v?.getD (settings s)) := by
  unfold fromVariable Setting.given
  cases lookup? s.environmentName environment with
  | none => exact congrArg Except.ok (set_self settings s).symm
  | some raw =>
    dsimp only
    cases s.ofText raw <;> rfl

/-- Variables read one after the other change their own settings only. -/
theorem foldlM_fromVariable_eq_ok_iff {ss : List Setting} (hnodup : ss.Nodup) :
    ss.foldlM (fromVariable environment) settings = .ok result ↔
      ∀ s, ∃ v?, (if s ∈ ss then s.given environment else .ok none) = .ok v? ∧
        result s = v?.getD (settings s) := by
  induction ss generalizing settings with
  | nil =>
    rw [List.foldlM_nil]
    simp [pure, Except.pure, funext_iff, eq_comm]
  | cons s ss ih =>
    obtain ⟨hs, hnodup⟩ := List.nodup_cons.mp hnodup
    rw [List.foldlM_cons, fromVariable_eq]
    cases hgiven : s.given environment with
    | error e =>
      refine iff_of_false (by simp [bind, Except.bind, Except.map]) fun h => ?_
      obtain ⟨v?, hv, -⟩ := h s
      simp [hgiven] at hv
    | ok v? =>
      refine (ih hnodup).trans (forall_congr' fun t => ?_)
      by_cases ht : t = s
      · subst ht
        simp [hs, hgiven, set]
      · simp [ht, set]

theorem fromVariables_eq_ok_iff :
    settings.fromVariables environment = .ok result ↔
      ∀ s, ∃ v?, s.given environment = .ok v? ∧ result s = v?.getD (settings s) := by
  rw [fromVariables, foldlM_fromVariable_eq_ok_iff (by decide)]
  simp [Setting.mem_all]

end Variables

/-! ## Files -/

section Files

variable {w w' : Workspace} {file : Option String} {layers : FileLayers}

theorem fileLayers_eq_ok_iff :
    fileLayers w file = .ok layers ↔
      (∃ path, userFile w = .ok path ∧ layer w path = .ok layers.user) ∧
      optionalLayer w (projectFiles.find? w.exists?) = .ok layers.project ∧
      optionalLayer w (file.filter (· != "")) = .ok layers.named := by
  constructor
  · intro h
    obtain ⟨path, hpath, h⟩ := exists_of_bind_eq_ok h
    obtain ⟨user, huser, h⟩ := exists_of_bind_eq_ok h
    obtain ⟨project, hproject, h⟩ := exists_of_bind_eq_ok h
    obtain ⟨named, hnamed, h⟩ := exists_of_bind_eq_ok h
    cases h
    exact ⟨⟨path, hpath, huser⟩, hproject, hnamed⟩
  · rintro ⟨⟨path, hpath, huser⟩, hproject, hnamed⟩
    rw [fileLayers, hpath, hproject, hnamed]
    simp only [bind, Except.bind, huser]
    rfl

theorem foldlM_optional (settings : Settings) (path? : Option String) :
    path?.toList.foldlM (fun settings path => (layer w path).map (under settings)) settings =
      (optionalLayer w path?).map settings.under := by
  cases path? with
  | none => rfl
  | some path => exact bind_pure _

/-- Layers over each other give each setting the value of the last one that has it. -/
theorem under_under_eq_value (layers : FileLayers) :
    ((initial.under layers.user).under layers.project).under layers.named = layers.value := by
  funext s
  simp only [under, FileLayers.value, Option.getD_or]
  rfl

theorem foldlM_layers (w : Workspace) (path : String) (project? named? : Option String) :
    (path :: project?.toList ++ named?.toList).foldlM
        (fun settings path => (layer w path).map (under settings)) initial = do
      let user ← layer w path
      let project ← optionalLayer w project?
      let named ← optionalLayer w named?
      return FileLayers.value ⟨user, project, named⟩ := by
  rw [List.cons_append, List.foldlM_cons]
  cases layer w path with
  | error e => rfl
  | ok user =>
    show List.foldlM _ (initial.under user) _ = _
    rw [List.foldlM_append, foldlM_optional]
    cases optionalLayer w project? with
    | error e => rfl
    | ok project =>
      show List.foldlM _ ((initial.under user).under project) _ = _
      rw [foldlM_optional]
      cases optionalLayer w named? with
      | error e => rfl
      | ok named => exact congrArg Except.ok (under_under_eq_value ⟨user, project, named⟩)

theorem map_value_fileLayers (w : Workspace) (file : Option String) :
    (fileLayers w file).map FileLayers.value = layerFiles w file >>= fun paths =>
      paths.foldlM (fun settings path => (layer w path).map (under settings)) initial := by
  unfold fileLayers layerFiles
  cases userFile w with
  | error e => rfl
  | ok path =>
    simp only [bind, Except.bind, pure, Except.pure]
    rw [foldlM_layers]
    cases layer w path with
    | error e => rfl
    | ok user =>
      cases optionalLayer w (projectFiles.find? w.exists?) with
      | error e => rfl
      | ok project => cases optionalLayer w (file.filter (· != "")) <;> rfl

/-- Settings are loaded in four stages: files, variables, the path of the saved queries, and
checks. -/
theorem load_eq (w : Workspace) (file : Option String) :
    load w file = do
      let layers ← fileLayers w file
      let settings ← fromVariables layers.value w.environment
      let settings ← settings.expandPath w
      settings.validate
      return settings := by
  rw [load, ← bind_assoc, ← map_value_fileLayers]
  cases fileLayers w file <;> rfl

theorem expand_congr (h : w'.environment = w.environment) : w'.expand = w.expand := by
  funext path
  simp only [Workspace.expand, Workspace.expandHome, Workspace.accountHome?, Workspace.home, h]

theorem userFile_congr (h : w'.environment = w.environment) : userFile w' = userFile w := by
  simp only [userFile, Workspace.expandHome, Workspace.accountHome?, Workspace.home, h]

theorem expandPath_congr (h : w'.environment = w.environment) (settings : Settings) :
    settings.expandPath w' = settings.expandPath w := by
  simp only [expandPath, h, expand_congr h]

/-- Only the path of the saved queries is written out. -/
theorem eq_finished_of_expandPath {settings result : Settings}
    (h : settings.expandPath w = .ok result) (s : Setting) :
    result s = s.finished w (settings s) := by
  unfold expandPath at h
  unfold Setting.finished
  dsimp only at h
  split at h
  · next hfalsy =>
    cases h
    refine (if_neg ?_).symm
    rintro ⟨rfl, ht⟩
    rw [ht] at hfalsy
    cases hfalsy
  · next ht =>
    simp only [Bool.not_eq_true', Bool.not_eq_false] at ht
    split at h
    · next path hpath =>
      split at h
      · cases h
      · cases h
        by_cases hs : s = .queriesFile
        · rw [if_pos ⟨hs, hs ▸ ht⟩, hs, hpath]
          exact if_pos rfl
        · rw [if_neg fun hand => hs hand.1]
          exact if_neg hs
    · cases h

end Files

/-! ## Loads -/

section Loads

variable {w w' : Workspace} {file : Option String} {layers layers' : FileLayers}
  {settings : Settings}

theorem load_eq_ok_iff :
    load w file = .ok settings ↔
      ∃ layers, fileLayers w file = .ok layers ∧
        ∃ chosen : Settings,
          (∀ s, ∃ v?, s.given w.environment = .ok v? ∧ chosen s = v?.getD (layers.value s)) ∧
          chosen.expandPath w = .ok settings ∧ settings.validate = .ok () := by
  simp only [← fromVariables_eq_ok_iff]
  rw [load_eq]
  constructor
  · intro h
    obtain ⟨layers, hlayers, h⟩ := exists_of_bind_eq_ok h
    obtain ⟨chosen, hchosen, h⟩ := exists_of_bind_eq_ok h
    obtain ⟨result, hresult, h⟩ := exists_of_bind_eq_ok h
    obtain ⟨⟨⟩, hvalid, h⟩ := exists_of_bind_eq_ok h
    cases h
    exact ⟨layers, hlayers, chosen, hchosen, hresult, hvalid⟩
  · rintro ⟨layers, hlayers, chosen, hchosen, hresult, hvalid⟩
    simp only [hlayers, hchosen, hresult, hvalid, bind, Except.bind]
    rfl

/-- The files that settings are read from. -/
def IsRead (w : Workspace) (file : Option String) (path : String) : Prop :=
  userFile w = .ok path ∨ path ∈ projectFiles.find? w.exists? ∨ path ∈ file.filter (· != "")

/-- Whether two tables give each setting the same value or none. -/
def TablesAlike (table table' : List (String × Value)) : Prop :=
  ∀ s : Setting, lookup? s.name table' = lookup? s.name table

/-- Two workspaces give the settings alike: they have the same variables, the same project file
comes first, and each file that is read gives the settings the same values in both. -/
structure GivesAlike (w w' : Workspace) (file : Option String) : Prop where
  environment : w'.environment = w.environment
  project : projectFiles.find? w'.exists? = projectFiles.find? w.exists?
  tables : ∀ path, IsRead w file path → ∀ table, layer w path = .ok table →
    ∃ table', layer w' path = .ok table' ∧ TablesAlike table table'

theorem GivesAlike.exists_optionalLayer (h : GivesAlike w w' file) {path? : Option String}
    {table : List (String × Value)} (hread : ∀ path ∈ path?, IsRead w file path)
    (htable : optionalLayer w path? = .ok table) :
    ∃ table', optionalLayer w' path? = .ok table' ∧ TablesAlike table table' := by
  cases path? with
  | none => exact ⟨table, htable, fun _ => rfl⟩
  | some path => exact h.tables path (hread path rfl) table htable

theorem GivesAlike.exists_fileLayers (h : GivesAlike w w' file)
    (hlayers : fileLayers w file = .ok layers) :
    ∃ layers', fileLayers w' file = .ok layers' ∧ layers'.value = layers.value := by
  obtain ⟨⟨path, hpath, huser⟩, hproject, hnamed⟩ := fileLayers_eq_ok_iff.mp hlayers
  obtain ⟨user, huser, hu⟩ := h.tables path (.inl hpath) _ huser
  obtain ⟨project, hproject, hp⟩ :=
    h.exists_optionalLayer (fun path hpath => .inr (.inl hpath)) hproject
  obtain ⟨named, hnamed, hn⟩ :=
    h.exists_optionalLayer (fun path hpath => .inr (.inr hpath)) hnamed
  refine ⟨⟨user, project, named⟩, fileLayers_eq_ok_iff.mpr
    ⟨⟨path, (userFile_congr h.environment).trans hpath, huser⟩, h.project ▸ hproject, hnamed⟩, ?_⟩
  funext s
  simp only [FileLayers.value, hu s, hp s, hn s]

theorem load_congr (henvironment : w'.environment = w.environment)
    (hlayers : fileLayers w file = .ok layers) (hlayers' : fileLayers w' file = .ok layers')
    (hvalue : layers'.value = layers.value) : load w' file = load w file := by
  rw [load_eq, load_eq, hlayers, hlayers', henvironment]
  simp only [bind, Except.bind, hvalue, expandPath_congr henvironment]

/-- Settings that are loaded have, each for itself, the value of the last layer that gives it: the
environment, whose text is read by the kind of the default, the file named explicitly, the first
project file, the user's file, or the default; the path of the saved queries, and nothing else, is
then written out. Another workspace that gives the settings alike, whatever other files and other
names it has, is loaded to the same settings. -/
theorem load_layered (h : load w file = .ok settings) :
    (∃ layers, fileLayers w file = .ok layers ∧
      ∀ s, ∃ v?, s.given w.environment = .ok v? ∧
        settings s = s.finished w (v?.getD (layers.value s))) ∧
    ∀ w', GivesAlike w w' file → load w' file = .ok settings := by
  obtain ⟨layers, hlayers, chosen, hchosen, hfinished, -⟩ := load_eq_ok_iff.mp h
  refine ⟨⟨layers, hlayers, fun s => ?_⟩, fun w' halike => ?_⟩
  · obtain ⟨v?, hgiven, hv⟩ := hchosen s
    exact ⟨v?, hgiven, (eq_finished_of_expandPath hfinished s).trans (by rw [hv])⟩
  · obtain ⟨layers', hlayers', hvalue⟩ := halike.exists_fileLayers hlayers
    exact (load_congr halike.environment hlayers hlayers' hvalue).trans h

end Loads

/-- A workspace with a file in each layer, perhaps others, and a variable. -/
def shelfWorkspace (others : List (Place × String)) : Workspace where
  files.files := [
    (["/", "h", ".config", "querykit", "config.toml"], "default_page_size=5\nlog_level='INFO'"),
    ([".querykitrc"], "default_page_size=25\nmax_page_size=50\nshelf=3\nqueries_file='~/q'"),
    (["e"], "max_page_size=100\nstrict_parsing=false")] ++ others
  environment := [("HOME", "/h"), ("QUERYKIT_STRICT_PARSING", " Yes ")]

/-- A project file that cannot be read, after the one that counts. -/
def laterProjectFile : Place × String := ([".querykit", "config.toml"], "log_level=")

theorem shown_shelfWorkspace :
    (load (shelfWorkspace []) (some "e")).toOption.map
        (fun settings => Setting.all.map fun s => (settings s).toText) =
      some ["None", "False", "25", "100", "True", "/h/q", "table", "INFO"] := by
  decide +kernel

theorem givesAlike_shelfWorkspace :
    GivesAlike (shelfWorkspace []) (shelfWorkspace [laterProjectFile]) (some "e") where
  environment := rfl
  project := by decide
  tables := by
    have hproject : projectFiles.find? (shelfWorkspace []).exists? = some ".querykitrc" := by
      decide
    have huser : (userFile (shelfWorkspace [])).toOption =
        some "/h/.config/querykit/config.toml" := by decide
    have hlook : ∀ path ∈ ["/h/.config/querykit/config.toml", ".querykitrc", "e"],
        (shelfWorkspace [laterProjectFile]).files.look path =
          (shelfWorkspace []).files.look path := by decide
    intro path hread table htable
    refine ⟨table, ?_, fun _ => rfl⟩
    rw [layer, hlook path ?_, ← layer, htable]
    obtain hpath | hpath | hpath := hread
    · rw [hpath] at huser
      simp [Option.some.inj huser]
    · rw [hproject] at hpath
      simp [Option.some.inj hpath]
    · simp [← Option.some.inj hpath]

/-- Each layer gives what no later one does, and the later project file has no effect. -/
theorem shelfWorkspace_layered :
    ∃ settings, load (shelfWorkspace []) (some "e") = .ok settings ∧
      Setting.all.map (fun s => (settings s).toText) =
        ["None", "False", "25", "100", "True", "/h/q", "table", "INFO"] ∧
      (∃ layers, fileLayers (shelfWorkspace []) (some "e") = .ok layers ∧
        ∀ s, ∃ v?, s.given (shelfWorkspace []).environment = .ok v? ∧
          settings s = s.finished (shelfWorkspace []) (v?.getD (layers.value s))) ∧
      load (shelfWorkspace [laterProjectFile]) (some "e") = .ok settings := by
  obtain ⟨settings, hload, hshown⟩ := exists_of_toOption_map_eq_some shown_shelfWorkspace
  obtain ⟨hlayers, hothers⟩ := load_layered hload
  exact ⟨settings, hload, hshown, hlayers, hothers _ givesAlike_shelfWorkspace⟩

end Settings

end PagedQuery
