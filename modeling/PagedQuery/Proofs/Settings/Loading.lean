import Mathlib.Tactic
import PagedQuery.CommandLine.Outcome
import PagedQuery.Proofs.Paging.Limits
import PagedQuery.Proofs.Settings.Layers
import PagedQuery.Proofs.Toml.Kinds

/-!
# Loading settings

Files may give a setting any value, and loading takes it without a look at its type. Afterwards two
settings are compared with a number and one with two texts, and the path of the saved queries is
written out, which fails for values of other types. So there are refusals, other faults, and
settings that are returned with a value of another type than the declared one; each is told by an
exact condition.
-/

namespace PagedQuery

open PagedQuery.Number PagedQuery.Text

/-- Whether a value is of the type of a setting, which is that of its default, or a text if there is
none; truth values are integers. -/
def Setting.admits (s : Setting) (v : Value) : Bool :=
  match s.initial, v with
  | .null, .null | .null, .text _ | .text _, .text _ | .bool _, .bool _ | .int _, .int _
  | .int _, .bool _ => true
  | _, _ => false

/-- A fault whose text shows a value, unless that holds an integer that is too long for a text. -/
def Fault.showing (v : Value) (fault : Fault) : Fault := if v.showsLong then .longInteger else fault

section Values

variable {v : Value}

theorem Toml.IsValue.unquotable?_eq (h : IsValue v) :
    v.unquotable? = if v.showsLong then some .longInteger else none := by
  rw [Value.unquotable?, h.unshown?_eq_none]

theorem Toml.IsValue.written_eq (h : IsValue v) :
    v.written = if v.showsLong then .error .longInteger else .ok v.toText := by
  have hunwritable : v.unwritable? = v.unquotable? := by
    cases h <;> simp only [Value.unwritable?]
  rw [Value.written, hunwritable, h.unquotable?_eq]
  cases v.showsLong <;> rfl

/-- Numbers of documents are not decimal ones. -/
theorem Toml.IsValue.number?_eq (h : IsValue v) :
    v.number? = none ∨ ∃ d, v.number? = some (d, false) := by
  cases h with
  | bool | int | float => exact .inr ⟨_, rfl⟩
  | _ => exact .inl rfl

theorem Toml.IsValue.eq_text_of_text? (h : IsValue v) {s : String} (hs : v.text? = some s) :
    v = .text s := by
  cases h with
  | text => exact congrArg Value.text (Option.some.inj hs)
  | _ => cases hs

end Values

namespace Settings

/-- What is no number is not compared with one. -/
theorem isBelow_eq_error_iff {v : Value} (h : Toml.IsValue v) {n : Int} {e : Fault} :
    isBelow v n = .error e ↔
      v.number? = none ∧ e = .incomparable (.unsupported .less v.qualifiedTypeName "int") := by
  obtain hnone | ⟨d, hd⟩ := h.number?_eq
  · have hcompare : Value.compare .less v (.int n) = compareAtoms .less v (.int n) := by
      cases v <;> simp [Value.compare]
    have hint : (Value.int n).number? = some (.ofInt n, false) := rfl
    simp [isBelow, hcompare, compareAtoms, hnone, hint, Value.qualifiedTypeName, Value.typeName,
      @eq_comm _ e]
  · refine iff_of_false ?_ (by simp [hd])
    rw [isBelow, compare_eq_compareNumbers hd rfl, compareNumbers]
    cases compareDecimals d (.ofInt n) <;> simp

/-! ## Files -/

/-- What a file is refused for: its text. -/
inductive FileRefusal (w : Workspace) (path : String) : Fault → Prop
  | digits {text : String} {count left : Nat} {cs : List Char} :
      w.files.look path = .ok (some (.file text)) →
      Toml.read text = .error (⟨.tooManyDigits count, left⟩, cs) →
      FileRefusal w path (.tomlDigits count)
  | malformed {text : String} {failure : Toml.Failure} {cs : List Char} :
      w.files.look path = .ok (some (.file text)) → Toml.read text = .error (failure, cs) →
      (∀ count, failure.problem ≠ .tooManyDigits count) →
      FileRefusal w path (.malformedToml (failure.message cs))

/-- The faults, other than a refusal, of a path that leads to no text. -/
inductive FileFault (w : Workspace) (path : String) : Fault → Prop
  | tooLong : w.files.look path = .error (.nameTooLong (cleanPath path)) →
      FileFault w path (.file (.nameTooLong (cleanPath path)))
  | directory : w.files.look path = .ok (some .directory) →
      FileFault w path (.file (.isDirectory (cleanPath path)))

section Files

variable {w : Workspace} {file : Option String} {path : String} {e : Fault}

theorem look_eq_error {tree : FileTree} {error : FileError} (h : tree.look path = .error error) :
    error = .nameTooLong (cleanPath path) := by
  unfold FileTree.look at h
  split at h
  · cases h
  · split at h <;> cases h
    rfl

theorem layer_eq_error_iff :
    layer w path = .error e ↔ FileRefusal w path e ∨ FileFault w path e := by
  constructor
  · intro h
    unfold layer at h
    split at h
    · next error hlook =>
      cases h
      obtain rfl := look_eq_error hlook
      exact .inr (.tooLong hlook)
    · cases h
    · next hlook =>
      cases h
      exact .inr (.directory hlook)
    · next text hlook =>
      split at h
      · cases h
      · next hread =>
        cases h
        exact .inl (.digits hlook hread)
      · next failure cs hproblem hread =>
        cases h
        refine .inl (.malformed hlook hread fun count hcount => ?_)
        exact hproblem count failure.left (by rw [← hcount])
  · rintro (h | h)
    · cases h with
      | digits hlook hread => simp only [layer, hlook, hread]
      | malformed hlook hread hproblem =>
        simp only [layer, hlook, hread]
        split
        · next hread' => cases hread'
        · next hread' =>
          cases hread'
          exact absurd rfl (hproblem _)
        · next hread' =>
          cases hread'
          rfl
    · cases h with
      | tooLong hlook => simp only [layer, hlook]
      | directory hlook => simp only [layer, hlook]

/-- Reading the files fails at the home directory or at the first file that is not read. -/
theorem fileLayers_eq_error_iff :
    fileLayers w file = .error e ↔
      userFile w = .error e ∨
        ∃ paths, layerFiles w file = .ok paths ∧ FailsFirst (layer w) paths e := by
  have hmap : fileLayers w file = .error e ↔
      (fileLayers w file).map FileLayers.value = .error e := by
    cases fileLayers w file <;> simp [Except.map]
  have huser : layerFiles w file = .error e ↔ userFile w = .error e := by
    unfold layerFiles
    cases userFile w <;> simp [bind, Except.bind, pure, Except.pure]
  rw [hmap, map_value_fileLayers, ← huser]
  refine bind_eq_error_iff.trans
    (or_congr_right (exists_congr fun paths => and_congr_right fun _ => ?_))
  exact foldlM_eq_error_iff (f := layer w) fun _ _ => rfl

theorem userFile_eq_error (h : userFile w = .error e) : e = .homeUnknown := by
  unfold userFile at h
  dsimp only at h
  split at h <;> cases h
  rfl

end Files

/-! ## Variables -/

section Variables

variable {environment : List (String × String)} {settings : Settings} {e : Fault}

/-- A variable is refused whose text is no integer where the default is one. -/
theorem given_eq_error_iff {s : Setting} :
    s.given environment = .error e ↔
      ∃ raw n, lookup? s.environmentName environment = some raw ∧ s.initial = .int n ∧
        (∃ error, readLoose raw = .error error) ∧ e = .settingNotInteger s.environmentName raw := by
  unfold Setting.given Setting.ofText
  cases lookup? s.environmentName environment with
  | none => simp
  | some raw =>
    cases s.initial with
    | int n =>
      dsimp only
      cases hraw : readLoose raw with
      | error error => simp [Except.map, hraw, @eq_comm _ e]
      | ok k => simp [Except.map, hraw]
    | _ => simp [Except.map]

theorem fromVariables_eq_error_iff :
    settings.fromVariables environment = .error e ↔
      FailsFirst (fun s => s.given environment) Setting.all e :=
  foldlM_eq_error_iff (fromVariable_eq environment)

end Variables

/-! ## The path of the saved queries -/

theorem expandPath_eq_error_iff {settings : Settings} {w : Workspace} {e : Fault} :
    settings.expandPath w = .error e ↔
      (settings .queriesFile).isTruthy = true ∧
        ((∃ path, (settings .queriesFile).text? = some path ∧
            namesNoAccount (expandVariables w.environment (path.length + 1) path.toList) = true ∧
            e = .file .zeroCharacter) ∨
          (settings .queriesFile).text? = none ∧
            e = .notAPath (settings .queriesFile).qualifiedTypeName) := by
  unfold expandPath
  dsimp only
  split
  · next ht => simp_all
  · next ht =>
    simp only [Bool.not_eq_true', Bool.not_eq_false] at ht
    cases (settings .queriesFile).text? with
    | none => simp [ht, @eq_comm _ e]
    | some path =>
      dsimp only
      split <;> simp_all [@eq_comm _ e]

/-! ## The values that settings get -/

/-- A value that a setting can have: its default, or one of those of documents. -/
def IsHeld (s : Setting) (v : Value) : Prop := v = s.initial ∨ Toml.IsValue v

theorem IsHeld.isValue {s : Setting} {v : Value} (h : IsHeld s v) (hs : s.initial.isNull = false) :
    Toml.IsValue v := by
  obtain rfl | h := h
  · cases s with
    | databaseUrl | queriesFile => cases hs
    | databaseEcho | strictParsing => exact .bool _
    | defaultPageSize | maxPageSize => exact .int _
    | outputFormat | logLevel => exact .text _
  · exact h

section Held

variable {w : Workspace} {file : Option String} {layers : FileLayers} {s : Setting} {v : Value}

theorem isValue_of_layer {path : String} {table : List (String × Value)}
    (h : layer w path = .ok table) : ∀ e ∈ table, Toml.IsValue e.2 := by
  unfold layer at h
  split at h
  · cases h
  · cases h
    simp
  · cases h
  · split at h
    · next hread =>
      cases h
      exact Toml.isValue_of_read hread
    · cases h
    · cases h

theorem isValue_of_optionalLayer {path? : Option String} {table : List (String × Value)}
    (h : optionalLayer w path? = .ok table) : ∀ e ∈ table, Toml.IsValue e.2 := by
  cases path? with
  | none =>
    cases h
    simp
  | some path => exact isValue_of_layer h

/-- Files give settings values of documents. -/
theorem isHeld_value (h : fileLayers w file = .ok layers) (s : Setting) :
    IsHeld s (layers.value s) := by
  obtain ⟨⟨path, -, huser⟩, hproject, hnamed⟩ := fileLayers_eq_ok_iff.mp h
  unfold FileLayers.value
  cases hv : ((lookup? s.name layers.named).or (lookup? s.name layers.project)).or
      (lookup? s.name layers.user) with
  | none => exact .inl rfl
  | some v =>
    rw [Option.or_eq_some_iff, Option.or_eq_some_iff] at hv
    obtain (hv | ⟨-, hv⟩) | ⟨-, hv⟩ := hv
    · exact .inr (isValue_of_optionalLayer hnamed _ (mem_of_lookup? hv))
    · exact .inr (isValue_of_optionalLayer hproject _ (mem_of_lookup? hv))
    · exact .inr (isValue_of_layer huser _ (mem_of_lookup? hv))

/-- Variables give settings values of their types. -/
theorem admits_of_given {environment : List (String × String)}
    (h : s.given environment = .ok (some v)) : s.admits v = true ∧ Toml.IsValue v := by
  unfold Setting.given at h
  split at h
  · cases h
  · next raw _ =>
    obtain ⟨u, hu, hv⟩ := exists_of_map_eq_ok h
    cases hv
    unfold Setting.ofText at hu
    unfold Setting.admits
    cases hinitial : s.initial with
    | bool b =>
      rw [hinitial] at hu
      cases hu
      exact ⟨rfl, .bool _⟩
    | int n =>
      rw [hinitial] at hu
      dsimp only at hu
      split at hu <;> cases hu
      exact ⟨rfl, .int _⟩
    | _ =>
      rw [hinitial] at hu
      cases s <;> cases hinitial <;> cases hu <;> exact ⟨rfl, .text _⟩

theorem isHeld_finished (h : IsHeld s v) : IsHeld s (s.finished w v) := by
  unfold Setting.finished
  split
  · cases v.text? with
    | none => exact h
    | some path => exact .inr (.text _)
  · exact h

/-- Writing the path out does not change the type of its value. -/
theorem admits_finished (h : IsHeld s v) : s.admits (s.finished w v) = s.admits v := by
  unfold Setting.finished
  split
  · next hs =>
    obtain ⟨rfl, ht⟩ := hs
    cases hpath : v.text? with
    | none => rfl
    | some path =>
      obtain rfl | hvalue := h
      · cases ht
      · rw [hvalue.eq_text_of_text? hpath]
        rfl
  · rfl

end Held

/-- The settings that the layers give. -/
def AreComposed (w : Workspace) (file : Option String) (settings : Settings) : Prop :=
  ∃ layers, fileLayers w file = .ok layers ∧
    fromVariables layers.value w.environment = .ok settings

/-- The settings that the layers give, with the path of the saved queries written out. -/
def AreFinished (w : Workspace) (file : Option String) (settings : Settings) : Prop :=
  ∃ chosen, AreComposed w file chosen ∧ chosen.expandPath w = .ok settings

section Composed

variable {w : Workspace} {file : Option String} {settings : Settings}

theorem AreComposed.isHeld (h : AreComposed w file settings) (s : Setting) :
    IsHeld s (settings s) := by
  obtain ⟨layers, hlayers, hvariables⟩ := h
  obtain ⟨v?, hgiven, hv⟩ := fromVariables_eq_ok_iff.mp hvariables s
  rw [hv]
  cases v? with
  | none => exact isHeld_value hlayers s
  | some v => exact .inr (admits_of_given hgiven).2

theorem AreFinished.isHeld (h : AreFinished w file settings) (s : Setting) :
    IsHeld s (settings s) := by
  obtain ⟨chosen, hchosen, hfinished⟩ := h
  rw [eq_finished_of_expandPath hfinished s]
  exact isHeld_finished (hchosen.isHeld s)

end Composed

/-! ## Checks -/

/-- What settings are refused for: the default page size, the largest one or the format. -/
inductive CheckRefusal (settings : Settings) : Fault → Prop
  | size : isBelow (settings .defaultPageSize) 1 = .ok true →
      CheckRefusal settings (.showing (settings .defaultPageSize)
        (.defaultPageSizeTooSmall (settings .defaultPageSize).toText))
  | limit : isBelow (settings .defaultPageSize) 1 = .ok false →
      isBelow (settings .maxPageSize) 0 = .ok true →
      CheckRefusal settings (.showing (settings .maxPageSize)
        (.maxPageSizeNegative (settings .maxPageSize).toText))
  | format : isBelow (settings .defaultPageSize) 1 = .ok false →
      isBelow (settings .maxPageSize) 0 = .ok false →
      (settings .outputFormat).text?.any outputFormats.contains = false →
      CheckRefusal settings (.showing (settings .outputFormat)
        (.outputFormatUnknown (settings .outputFormat).quoted))

/-- The faults, other than a refusal, of checks: a page size that is no number. -/
inductive CheckFault (settings : Settings) : Fault → Prop
  | size : (settings .defaultPageSize).number? = none →
      CheckFault settings
        (.incomparable (.unsupported .less (settings .defaultPageSize).qualifiedTypeName "int"))
  | limit : isBelow (settings .defaultPageSize) 1 = .ok false →
      (settings .maxPageSize).number? = none →
      CheckFault settings
        (.incomparable (.unsupported .less (settings .maxPageSize).qualifiedTypeName "int"))

section Checks

variable {settings : Settings} (hheld : ∀ s, IsHeld s (settings s))
include hheld

theorem validate_of_size (h : isBelow (settings .defaultPageSize) 1 = .ok true) :
    settings.validate = .error (.showing (settings .defaultPageSize)
      (.defaultPageSizeTooSmall (settings .defaultPageSize).toText)) := by
  rw [validate, h, ((hheld .defaultPageSize).isValue rfl).written_eq, Fault.showing]
  cases (settings .defaultPageSize).showsLong <;> rfl

theorem validate_of_limit (hsize : isBelow (settings .defaultPageSize) 1 = .ok false)
    (h : isBelow (settings .maxPageSize) 0 = .ok true) :
    settings.validate = .error (.showing (settings .maxPageSize)
      (.maxPageSizeNegative (settings .maxPageSize).toText)) := by
  rw [validate, hsize, h, ((hheld .maxPageSize).isValue rfl).written_eq, Fault.showing]
  cases (settings .maxPageSize).showsLong <;> rfl

theorem validate_of_format (hsize : isBelow (settings .defaultPageSize) 1 = .ok false)
    (hlimit : isBelow (settings .maxPageSize) 0 = .ok false) :
    settings.validate =
      if (settings .outputFormat).text?.any outputFormats.contains then .ok ()
      else .error (.showing (settings .outputFormat)
        (.outputFormatUnknown (settings .outputFormat).quoted)) := by
  rw [validate, hsize, hlimit]
  cases (settings .outputFormat).text?.any outputFormats.contains with
  | true => rfl
  | false =>
    show Except.error ((settings .outputFormat).unquotable?.getD _) = _
    rw [((hheld .outputFormat).isValue rfl).unquotable?_eq, Fault.showing]
    cases (settings .outputFormat).showsLong <;> rfl

theorem validate_cases :
    settings.validate = .ok () ∨
      ∃ e, settings.validate = .error e ∧ (CheckRefusal settings e ∨ CheckFault settings e) := by
  cases hsize : isBelow (settings .defaultPageSize) 1 with
  | error e =>
    obtain ⟨hnone, rfl⟩ :=
      (isBelow_eq_error_iff ((hheld .defaultPageSize).isValue rfl)).mp hsize
    exact .inr ⟨_, by rw [validate, hsize]; rfl, .inr (.size hnone)⟩
  | ok small =>
    cases small with
    | true => exact .inr ⟨_, validate_of_size hheld hsize, .inl (.size hsize)⟩
    | false =>
      cases hlimit : isBelow (settings .maxPageSize) 0 with
      | error e =>
        obtain ⟨hnone, rfl⟩ :=
          (isBelow_eq_error_iff ((hheld .maxPageSize).isValue rfl)).mp hlimit
        exact .inr ⟨_, by rw [validate, hsize, hlimit]; rfl, .inr (.limit hsize hnone)⟩
      | ok negative =>
        cases negative with
        | true => exact .inr ⟨_, validate_of_limit hheld hsize hlimit, .inl (.limit hsize hlimit)⟩
        | false =>
          have hvalidate := validate_of_format hheld hsize hlimit
          cases hformat : (settings .outputFormat).text?.any outputFormats.contains with
          | true => exact .inl (by rw [hvalidate, hformat]; rfl)
          | false =>
            exact .inr ⟨_, by rw [hvalidate, hformat]; rfl, .inl (.format hsize hlimit hformat)⟩

theorem validate_eq_error_iff {e : Fault} :
    settings.validate = .error e ↔ CheckRefusal settings e ∨ CheckFault settings e := by
  constructor
  · intro h
    obtain hok | ⟨e', herror, hcases⟩ := validate_cases hheld
    · rw [hok] at h
      cases h
    · rw [herror] at h
      cases h
      exact hcases
  · have hbelow : ∀ s n, s.initial.isNull = false → (settings s).number? = none →
        isBelow (settings s) n =
          .error (.incomparable (.unsupported .less (settings s).qualifiedTypeName "int")) :=
      fun s n hs hnone => (isBelow_eq_error_iff ((hheld s).isValue hs)).mpr ⟨hnone, rfl⟩
    rintro ((h | ⟨hsize, h⟩ | ⟨hsize, hlimit, h⟩) | (h | ⟨hsize, h⟩))
    · exact validate_of_size hheld h
    · exact validate_of_limit hheld hsize h
    · rw [validate_of_format hheld hsize hlimit, h]
      rfl
    · rw [validate, hbelow .defaultPageSize 1 rfl h]
      rfl
    · rw [validate, hsize, hbelow .maxPageSize 0 rfl h]
      rfl

end Checks

/-! ## Loads -/

/-- What loading is refused for: the text of a file, a variable that is no integer, a name that no
account can have, or a value that a check rejects. -/
inductive LoadRefusal (w : Workspace) (file : Option String) : Fault → Prop
  | file {earlier later : List String} {path : String} {e : Fault} :
      layerFiles w file = .ok (earlier ++ path :: later) →
      (∀ path ∈ earlier, ∃ table, layer w path = .ok table) → FileRefusal w path e →
      LoadRefusal w file e
  | notInteger {layers : FileLayers} {earlier later : List Setting} {s : Setting} {raw : String}
      {n : Int} {error : IntegerError} :
      fileLayers w file = .ok layers → Setting.all = earlier ++ s :: later →
      (∀ s ∈ earlier, ∃ v?, s.given w.environment = .ok v?) →
      lookup? s.environmentName w.environment = some raw → s.initial = .int n →
      readLoose raw = .error error → LoadRefusal w file (.settingNotInteger s.environmentName raw)
  | account {settings : Settings} {path : String} :
      AreComposed w file settings → (settings .queriesFile).isTruthy = true →
      (settings .queriesFile).text? = some path →
      namesNoAccount (expandVariables w.environment (path.length + 1) path.toList) = true →
      LoadRefusal w file (.file .zeroCharacter)
  | check {settings : Settings} {e : Fault} :
      AreFinished w file settings → CheckRefusal settings e → LoadRefusal w file e

/-- The faults, other than a refusal, of loading: no home directory, a path that leads to no text,
saved queries at a value that is no text, or a page size that is no number. -/
inductive LoadFault (w : Workspace) (file : Option String) : Fault → Prop
  | home : userFile w = .error .homeUnknown → LoadFault w file .homeUnknown
  | file {earlier later : List String} {path : String} {e : Fault} :
      layerFiles w file = .ok (earlier ++ path :: later) →
      (∀ path ∈ earlier, ∃ table, layer w path = .ok table) → FileFault w path e →
      LoadFault w file e
  | path {settings : Settings} :
      AreComposed w file settings → (settings .queriesFile).isTruthy = true →
      (settings .queriesFile).text? = none →
      LoadFault w file (.notAPath (settings .queriesFile).qualifiedTypeName)
  | check {settings : Settings} {e : Fault} :
      AreFinished w file settings → CheckFault settings e → LoadFault w file e

section Loads

variable {w : Workspace} {file : Option String} {settings : Settings} {e : Fault}

/-- Loading fails in one of its four stages. -/
theorem load_eq_error_iff :
    load w file = .error e ↔
      fileLayers w file = .error e ∨
      (∃ layers, fileLayers w file = .ok layers ∧
        fromVariables layers.value w.environment = .error e) ∨
      (∃ settings, AreComposed w file settings ∧ settings.expandPath w = .error e) ∨
      ∃ settings, AreFinished w file settings ∧ settings.validate = .error e := by
  rw [load_eq]
  refine bind_eq_error_iff.trans (or_congr_right ?_)
  simp only [bind, bind_eq_error_iff]
  constructor
  · rintro ⟨layers, hlayers, h | ⟨chosen, hchosen, h | ⟨settings, hsettings, h | ⟨-, -, h⟩⟩⟩⟩
    · exact .inl ⟨layers, hlayers, h⟩
    · exact .inr (.inl ⟨chosen, ⟨layers, hlayers, hchosen⟩, h⟩)
    · exact .inr (.inr ⟨settings, ⟨chosen, ⟨layers, hlayers, hchosen⟩, hsettings⟩, h⟩)
    · cases h
  · rintro (⟨layers, hlayers, h⟩ | ⟨chosen, ⟨layers, hlayers, hchosen⟩, h⟩ |
      ⟨settings, ⟨chosen, ⟨layers, hlayers, hchosen⟩, hsettings⟩, h⟩)
    · exact ⟨layers, hlayers, .inl h⟩
    · exact ⟨layers, hlayers, .inr ⟨chosen, hchosen, .inl h⟩⟩
    · exact ⟨layers, hlayers, .inr ⟨chosen, hchosen, .inr ⟨settings, hsettings, .inl h⟩⟩⟩

theorem refusal_or_fault_of_fileLayers (h : fileLayers w file = .error e) :
    LoadRefusal w file e ∨ LoadFault w file e := by
  obtain h | ⟨_, hpaths, earlier, path, later, rfl, hearlier, hpath⟩ :=
    fileLayers_eq_error_iff.mp h
  · obtain rfl := userFile_eq_error h
    exact .inr (.home h)
  · exact (layer_eq_error_iff.mp hpath).imp (.file hpaths hearlier) (.file hpaths hearlier)

theorem refusal_or_fault_of_expandPath (hcomposed : AreComposed w file settings)
    (h : settings.expandPath w = .error e) : LoadRefusal w file e ∨ LoadFault w file e := by
  obtain ⟨ht, ⟨path, hpath, hnone, rfl⟩ | ⟨hpath, rfl⟩⟩ := expandPath_eq_error_iff.mp h
  · exact .inl (.account hcomposed ht hpath hnone)
  · exact .inr (.path hcomposed ht hpath)

theorem LoadRefusal.load_eq (h : LoadRefusal w file e) : load w file = .error e := by
  rw [load_eq_error_iff]
  cases h with
  | file hpaths hearlier h =>
    exact .inl (fileLayers_eq_error_iff.mpr (.inr ⟨_, hpaths, _, _, _, rfl, hearlier,
      layer_eq_error_iff.mpr (.inl h)⟩))
  | notInteger hlayers hall hearlier hraw hinitial hread =>
    refine .inr (.inl ⟨_, hlayers, fromVariables_eq_error_iff.mpr
      ⟨_, _, _, hall, hearlier, ?_⟩⟩)
    exact given_eq_error_iff.mpr ⟨_, _, hraw, hinitial, ⟨_, hread⟩, rfl⟩
  | account hcomposed ht hpath hnone =>
    exact .inr (.inr (.inl ⟨_, hcomposed, expandPath_eq_error_iff.mpr
      ⟨ht, .inl ⟨_, hpath, hnone, rfl⟩⟩⟩))
  | check hfinished h =>
    exact .inr (.inr (.inr ⟨_, hfinished, (validate_eq_error_iff hfinished.isHeld).mpr (.inl h)⟩))

theorem LoadFault.load_eq (h : LoadFault w file e) : load w file = .error e := by
  rw [load_eq_error_iff]
  cases h with
  | home h => exact .inl (fileLayers_eq_error_iff.mpr (.inl h))
  | file hpaths hearlier h =>
    exact .inl (fileLayers_eq_error_iff.mpr (.inr ⟨_, hpaths, _, _, _, rfl, hearlier,
      layer_eq_error_iff.mpr (.inr h)⟩))
  | path hcomposed ht hpath =>
    exact .inr (.inr (.inl ⟨_, hcomposed, expandPath_eq_error_iff.mpr
      ⟨ht, .inr ⟨hpath, rfl⟩⟩⟩))
  | check hfinished h =>
    exact .inr (.inr (.inr ⟨_, hfinished, (validate_eq_error_iff hfinished.isHeld).mpr (.inr h)⟩))

theorem load_eq_error_iff_refusal_or_fault :
    load w file = .error e ↔ LoadRefusal w file e ∨ LoadFault w file e := by
  refine ⟨fun h => ?_, fun h => h.elim LoadRefusal.load_eq LoadFault.load_eq⟩
  obtain h | ⟨layers, hlayers, h⟩ | ⟨chosen, hchosen, h⟩ | ⟨settings, hsettings, h⟩ :=
    load_eq_error_iff.mp h
  · exact refusal_or_fault_of_fileLayers h
  · obtain ⟨earlier, s, later, hall, hearlier, hs⟩ := fromVariables_eq_error_iff.mp h
    obtain ⟨raw, n, hraw, hinitial, ⟨error, hread⟩, rfl⟩ := given_eq_error_iff.mp hs
    exact .inl (.notInteger hlayers hall hearlier hraw hinitial hread)
  · exact refusal_or_fault_of_expandPath hchosen h
  · exact ((validate_eq_error_iff hsettings.isHeld).mp h).imp (.check hsettings) (.check hsettings)

/-! ### What becomes of the faults -/

open CommandLine (isSettingsError)

theorem isSettingsError_showing {v : Value} {fault : Fault} (h : isSettingsError fault = true) :
    isSettingsError (.showing v fault) = true := by
  unfold Fault.showing
  split
  · rfl
  · exact h

/-- What is refused is reported as an error of the settings. -/
theorem LoadRefusal.isSettingsError (h : LoadRefusal w file e) : isSettingsError e = true := by
  cases h with
  | file _ _ h => cases h <;> rfl
  | notInteger | account => rfl
  | check _ h => cases h <;> exact isSettingsError_showing rfl

theorem LoadFault.not_isSettingsError (h : LoadFault w file e) :
    CommandLine.isSettingsError e = false := by
  cases h with
  | home | path => rfl
  | file _ _ h => cases h <;> rfl
  | check _ h => cases h <;> rfl

/-- A setting of loaded settings has a value of its type if it has a variable, or else if the value
that the files give it, or its default, is one. -/
theorem admits_iff_of_load (h : load w file = .ok settings) :
    ∃ layers, fileLayers w file = .ok layers ∧ ∀ s : Setting,
      s.admits (settings s) = true ↔
        (lookup? s.environmentName w.environment).isSome ∨ s.admits (layers.value s) = true := by
  obtain ⟨layers, hlayers, chosen, hchosen, hfinished, -⟩ := load_eq_ok_iff.mp h
  have hcomposed : AreComposed w file chosen :=
    ⟨layers, hlayers, fromVariables_eq_ok_iff.mpr hchosen⟩
  refine ⟨layers, hlayers, fun s => ?_⟩
  rw [eq_finished_of_expandPath hfinished s, admits_finished (hcomposed.isHeld s)]
  obtain ⟨v?, hgiven, hv⟩ := hchosen s
  cases hraw : lookup? s.environmentName w.environment with
  | none =>
    rw [Setting.given, hraw] at hgiven
    cases hgiven
    rw [hv]
    simp
  | some raw =>
    have hsome : ∃ v, v? = some v := by
      rw [Setting.given, hraw] at hgiven
      obtain ⟨v, -, rfl⟩ := exists_of_map_eq_ok hgiven
      exact ⟨v, rfl⟩
    obtain ⟨v, rfl⟩ := hsome
    rw [hv]
    simp [(admits_of_given hgiven).1]

end Loads

/-- Loading returns settings that pass the checks, each of its type except where a file gives it a
value of another one, or fails. It fails with the listed refusals, which are reported as errors of
the settings, and with the listed other faults, which are not. -/
theorem load_refuses_or_fails (w : Workspace) (file : Option String) :
    (∀ settings, load w file = .ok settings →
      settings.validate = .ok () ∧
      ∃ layers, fileLayers w file = .ok layers ∧ ∀ s : Setting,
        s.admits (settings s) = true ↔
          (lookup? s.environmentName w.environment).isSome ∨ s.admits (layers.value s) = true) ∧
    (∀ e, load w file = .error e ↔ LoadRefusal w file e ∨ LoadFault w file e) ∧
    (∀ e, LoadRefusal w file e → CommandLine.isSettingsError e = true) ∧
    ∀ e, LoadFault w file e → CommandLine.isSettingsError e = false := by
  refine ⟨fun settings h => ⟨?_, admits_iff_of_load h⟩,
    fun e => load_eq_error_iff_refusal_or_fault, fun e h => h.isSettingsError,
    fun e h => h.not_isSettingsError⟩
  obtain ⟨-, -, -, -, -, hvalid⟩ := load_eq_ok_iff.mp h
  exact hvalid

/-- A workspace with a project file. -/
def projectWorkspace (text : String) : Workspace where
  files.files := [(["querykit.toml"], text)]

/-- A page size that is a text. -/
def textSize : Workspace := projectWorkspace "default_page_size = 'x'"

/-- The comparison that a result fails with, if it does. -/
def comparison? : Except Fault Settings → Option CompareError
  | .error (.incomparable e) => some e
  | _ => none

theorem load_textSize :
    load textSize none = .error (.incomparable (.unsupported .less "str" "int")) := by
  have hcomparison : comparison? (load textSize none) = some (.unsupported .less "str" "int") := by
    decide +kernel
  unfold comparison? at hcomparison
  split at hcomparison
  · next hload => rw [hload, Option.some.inj hcomparison]
  · cases hcomparison

/-- Loading it fails in a check, and not by a refusal. -/
theorem textSize_fault :
    LoadFault textSize none (.incomparable (.unsupported .less "str" "int")) := by
  obtain ⟨-, herror, hrefusal, -⟩ := load_refuses_or_fails textSize none
  obtain h | h := (herror _).mp load_textSize
  · exact absurd (hrefusal _ h) (by decide)
  · exact h

/-- A page size that is a text is no error of the settings, and an integer stays where a truth value
is declared. -/
theorem mistypedSettings_load :
    (load textSize none = .error (.incomparable (.unsupported .less "str" "int")) ∧
      CommandLine.isSettingsError (.incomparable (.unsupported .less "str" "int")) = false) ∧
    ∃ settings, load (projectWorkspace "database_echo = 5") none = .ok settings ∧
      Setting.databaseEcho.admits (settings .databaseEcho) = false := by
  have hecho : (load (projectWorkspace "database_echo = 5") none).toOption.map
      (fun settings => Setting.databaseEcho.admits (settings .databaseEcho)) = some false := by
    decide +kernel
  exact ⟨⟨load_textSize, by decide⟩, exists_of_toOption_map_eq_some hecho⟩

end Settings

end PagedQuery
