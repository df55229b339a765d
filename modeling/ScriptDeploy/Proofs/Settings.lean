import ScriptDeploy.Config
import ScriptDeploy.Proofs.RemoteLayout
import Mathlib.Data.List.DropRight

/-! # Resolved settings

Each setting of a run comes from the first layer that gives it: the command line, then the
configuration file, then the built-in default (`FirstGiven`). A value given on the command line
wins even when it is blank, so a blank token given there hides the token of the file and the run
has none. Four settings are cleaned afterwards: a blank token counts as none, the API base loses
the slashes at its end, a relative root is joined onto the working directory, and the source
extension loses the dots at its start (`Resolves`).

Whatever the layers hold, the settings resolved in an absolute working directory are well formed
(`DeployConfig.WellFormed`), which is what the later stages take for granted: remote paths are
read off absolute roots, and addresses are formed by writing `/w/...` after the API base.
-/

namespace ScriptDeploy

set_option autoImplicit false

/-- `FirstGiven layers d v`: `v` is given by the first layer that gives a value, or is the
default `d` when no layer does. -/
inductive FirstGiven {α : Type} : List (Option α) → α → α → Prop
  | given {v d : α} {rest : List (Option α)} : FirstGiven (some v :: rest) d v
  | skipped {d v : α} {rest : List (Option α)} : FirstGiven rest d v → FirstGiven (none :: rest) d v
  | byDefault {d : α} : FirstGiven [] d d

namespace FirstGiven

variable {α : Type}

theorem unique {layers : List (Option α)} {d v w : α} (hv : FirstGiven layers d v)
    (hw : FirstGiven layers d w) : v = w := by
  induction hv with
  | given => cases hw; rfl
  | skipped _ ih =>
    cases hw with
    | skipped hw => exact ih hw
  | byDefault => cases hw; rfl

theorem of_getD (f : Option α) (d : α) : FirstGiven [f] d (f.getD d) := by
  cases f with
  | none => exact .skipped .byDefault
  | some v => exact .given

theorem of_orElse_getD (o f : Option α) (d : α) : FirstGiven [o, f] d ((o <|> f).getD d) := by
  cases o with
  | none => exact .skipped (of_getD f d)
  | some v => exact .given

end FirstGiven

/-! ## Cleaning a setting -/

namespace DeployConfig

theorem toList_dropTrailing (ch : Char) (s : String) :
    (dropTrailing ch s).toList = s.toList.rdropWhile (· == ch) := by
  simp [dropTrailing, List.rdropWhile]

theorem dropTrailing_append_replicate (ch : Char) (s : String) :
    ∃ k, s.toList = (dropTrailing ch s).toList ++ List.replicate k ch := by
  refine ⟨(s.toList.rtakeWhile (· == ch)).length, ?_⟩
  have hrun : s.toList.rtakeWhile (· == ch) =
      List.replicate (s.toList.rtakeWhile (· == ch)).length ch := by
    rw [List.eq_replicate_iff]
    refine ⟨rfl, fun b hb => ?_⟩
    simpa using List.mem_rtakeWhile_imp hb
  rw [toList_dropTrailing, ← hrun, List.rdropWhile_append_rtakeWhile]

theorem getLast?_dropTrailing_ne (ch : Char) (s : String) :
    (dropTrailing ch s).toList.getLast? ≠ some ch := by
  rw [toList_dropTrailing]
  by_cases hnil : s.toList.rdropWhile (· == ch) = []
  · simp [hnil]
  · rw [List.getLast?_eq_some_getLast hnil]
    intro hlast
    have hnot := List.rdropWhile_last_not (· == ch) s.toList hnil
    simp [Option.some.inj hlast] at hnot

theorem replicate_append_dropWhile (ch : Char) (l : List Char) :
    ∃ k, l = List.replicate k ch ++ l.dropWhile (· == ch) := by
  refine ⟨(l.takeWhile (· == ch)).length, ?_⟩
  have hrun : l.takeWhile (· == ch) = List.replicate (l.takeWhile (· == ch)).length ch := by
    rw [List.eq_replicate_iff]
    refine ⟨rfl, fun b hb => ?_⟩
    simpa using List.mem_takeWhile_imp hb
  rw [← hrun, List.takeWhile_append_dropWhile]

theorem head?_dropWhile_ne (ch : Char) (l : List Char) : (l.dropWhile (· == ch)).head? ≠ some ch := by
  by_cases hnil : l.dropWhile (· == ch) = []
  · simp [hnil]
  · rw [List.head?_eq_some_head hnil]
    intro hhead
    have hnot := List.head_dropWhile_not (· == ch) hnil
    simp [Option.some.inj hhead] at hnot

theorem isAbsolute_absolutize {cwd : String} (p : String) (hcwd : Path.isAbsolute cwd = true) :
    Path.isAbsolute (absolutize cwd p) = true := by
  unfold absolutize
  split
  · assumption
  · exact Path.isAbsolute_join p hcwd

end DeployConfig

/-! ## The settings of a run -/

/-- What later stages take for granted in the settings of a run. -/
structure DeployConfig.WellFormed (c : DeployConfig) : Prop where
  token_not_blank : ∀ t, c.token = some t → ∃ ch ∈ t.toList, Text.isBlank ch = false
  baseUrl_no_trailing_slash : c.baseUrl.toList.getLast? ≠ some '/'
  scriptsRoot_absolute : Path.isAbsolute c.scriptsRoot = true
  namespaceRoot_absolute : Path.isAbsolute c.namespaceRoot = true
  sourceExtension_no_leading_dot : c.sourceExtension.toList.head? ≠ some '.'

/-- How each setting of `c` comes from the overrides `o`, the file's settings and the working
directory. The token and the timeout have no default; the other settings fall back to the
built-in ones. -/
structure Resolves (file : ConfigFile) (o : Overrides) (cwd : String) (c : DeployConfig) :
    Prop where
  token : ∀ t, c.token = some t ↔
    (o.token = some t ∨ (o.token = none ∧ file.token = some t)) ∧ Text.isBlankText t = false
  baseUrl : ∃ given, FirstGiven [o.baseUrl, file.baseUrl] "http://localhost:8000/api" given ∧
    ∃ k, given.toList = c.baseUrl.toList ++ List.replicate k '/'
  workspace : FirstGiven [o.workspace, file.workspace] "admins" c.workspace
  scriptsRoot : ∃ given, FirstGiven [o.scriptsRoot, file.scriptsRoot] "f/einstein_kids" given ∧
    c.scriptsRoot = if Path.isAbsolute given then given else Path.join cwd given
  namespaceRoot : ∃ given, FirstGiven [o.namespaceRoot, file.namespaceRoot] "f" given ∧
    c.namespaceRoot = if Path.isAbsolute given then given else Path.join cwd given
  folders : FirstGiven [file.folders] ["shared", "moms", "therapists"] c.folders
  namespaceName : FirstGiven [file.namespaceName] "u" c.namespaceName
  owner : FirstGiven [file.owner] "admin" c.owner
  language : FirstGiven [file.language] "python3" c.language
  sourceExtension : ∃ given, FirstGiven [file.sourceExtension] "py" given ∧
    ∃ k, given.toList = List.replicate k '.' ++ c.sourceExtension.toList
  metadataSuffix : FirstGiven [file.metadataSuffix] ".script.yaml" c.metadataSuffix
  timeoutSecs : ∀ n, c.timeoutSecs = some n ↔
    o.timeoutSecs = some n ∨ (o.timeoutSecs = none ∧ file.timeoutSecs = some n)

namespace DeployConfig

variable (file : ConfigFile) (o : Overrides) (cwd : String)

theorem resolve_token_eq_some_iff (t : String) : (resolve file o cwd).token = some t ↔
    (o.token = some t ∨ (o.token = none ∧ file.token = some t)) ∧ Text.isBlankText t = false := by
  simp only [resolve, Option.filter_eq_some_iff, Option.orElse_eq_some, Bool.not_eq_eq_eq_not,
    Bool.not_true]

theorem toList_resolve_sourceExtension : (resolve file o cwd).sourceExtension.toList =
    (file.sourceExtension.getD "py").toList.dropWhile (· == '.') := by
  cases h : file.sourceExtension <;> simp [resolve, h]

theorem resolve_resolves : Resolves file o cwd (resolve file o cwd) where
  token := resolve_token_eq_some_iff file o cwd
  baseUrl := ⟨_, FirstGiven.of_orElse_getD _ _ _, dropTrailing_append_replicate '/' _⟩
  workspace := FirstGiven.of_orElse_getD _ _ _
  scriptsRoot := ⟨_, FirstGiven.of_orElse_getD _ _ _, rfl⟩
  namespaceRoot := ⟨_, FirstGiven.of_orElse_getD _ _ _, rfl⟩
  folders := FirstGiven.of_getD _ _
  namespaceName := FirstGiven.of_getD _ _
  owner := FirstGiven.of_getD _ _
  language := FirstGiven.of_getD _ _
  sourceExtension := by
    refine ⟨_, FirstGiven.of_getD file.sourceExtension "py", ?_⟩
    rw [toList_resolve_sourceExtension]
    exact replicate_append_dropWhile '.' _
  metadataSuffix := FirstGiven.of_getD _ _
  timeoutSecs n := Option.orElse_eq_some _ _ n

theorem resolve_wellFormed {cwd : String} (hcwd : Path.isAbsolute cwd = true) :
    (resolve file o cwd).WellFormed where
  token_not_blank t ht := by
    have hblank := ((resolve_token_eq_some_iff file o cwd t).mp ht).2
    simpa [Text.isBlankText, List.all_eq_false] using hblank
  baseUrl_no_trailing_slash := getLast?_dropTrailing_ne '/' _
  scriptsRoot_absolute := isAbsolute_absolutize _ hcwd
  namespaceRoot_absolute := isAbsolute_absolutize _ hcwd
  sourceExtension_no_leading_dot := by
    rw [toList_resolve_sourceExtension]
    exact head?_dropWhile_ne '.' _

/-- Resolving in an absolute working directory follows the layers and gives well-formed
settings. -/
theorem resolve_layers_wellFormed {cwd : String} (hcwd : Path.isAbsolute cwd = true) :
    Resolves file o cwd (resolve file o cwd) ∧ (resolve file o cwd).WellFormed :=
  ⟨resolve_resolves file o cwd, resolve_wellFormed file o hcwd⟩

theorem resolve_layers_wellFormed_blank_override :
    Path.isAbsolute "/work" = true ∧
      Resolves { token := some "secret", scriptsRoot := some "" } { token := some "  " } "/work"
        (resolve { token := some "secret", scriptsRoot := some "" } { token := some "  " } "/work") ∧
      (resolve { token := some "secret", scriptsRoot := some "" } { token := some "  " }
        "/work").WellFormed :=
  ⟨by decide +kernel, resolve_layers_wellFormed _ _ (by decide +kernel)⟩

example : (resolve { token := some "secret" } { token := some "  " } "/work").token = none := by
  decide

example : (resolve { scriptsRoot := some "" } {} "/work").scriptsRoot = "/work/" := by
  decide +kernel

end DeployConfig

end ScriptDeploy
