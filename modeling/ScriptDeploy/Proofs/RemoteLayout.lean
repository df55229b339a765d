import ScriptDeploy.Proofs.Scan
import ScriptDeploy.Proofs.Segments
import ScriptDeploy.Proofs.Planning
import Mathlib

/-! # Where a scan's scripts land

A remote path is read off a source's path by the text alone, with `\` as a second separator.
For a name without `\` in a configured folder under absolute roots, it is the prefix, then the
folder's parts after the namespace root's and the stripped name (`RemoteLayout.formula`). In a
tree whose names are plain, the location a path without `\` names is its lexical parts
(`find_location`), so two sources one scan finds, with no `\` in their paths, share a remote path
only when they are one file (`RemoteLayout.distinct`).

A `\` inside a name breaks both: on disk it is an ordinary character, so `x\..\y.py` is a file
beside `y.py`, while its remote path folds `x\..\` away and lands on that of `y.py`
(`backslash_name_shares_remotePath`).
-/

namespace ScriptDeploy

set_option autoImplicit false

open Files RemotePath

/-! ## Absolute paths -/

namespace Path

theorem isAbsolute_iff {p : String} : isAbsolute p = true ↔ ∃ rest, p.toList = '/' :: rest := by
  unfold isAbsolute
  rw [String.startsWith_string_iff]
  constructor
  · rintro ⟨rest, h⟩
    exact ⟨rest, by simpa using h.symm⟩
  · rintro ⟨rest, h⟩
    exact ⟨rest, by simp [h]⟩

theorem isAbsolute_join {base : String} (p : String) (h : isAbsolute base = true) :
    isAbsolute (join base p) = true := by
  obtain ⟨rest, hrest⟩ := isAbsolute_iff.mp h
  unfold join
  split
  · assumption
  · split
    · exact isAbsolute_iff.mpr ⟨rest ++ p.toList, by simp [hrest]⟩
    · exact isAbsolute_iff.mpr ⟨rest ++ '/' :: p.toList, by simp [hrest]⟩

end Path

namespace RemotePath

theorem segments_absolute {p : String} (h : Path.isAbsolute p = true) : (segments p).1 = true := by
  obtain ⟨rest, hrest⟩ := Path.isAbsolute_iff.mp h
  simp [segments_eq, unify_eq_map, hrest]

theorem segments_of_absolute {p : String} (hb : '\\' ∉ p.toList) (h : Path.isAbsolute p = true) :
    (segments p).2 = (foldParts true p.toList).reverse := by
  have habs := segments_absolute h
  rw [segments_eq] at habs ⊢
  simp only at habs ⊢
  rw [habs, unify_eq_map, map_unifyChar_of_not_mem hb]

end RemotePath

/-! ## The location a path names -/

namespace Files.Tree

variable {t : Tree}

theorem walk_eq_foldl : ∀ (parts out : List String) {loc : Location}, ".." ∉ out →
    t.walk (out.reverse.map (·.toUTF8.toList)) parts = .ok loc →
    loc = (parts.foldl (fold true) out).reverse.map (·.toUTF8.toList)
  | [], out, loc, _, h => by
    simp only [walk, Except.ok.injEq] at h
    rw [List.foldl_nil, h]
  | part :: rest, out, loc, hout, h => by
    unfold walk at h
    rw [List.foldl_cons]
    split at h
    · rename_i hempty
      rw [String.isEmpty_iff.mp hempty, fold_empty]
      exact walk_eq_foldl rest out hout h
    · rename_i hempty
      split at h
      · cases h
      · cases h
      · split at h
        · rename_i hcur
          rw [show part = "." by simpa using hcur, fold_current]
          exact walk_eq_foldl rest out hout h
        · split at h
          · rename_i hcur hpar
            obtain rfl : part = ".." := by simpa using hpar
            -- climbing drops the last name of the location as folding drops the last part
            have hclimb : (out.reverse.map (·.toUTF8.toList)).dropLast =
                out.tail.reverse.map (·.toUTF8.toList) := by
              cases out <;> simp
            rw [fold_parent hout]
            exact walk_eq_foldl rest out.tail (fun hmem => hout (List.mem_of_mem_tail hmem))
              (hclimb ▸ h)
          · split at h
            · cases h
            · rename_i hcur hpar _
              have hpart : part ≠ ".." := by simpa using hpar
              rw [fold_part true out (by simpa [String.isEmpty_iff] using hempty)
                (by simpa using hcur) hpart]
              refine walk_eq_foldl rest (part :: out) ?_ (by simpa using h)
              simp only [List.mem_cons, not_or]
              exact ⟨fun heq => hpart heq.symm, hout⟩

theorem find_location {p : String} {loc : Location} {e : Entry} (hb : '\\' ∉ p.toList)
    (habs : Path.isAbsolute p = true) (h : t.find p = .ok (loc, e)) :
    loc = (segments p).2.map (·.toUTF8.toList) ∧ t.get? loc = some e := by
  unfold find at h
  cases hlocate : t.locate p with
  | error err =>
    rw [hlocate] at h
    cases h
  | ok spot =>
    rw [hlocate] at h
    have hwalk : t.walk [] ((p.toList.splitOn '/').map String.ofList) = .ok spot.location := by
      unfold locate at hlocate
      split at hlocate
      · cases hlocate
      split at hlocate
      · cases hlocate
      split at hlocate
      · cases hlocate
      dsimp only at hlocate
      cases hw : t.walk [] ((p.toList.splitOn '/').map String.ofList) with
      | error err =>
        rw [hw] at hlocate
        cases hlocate
      | ok l =>
        rw [hw] at hlocate
        cases hlocate
        rfl
    have hloc := walk_eq_foldl ((p.toList.splitOn '/').map String.ofList) [] (by simp)
      (by simpa using hwalk)
    rw [segments_of_absolute hb habs]
    simp only [bind, Except.bind] at h
    split at h
    · cases h
    · split at h
      · cases h
      · cases h
        exact ⟨hloc, by assumption⟩
    · cases h
      exact ⟨hloc, by assumption⟩

theorem find_eq_of_segments {p q : String} (hbp : '\\' ∉ p.toList) (hbq : '\\' ∉ q.toList)
    (habsp : Path.isAbsolute p = true) (habsq : Path.isAbsolute q = true)
    (hsegments : (segments p).2 = (segments q).2) {lp lq : Location} {ep eq : Entry}
    (hp : t.find p = .ok (lp, ep)) (hq : t.find q = .ok (lq, eq)) : t.find p = t.find q := by
  obtain ⟨hlp, hgetp⟩ := find_location hbp habsp hp
  obtain ⟨hlq, hgetq⟩ := find_location hbq habsq hq
  have hl : lp = lq := by rw [hlp, hlq, hsegments]
  rw [hl, hgetq] at hgetp
  rw [hp, hq, hl, Option.some.inj hgetp]

theorem find_of_isFile {p : String} (h : t.isFile p = true) :
    ∃ loc content, t.find p = .ok (loc, .file content) := by
  unfold isFile at h
  split at h
  · rename_i loc content hfind
    exact ⟨loc, content, hfind⟩
  · cases h

end Files.Tree

/-! ## The layout -/

/-- Where the scripts of a configuration land. The remote path of a name without `\` in a folder
is the prefix, then the folder's parts after the namespace root's and the stripped name, when the
root's parts begin the folder's, and out of scope otherwise. In a tree whose names are plain, two
sources one scan finds, with no `\` in their paths, share a remote path only when they are one
file. -/
structure RemoteLayout (t : Tree) (c : DeployConfig) : Prop where
  formula : ∀ folder name : String, Path.IsName name → '\\' ∉ name.toList →
    c.remotePathOf (Path.join (Path.join c.scriptsRoot folder) name) =
      if (segments c.namespaceRoot).2 <+: (segments (Path.join c.scriptsRoot folder)).2 then
        .ok (DeployConfig.dropTrailing '/' c.remoteBase ++ "/" ++ "/".intercalate
          ((segments (Path.join c.scriptsRoot folder)).2.drop (segments c.namespaceRoot).2.length ++
            [stripExtension name]))
      else .error (.outOfScope (Path.join (Path.join c.scriptsRoot folder) name) c.namespaceRoot)
  distinct : t.NamesPlain → ∀ found, Discovery.scan t c = .ok found → ∀ f ∈ found, ∀ g ∈ found,
    '\\' ∉ f.source.toList → '\\' ∉ g.source.toList → ∀ r, c.remotePathOf f.source = .ok r →
      c.remotePathOf g.source = .ok r → t.find f.source = t.find g.source

section Layout

variable {t : Tree} {c : DeployConfig}

theorem remotePathOf_join (hscripts : Path.isAbsolute c.scriptsRoot = true)
    (hnamespace : Path.isAbsolute c.namespaceRoot = true) (folder : String) {name : String}
    (hname : Path.IsName name) (hb : '\\' ∉ name.toList) :
    c.remotePathOf (Path.join (Path.join c.scriptsRoot folder) name) =
      if (segments c.namespaceRoot).2 <+: (segments (Path.join c.scriptsRoot folder)).2 then
        .ok (DeployConfig.dropTrailing '/' c.remoteBase ++ "/" ++ "/".intercalate
          ((segments (Path.join c.scriptsRoot folder)).2.drop (segments c.namespaceRoot).2.length ++
            [stripExtension name]))
      else .error (.outOfScope (Path.join (Path.join c.scriptsRoot folder) name) c.namespaceRoot) :=
  ofSource_join _ _ _ hname hb (segments_absolute (Path.isAbsolute_join folder hscripts))
    (segments_absolute hnamespace)

theorem remotePathOf_eq_ok (hscripts : Path.isAbsolute c.scriptsRoot = true)
    (hnamespace : Path.isAbsolute c.namespaceRoot = true) {folder name r : String}
    (hname : Path.IsName name) (hb : '\\' ∉ name.toList)
    (h : c.remotePathOf (Path.join (Path.join c.scriptsRoot folder) name) = .ok r) :
    (segments c.namespaceRoot).2 <+: (segments (Path.join c.scriptsRoot folder)).2 ∧
      r = DeployConfig.dropTrailing '/' c.remoteBase ++ "/" ++ "/".intercalate
        ((segments (Path.join c.scriptsRoot folder)).2.drop (segments c.namespaceRoot).2.length ++
          [stripExtension name]) := by
  rw [remotePathOf_join hscripts hnamespace folder hname hb] at h
  split at h
  · rename_i hbegins
    exact ⟨hbegins, (Except.ok.inj h).symm⟩
  · cases h

theorem segments_eq_of_remotePathOf (hscripts : Path.isAbsolute c.scriptsRoot = true)
    (hnamespace : Path.isAbsolute c.namespaceRoot = true)
    {folder₁ folder₂ name₁ name₂ stem₁ stem₂ r : String}
    (hname₁ : Path.IsName name₁) (hname₂ : Path.IsName name₂)
    (hb₁ : '\\' ∉ name₁.toList) (hb₂ : '\\' ∉ name₂.toList)
    (hstem₁ : stem₁ ++ ("." ++ c.sourceExtension) = name₁ ∧ stem₁ ≠ "")
    (hstem₂ : stem₂ ++ ("." ++ c.sourceExtension) = name₂ ∧ stem₂ ≠ "")
    (h₁ : c.remotePathOf (Path.join (Path.join c.scriptsRoot folder₁) name₁) = .ok r)
    (h₂ : c.remotePathOf (Path.join (Path.join c.scriptsRoot folder₂) name₂) = .ok r) :
    (segments (Path.join (Path.join c.scriptsRoot folder₁) name₁)).2 =
      (segments (Path.join (Path.join c.scriptsRoot folder₂) name₂)).2 := by
  obtain ⟨hbegins₁, hr₁⟩ := remotePathOf_eq_ok hscripts hnamespace hname₁ hb₁ h₁
  obtain ⟨hbegins₂, hr₂⟩ := remotePathOf_eq_ok hscripts hnamespace hname₂ hb₂ h₂
  obtain ⟨hparts, hstrip⟩ := remotePath_inj hbegins₁ hbegins₂ (normal_segments _).no_slash
    (normal_segments _).no_slash hname₁.no_slash hname₂.no_slash (hr₁.symm.trans hr₂)
  rw [segments_join _ hname₁ hb₁, segments_join _ hname₂ hb₂, hparts,
    stripExtension_inj hstem₁.1 hstem₂.1 hstem₁.2 hstem₂.2 hstrip]

end Layout

/-- Under absolute roots, remote paths follow the layout: the formula for names without `\`,
and no two files of one scan at one remote path. -/
theorem remoteLayout_of_absolute (t : Tree) (c : DeployConfig)
    (hscripts : Path.isAbsolute c.scriptsRoot = true)
    (hnamespace : Path.isAbsolute c.namespaceRoot = true) : RemoteLayout t c := by
  refine ⟨fun folder name hname hb => remotePathOf_join hscripts hnamespace folder hname hb, ?_⟩
  intro hplain found hscan f hf g hg hbf hbg r hrf hrg
  obtain ⟨folder₁, loc₁, name₁, -, hs₁, rfl⟩ := Discovery.mem_scan hscan hf
  obtain ⟨folder₂, loc₂, name₂, -, hs₂, rfl⟩ := Discovery.mem_scan hscan hg
  obtain ⟨hname₁, ⟨stem₁, hstem₁⟩, hfile₁⟩ := Discovery.sourceName_plain hplain hs₁
  obtain ⟨hname₂, ⟨stem₂, hstem₂⟩, hfile₂⟩ := Discovery.sourceName_plain hplain hs₂
  simp only [Discovery.foundAt] at hbf hbg hrf hrg ⊢
  have hb₁ : '\\' ∉ name₁.toList := fun h => hbf (Path.mem_join_of_mem _ hname₁.no_slash h)
  have hb₂ : '\\' ∉ name₂.toList := fun h => hbg (Path.mem_join_of_mem _ hname₂.no_slash h)
  have hsegments := segments_eq_of_remotePathOf hscripts hnamespace hname₁ hname₂ hb₁ hb₂
    hstem₁ hstem₂ hrf hrg
  -- both are regular files, at the location of their common parts
  obtain ⟨l₁, content₁, hfind₁⟩ := Tree.find_of_isFile hfile₁
  obtain ⟨l₂, content₂, hfind₂⟩ := Tree.find_of_isFile hfile₂
  exact Tree.find_eq_of_segments hbf hbg
    (Path.isAbsolute_join name₁ (Path.isAbsolute_join folder₁ hscripts))
    (Path.isAbsolute_join name₂ (Path.isAbsolute_join folder₂ hscripts)) hsegments hfind₁ hfind₂

/-! ## A backslash in a name -/

def backslashTwins : Tree where
  entries := [
    (["f"].map (·.toUTF8.toList), .dir), (["f", "s"].map (·.toUTF8.toList), .dir),
    (["f", "s", "y.py"].map (·.toUTF8.toList), .file "a".toUTF8.toList),
    (["f", "s", "y.s"].map (·.toUTF8.toList), .file []),
    (["f", "s", "x\\..\\y.py"].map (·.toUTF8.toList), .file "b".toUTF8.toList),
    (["f", "s", "x\\..\\y.s"].map (·.toUTF8.toList), .file [])]

theorem remoteLayout_backslashTwins :
    Path.isAbsolute sampleConfig.scriptsRoot = true ∧
      Path.isAbsolute sampleConfig.namespaceRoot = true ∧ RemoteLayout backslashTwins sampleConfig :=
  have hscripts : Path.isAbsolute sampleConfig.scriptsRoot = true := by decide +kernel
  have hnamespace : Path.isAbsolute sampleConfig.namespaceRoot = true := by decide +kernel
  ⟨hscripts, hnamespace, remoteLayout_of_absolute _ _ hscripts hnamespace⟩

/-- `x\..\y.py` is a file of its own beside `y.py`, with other contents, yet the plan puts both
at the remote path of `y.py`. -/
theorem backslash_name_shares_remotePath :
    plan backslashTwins sampleConfig = .ok [
      ⟨⟨"/f/s/x\\..\\y.py", "/f/s/x\\..\\y.s"⟩, .ok "u/admin/f/s/y"⟩,
      ⟨⟨"/f/s/y.py", "/f/s/y.s"⟩, .ok "u/admin/f/s/y"⟩] ∧
    backslashTwins.readText "/f/s/x\\..\\y.py" = .ok "b" ∧
    backslashTwins.readText "/f/s/y.py" = .ok "a" :=
  ⟨by cbv, by cbv, by cbv⟩

end ScriptDeploy
