import ScriptDeploy.Bundle
import ScriptDeploy.Proofs.TreeWrites
import ScriptDeploy.Proofs.Segments
import ScriptDeploy.Proofs.Planning
import Mathlib

/-! # Writing the bundles

A run that writes bundles makes the output directory, scans for sources, and takes the sources
in the order found. For each it works out the metadata (what the sidecar gives when it loads,
the defaults when there is no sidecar or it does not load), reads the source, and writes the
bundle through a temporary file at the path named by the source's file name without its
extension (`BundleStep`). A successful run is exactly such a sequence of steps
(`writeEach_eq_ok_iff`), and it reports every source found, in order, with its bundle path.

Bundle paths are named by those stems alone, in one flat directory, so sources with the same
stem in different folders share one. What the run leaves at a bundle path is the bundle of the
last source written there (`Threaded.readText_last_bundle`): a bundle is kept exactly when no
later source has its stem, and every bundle is kept when the stems differ
(`writeAll_bundles_last_write_wins`). Otherwise the earlier bundle is lost although the run
reports it (`sameStem_bundle_replaced`).
-/

namespace ScriptDeploy

set_option autoImplicit false

open Files Files.Tree

/-! ## Bundle paths -/

namespace Path

theorem lastPiece_no_slash (cs : List Char) : '/' ∉ (lastPiece cs).1 := by
  unfold lastPiece
  dsimp only
  intro h
  have htake := List.mem_takeWhile_imp (List.mem_reverse.mp h)
  simp at htake

theorem fileName?_no_slash {p n : String} (h : fileName? p = some n) : '/' ∉ n.toList := by
  unfold fileName? lastPart? at h
  dsimp only at h
  split at h
  · rename_i n' rest heq
    cases h
    -- only the first branch gives a name: the last piece of the trimmed path
    split at heq
    · split at heq
      · simp at heq
      · simp only [Option.some.injEq, Prod.mk.injEq, Part.name.injEq] at heq
        rw [← heq.1, String.toList_ofList]
        exact lastPiece_no_slash _
    · split at heq
      · cases heq
      · split at heq <;> cases heq
  · cases h

end Path

namespace Bundle

/-- The name of the bundle of a source: the source's file name without its extension, with
`.yaml`. -/
def fileName (source : String) : String :=
  ((Path.fileName? source).map RemotePath.stripExtension).getD "" ++ ".yaml"

theorem pathFor_eq_join (outDir source : String) :
    pathFor outDir source = Path.join outDir (fileName source) := rfl

theorem fileName_no_slash (source : String) : '/' ∉ (fileName source).toList := by
  have hstem : '/' ∉ (((Path.fileName? source).map RemotePath.stripExtension).getD "").toList := by
    cases hname : Path.fileName? source with
    | none => simp
    | some n =>
      intro hmem
      exact Path.fileName?_no_slash hname
        ((RemotePath.stripExtension_isPrefix n).subset (by simpa using hmem))
  simp only [fileName, String.toList_append, List.mem_append, not_or]
  exact ⟨hstem, by decide⟩

theorem getLast?_fileName (source : String) : (fileName source).toList.getLast? = some 'l' := by
  simp [fileName]

theorem getLast?_fileName_temp (source : String) :
    (fileName source ++ ".wmdeploy.tmp").toList.getLast? = some 'p' := by
  simp [fileName]

theorem isName_of_getLast? {n : String} (hslash : '/' ∉ n.toList) {c : Char} (hc : c ≠ '.')
    (hlast : n.toList.getLast? = some c) : Path.IsName n := by
  refine ⟨?_, ?_, ?_, hslash⟩
  · rintro rfl
    simp at hlast
  · rintro rfl
    simp at hlast
    exact hc hlast.symm
  · rintro rfl
    simp at hlast
    exact hc hlast.symm

theorem isName_fileName (source : String) : Path.IsName (fileName source) :=
  isName_of_getLast? (fileName_no_slash source) (by decide) (getLast?_fileName source)

theorem isName_fileName_temp (source : String) : Path.IsName (fileName source ++ ".wmdeploy.tmp") := by
  refine isName_of_getLast? ?_ (by decide) (getLast?_fileName_temp source)
  simp only [String.toList_append, List.mem_append, not_or]
  exact ⟨fileName_no_slash source, by decide⟩

theorem tempPath_pathFor (outDir source : String) :
    tempPath (pathFor outDir source) = Path.join outDir (fileName source ++ ".wmdeploy.tmp") := by
  apply String.toList_inj.mp
  rw [tempPath, pathFor_eq_join, String.toList_append,
    Path.join_toList _ (fileName_no_slash source),
    Path.join_toList _ (isName_fileName_temp source).no_slash, String.toList_append,
    List.append_assoc]

theorem fileName_ne_temp (s₁ s₂ : String) : fileName s₁ ≠ fileName s₂ ++ ".wmdeploy.tmp" := by
  intro h
  have hlast := congrArg (fun n : String => n.toList.getLast?) h
  simp only [getLast?_fileName, getLast?_fileName_temp] at hlast
  cases hlast

/-- Bundles that agree but for their text have YAML texts that agree but for how the text is
written: the text is the last value of the mapping. -/
theorem toYaml_written_content {b b' : Bundle} (hs : b.summary = b'.summary)
    (hd : b.description = b'.description) (hl : b.language = b'.language)
    (h : b.toYaml = b'.toYaml) :
    (Yaml.Emit.value b.content).text ++
        (if (Yaml.Emit.value b.content).atLineStart then "" else "\n") =
      (Yaml.Emit.value b'.content).text ++
        (if (Yaml.Emit.value b'.content).atLineStart then "" else "\n") := by
  obtain ⟨s, d, l, c⟩ := b
  obtain ⟨s', d', l', c'⟩ := b'
  dsimp only at hs hd hl ⊢
  subst hs hd hl
  simp only [toYaml, Yaml.Emit.mapping, Yaml.Emit.mapping.go, String.append_assoc,
    String.append_right_inj] at h
  exact h

/-! ## A write through a temporary file -/

/-- What a successful atomic write leaves, given the places its path and its temporary path
lead to: the file at the path holds the text, the temporary file is gone unless it is the same
place, and every other entry and every directory is as it was. -/
structure WritesAt (t : Tree) (target temp : Location) (text : String) (t' : Tree) : Prop where
  sameDirs : SameDirs t t'
  target_holds : t'.get? target = some (.file text.toUTF8.toList)
  temp_gone : temp ≠ target → t'.get? temp = none
  frame : ∀ l, l ≠ target → l ≠ temp → t'.get? l = t.get? l
  capacity : t'.capacity = t.capacity

variable {t t' : Tree}

theorem writesAt_in_place {l : Location} (hdir : t.get? l ≠ some .dir) (text : String) :
    WritesAt t l l text (t.set l (.file text.toUTF8.toList)) where
  sameDirs := sameDirs_set_file hdir _
  target_holds := by rw [get?_set (ne_nil_of_get?_ne_dir hdir), if_pos rfl]
  temp_gone h := absurd rfl h
  frame l' hl' _ := by rw [get?_set (ne_nil_of_get?_ne_dir hdir), if_neg hl']
  capacity := capacity_set _ _

theorem writesAt_moved {target temp : Location} (hne : temp ≠ target)
    (htemp : t.get? temp ≠ some .dir) (htarget : t.get? target ≠ some .dir) (text : String) :
    WritesAt t target temp text
      (((t.set temp (.file text.toUTF8.toList)).erase temp).set target
        (.file text.toUTF8.toList)) where
  sameDirs := by
    have htempnil := ne_nil_of_get?_ne_dir htemp
    have hwritten := sameDirs_set_file htemp text.toUTF8.toList
    have herased : SameDirs (t.set temp (.file text.toUTF8.toList))
        ((t.set temp (.file text.toUTF8.toList)).erase temp) :=
      sameDirs_erase (by rw [get?_set htempnil, if_pos rfl]; simp)
    have hmoved : SameDirs ((t.set temp (.file text.toUTF8.toList)).erase temp)
        (((t.set temp (.file text.toUTF8.toList)).erase temp).set target
          (.file text.toUTF8.toList)) := by
      refine sameDirs_set_file ?_ _
      rw [get?_erase htempnil, if_neg (Ne.symm hne), get?_set htempnil, if_neg (Ne.symm hne)]
      exact htarget
    exact hwritten.trans (herased.trans hmoved)
  target_holds := by rw [get?_set (ne_nil_of_get?_ne_dir htarget), if_pos rfl]
  temp_gone _ := by
    rw [get?_set (ne_nil_of_get?_ne_dir htarget), if_neg hne,
      get?_erase (ne_nil_of_get?_ne_dir htemp), if_pos rfl]
  frame l hl ht := by
    rw [get?_set (ne_nil_of_get?_ne_dir htarget), if_neg hl,
      get?_erase (ne_nil_of_get?_ne_dir htemp), if_neg ht,
      get?_set (ne_nil_of_get?_ne_dir htemp), if_neg ht]
  capacity := by simp

theorem atomicWrite_eq_ok {path text : String} (h : atomicWrite t path text = (.ok (), t')) :
    ∃ target temp, t.locate path = .ok ⟨target, false⟩ ∧
      t.locate (tempPath path) = .ok ⟨temp, false⟩ ∧ t.HasRoom temp text.toUTF8.toList ∧
      WritesAt t target temp text t' := by
  unfold atomicWrite at h
  dsimp only at h
  rcases hw : t.writeFile (tempPath path) text.toUTF8.toList with ⟨_ | ⟨⟩, written⟩
  · rw [hw] at h; cases h
  · rw [hw] at h
    dsimp only at h
    obtain ⟨temp, htemp, htempdir, hroom, rfl⟩ := writeFile_eq_ok hw
    cases hm : (t.set temp (.file text.toUTF8.toList)).moveFile (tempPath path) path with
    | error e =>
      rw [hm] at h
      dsimp only at h
      split at h <;> cases h
    | ok moved =>
      rw [hm] at h
      dsimp only at h
      cases h
      obtain ⟨a, b, c, ha, hga, hb, hgb, rfl⟩ := moveFile_eq_ok hm
      have hsame := sameDirs_set_file htempdir text.toUTF8.toList
      -- the move starts from the temporary file just written
      have hat : a = temp := by
        have hloc := locate_of_sameDirs hsame htemp
        rw [ha] at hloc
        exact (Spot.mk.inj (Except.ok.inj hloc)).1
      subst hat
      have hc : c = text.toUTF8.toList := by
        rw [get?_set (ne_nil_of_get?_ne_dir htempdir), if_pos rfl] at hga
        cases hga
        rfl
      subst hc
      have hbdir : t.get? b ≠ some .dir := by
        by_cases hba : b = a
        · rw [hba]
          exact htempdir
        · rwa [get?_set (ne_nil_of_get?_ne_dir htempdir), if_neg hba] at hgb
      refine ⟨b, a, locate_of_sameDirs hsame.symm hb, htemp, hroom, ?_⟩
      by_cases hab : a = b
      · rw [if_pos hab]
        subst hab
        exact writesAt_in_place htempdir text
      · rw [if_neg hab]
        exact writesAt_moved hab htempdir hbdir text

theorem atomicWrite_of_locate {path text : String} {target temp : Location}
    (hp : t.locate path = .ok ⟨target, false⟩) (ht : t.locate (tempPath path) = .ok ⟨temp, false⟩)
    (hne : temp ≠ target) (htemp : t.get? temp ≠ some .dir) (htarget : t.get? target ≠ some .dir)
    (hroom : t.HasRoom temp text.toUTF8.toList) :
    atomicWrite t path text =
      (.ok (), ((t.set temp (.file text.toUTF8.toList)).erase temp).set target
        (.file text.toUTF8.toList)) := by
  have htempnil := ne_nil_of_get?_ne_dir htemp
  have hsame := sameDirs_set_file htemp text.toUTF8.toList
  have hmove := moveFile_of_locate (locate_of_sameDirs hsame ht)
    (by rw [get?_set htempnil, if_pos rfl]) (locate_of_sameDirs hsame hp)
    (by rwa [get?_set htempnil, if_neg (Ne.symm hne)])
  unfold atomicWrite
  dsimp only
  rw [writeFile_of_locate ht htemp hroom]
  dsimp only
  rw [hmove, if_neg hne]

/-! ## One bundle -/

/-- The metadata a source is bundled with: what its sidecar gives when the sidecar loads, and
the defaults when it has none or it does not load. -/
inductive SidecarOrDefault (t : Tree) (f : Found) : Metadata → Prop
  | loaded {path : String} {m : Metadata} : f.sidecar = some path →
      Metadata.load t path f.source = .ok m → SidecarOrDefault t f m
  | failed {path : String} {e : ScriptError} : f.sidecar = some path →
      Metadata.load t path f.source = .error e → SidecarOrDefault t f (Metadata.default f.source)
  | unpaired : f.sidecar = none → SidecarOrDefault t f (Metadata.default f.source)

theorem metadataOf_sidecarOrDefault (t : Tree) (f : Found) :
    SidecarOrDefault t f (metadataOf t f) := by
  unfold metadataOf
  cases hs : f.sidecar with
  | none => exact .unpaired hs
  | some path =>
    dsimp only
    cases hl : Metadata.load t path f.source with
    | ok m => exact .loaded hs hl
    | error e => exact .failed hs hl

theorem SidecarOrDefault.eq_metadataOf {f : Found} {m : Metadata} (h : SidecarOrDefault t f m) :
    m = metadataOf t f := by
  cases h with
  | loaded hpath hload => simp [metadataOf, hpath, hload]
  | failed hpath hload => simp [metadataOf, hpath, hload]
  | unpaired hnone => simp [metadataOf, hnone]

/-- The bundle of a source in a tree: the summary and description of its metadata, the
configured language, and the text of the source. -/
structure BundleOf (c : DeployConfig) (t : Tree) (f : Found) (b : Bundle) : Prop where
  metadata : ∃ m, SidecarOrDefault t f m ∧ b.summary = m.summary ∧ b.description = m.description
  language : b.language = c.language
  content : t.readText f.source = .ok b.content

theorem BundleOf.eq {c : DeployConfig} {f : Found} {b : Bundle} (h : BundleOf c t f b) :
    b = { summary := (metadataOf t f).summary, description := (metadataOf t f).description,
          language := c.language, content := b.content } := by
  obtain ⟨m, hm, hsummary, hdescription⟩ := h.metadata
  rw [← hm.eq_metadataOf, ← hsummary, ← hdescription, ← h.language]

/-- One step of writing the bundles: the bundle of a source, written at its bundle path. -/
structure BundleStep (c : DeployConfig) (outDir : String) (t : Tree) (f : Found)
    (w : Bundled × Bundle) (t' : Tree) : Prop where
  bundled : w.1 = ⟨f.source, pathFor outDir f.source⟩
  bundle : BundleOf c t f w.2
  written : atomicWrite t w.1.bundle w.2.toYaml = (.ok (), t')

end Bundle

/-! ## A run of steps -/

namespace Threaded

variable {σ α β : Type} {R : σ → α → β → σ → Prop}

theorem cons_inv {s s' : σ} {a : α} {as : List α} {bs : List β} (h : Threaded R s (a :: as) bs s') :
    ∃ b bs' s₁, bs = b :: bs' ∧ R s a b s₁ ∧ Threaded R s₁ as bs' s' := by
  cases h with
  | cons hstep hrest => exact ⟨_, _, _, rfl, hstep, hrest⟩

end Threaded

namespace Bundle

variable {c : DeployConfig} {outDir : String} {t t' : Tree}

theorem BundleStep.bundle_eq {f : Found} {w : Bundled × Bundle} (hstep : BundleStep c outDir t f w t') :
    w.1.bundle = pathFor outDir f.source := by
  rw [hstep.bundled]

theorem writeEach_cons_eq_ok {f : Found} {rest : List Found} {rs : List Bundled}
    (h : writeEach c outDir t (f :: rest) = (.ok rs, t')) :
    ∃ content t₁ done, t.readText f.source = .ok content ∧
      atomicWrite t (pathFor outDir f.source)
          ({ summary := (metadataOf t f).summary, description := (metadataOf t f).description,
             language := c.language, content } : Bundle).toYaml = (.ok (), t₁) ∧
      writeEach c outDir t₁ rest = (.ok done, t') ∧
      rs = ⟨f.source, pathFor outDir f.source⟩ :: done := by
  unfold writeEach at h
  cases hread : t.readText f.source with
  | error e => simp [hread] at h
  | ok content =>
    cases hw : atomicWrite t (pathFor outDir f.source)
        ({ summary := (metadataOf t f).summary, description := (metadataOf t f).description,
           language := c.language, content } : Bundle).toYaml with
    | mk r t₁ =>
      cases r with
      | error e => simp [hread, hw] at h
      | ok u =>
        cases hrest : writeEach c outDir t₁ rest with
        | mk r' t₂ =>
          cases r' with
          | error e => simp [hread, hw, hrest] at h
          | ok done =>
            simp only [hread, hw, hrest, Prod.mk.injEq, Except.ok.injEq] at h
            obtain ⟨rfl, rfl⟩ := h
            exact ⟨content, t₁, done, rfl, hw, hrest, rfl⟩

/-- Writing the bundles of some sources succeeds exactly when it takes one step per source, in
order, each from the tree the previous one left; it reports what the steps wrote. -/
theorem writeEach_eq_ok_iff :
    ∀ {t t' : Tree} {fs : List Found} {rs : List Bundled},
      writeEach c outDir t fs = (.ok rs, t') ↔
        ∃ steps, Threaded (BundleStep c outDir) t fs steps t' ∧ rs = steps.map Prod.fst
  | t, t', [], rs => by
    simp only [writeEach, Prod.mk.injEq, Except.ok.injEq]
    constructor
    · rintro ⟨rfl, rfl⟩
      exact ⟨[], .nil t, rfl⟩
    · rintro ⟨steps, hrun, rfl⟩
      cases hrun
      exact ⟨rfl, rfl⟩
  | t, t', f :: rest, rs => by
    constructor
    · intro h
      obtain ⟨content, t₁, done, hread, hw, hrest, rfl⟩ := writeEach_cons_eq_ok h
      obtain ⟨steps, hsteps, rfl⟩ := writeEach_eq_ok_iff.mp hrest
      refine ⟨(⟨f.source, pathFor outDir f.source⟩,
        { summary := (metadataOf t f).summary, description := (metadataOf t f).description,
          language := c.language, content }) :: steps, .cons ⟨rfl, ?_, ?_⟩ hsteps, rfl⟩
      · exact ⟨⟨_, metadataOf_sidecarOrDefault t f, rfl, rfl⟩, rfl, hread⟩
      · -- the projections of the step are taken first: unifying through them unfolds the path
        dsimp only
        exact hw
    · rintro ⟨steps, hrun, rfl⟩
      obtain ⟨w, ws, t₁, rfl, hstep, hrest⟩ := Threaded.cons_inv hrun
      -- the step wrote the bundle the code builds, at the path it builds
      have hwrite : atomicWrite t (pathFor outDir f.source)
          ({ summary := (metadataOf t f).summary, description := (metadataOf t f).description,
             language := c.language, content := w.2.content } : Bundle).toYaml = (.ok (), t₁) := by
        rw [← hstep.bundle.eq, ← hstep.bundle_eq]
        exact hstep.written
      unfold writeEach
      simp only [hstep.bundle.content, hwrite, writeEach_eq_ok_iff.mpr ⟨ws, hrest, rfl⟩]
      rw [List.map_cons, hstep.bundled]

/-! ## What stays written -/

variable {f : Found} {w : Bundled × Bundle}

theorem BundleStep.readText_bundle (hstep : BundleStep c outDir t f w t') :
    t'.readText w.1.bundle = .ok w.2.toYaml := by
  obtain ⟨target, temp, hp, -, -, hwrites⟩ := atomicWrite_eq_ok hstep.written
  exact readText_of_get? (locate_of_sameDirs hwrites.sameDirs hp) hwrites.target_holds

theorem BundleStep.readText_of_ne (hstep : BundleStep c outDir t f w t') {s x : String}
    (hne : pathFor outDir s ≠ w.1.bundle) (hx : t.readText (pathFor outDir s) = .ok x) :
    t'.readText (pathFor outDir s) = .ok x := by
  obtain ⟨target, temp, hp, ht, -, hwrites⟩ := atomicWrite_eq_ok hstep.written
  rw [hstep.bundle_eq, pathFor_eq_join] at hp
  rw [hstep.bundle_eq, tempPath_pathFor] at ht
  obtain ⟨sp, hsp⟩ := locate_of_readText_eq_ok hx
  rw [pathFor_eq_join] at hsp
  have hname : fileName s ≠ fileName f.source := by
    intro h
    apply hne
    rw [hstep.bundle_eq, pathFor_eq_join, pathFor_eq_join, h]
  have htarget : sp.location ≠ target :=
    location_join_ne (isName_fileName s) (isName_fileName f.source) hname hsp hp
  have htemp : sp.location ≠ temp :=
    location_join_ne (isName_fileName s) (isName_fileName_temp f.source) (fileName_ne_temp s f.source)
      hsp ht
  rw [pathFor_eq_join] at hx ⊢
  rw [readText_of_sameDirs hwrites.sameDirs hsp (hwrites.frame _ htarget htemp), hx]

theorem bundleStep_of_locate {b : Bundle} {target temp : Location} (hb : BundleOf c t f b)
    (hp : t.locate (pathFor outDir f.source) = .ok ⟨target, false⟩)
    (ht : t.locate (tempPath (pathFor outDir f.source)) = .ok ⟨temp, false⟩) (hne : temp ≠ target)
    (htemp : t.get? temp ≠ some .dir) (htarget : t.get? target ≠ some .dir)
    (hroom : t.HasRoom temp b.toYaml.toUTF8.toList) :
    ∃ t', BundleStep c outDir t f (⟨f.source, pathFor outDir f.source⟩, b) t' ∧
      WritesAt t target temp b.toYaml t' :=
  -- as in `writeEach_eq_ok_iff`, the projections of the step are taken first
  ⟨_, ⟨rfl, hb, by dsimp only; exact atomicWrite_of_locate hp ht hne htemp htarget hroom⟩,
    writesAt_moved hne htemp htarget _⟩

end Bundle

namespace Threaded

open ScriptDeploy.Bundle

variable {c : DeployConfig} {outDir : String} {t t' : Tree} {w : Bundled × Bundle}
variable {fs : List Found} {steps : List (Bundled × Bundle)}

theorem map_fst (hrun : Threaded (BundleStep c outDir) t fs steps t') :
    steps.map Prod.fst = fs.map fun f => ⟨f.source, pathFor outDir f.source⟩ := by
  induction hrun with
  | nil => rfl
  | cons hstep _ ih => rw [List.map_cons, List.map_cons, ih, hstep.bundled]

theorem readText_kept (hrun : Threaded (BundleStep c outDir) t fs steps t') {s x : String}
    (hnot : ∀ v ∈ steps, v.1.bundle ≠ pathFor outDir s)
    (hx : t.readText (pathFor outDir s) = .ok x) : t'.readText (pathFor outDir s) = .ok x := by
  induction hrun with
  | nil => exact hx
  | cons hstep _ ih =>
    exact ih (fun v hv => hnot v (List.mem_cons_of_mem _ hv))
      (hstep.readText_of_ne (Ne.symm (hnot _ List.mem_cons_self)) hx)

/-- The last write to a bundle path decides what it holds. -/
theorem readText_last_bundle (hrun : Threaded (BundleStep c outDir) t fs steps t')
    {pre post : List (Bundled × Bundle)} (hsteps : steps = pre ++ w :: post)
    (hlast : ∀ v ∈ post, v.1.bundle ≠ w.1.bundle) : t'.readText w.1.bundle = .ok w.2.toYaml := by
  induction hrun generalizing pre with
  | nil => simp at hsteps
  | cons hstep hrest ih =>
    cases pre with
    | nil =>
      -- this step writes `w`; the later ones write elsewhere
      obtain ⟨rfl, rfl⟩ := List.cons.inj hsteps
      rw [hstep.bundle_eq] at hlast ⊢
      exact hrest.readText_kept hlast (hstep.bundle_eq ▸ hstep.readText_bundle)
    | cons p pre =>
      exact ih (List.cons.inj hsteps).2

theorem readText_bundles_of_nodup (hrun : Threaded (BundleStep c outDir) t fs steps t')
    (hnodup : ((steps.map Prod.fst).map (·.bundle)).Nodup) :
    ∀ w ∈ steps, t'.readText w.1.bundle = .ok w.2.toYaml := by
  intro w hw
  obtain ⟨pre, post, rfl⟩ := List.append_of_mem hw
  refine hrun.readText_last_bundle rfl fun v hv hsame => ?_
  simp only [List.map_append, List.map_cons, List.nodup_append, List.nodup_cons] at hnodup
  exact hnodup.2.1.1 (List.mem_map.mpr ⟨v.1, List.mem_map.mpr ⟨v, hv, rfl⟩, hsame⟩)

end Threaded

namespace Bundle

variable {c : DeployConfig} {outDir : String} {t t' : Tree} {steps : List (Bundled × Bundle)}

/-! ## A run -/

/-- What a run of bundle steps did from the tree `t₀`, over the sources `found`: one step per
source, each reported with its bundle path, and each bundle path holding the bundle of the last
step that wrote there; so every bundle is kept when the bundle paths differ. -/
structure BundleRun (c : DeployConfig) (outDir : String) (t₀ : Tree) (found : List Found)
    (steps : List (Bundled × Bundle)) (t' : Tree) : Prop where
  steps_taken : Threaded (BundleStep c outDir) t₀ found steps t'
  paired : steps.map Prod.fst = found.map fun f => ⟨f.source, pathFor outDir f.source⟩
  last_wins : ∀ pre w post, steps = pre ++ w :: post →
    (∀ v ∈ post, v.1.bundle ≠ w.1.bundle) → t'.readText w.1.bundle = .ok w.2.toYaml
  all_kept : ((steps.map Prod.fst).map (·.bundle)).Nodup →
    ∀ w ∈ steps, t'.readText w.1.bundle = .ok w.2.toYaml

theorem BundleRun.of_threaded {t₀ : Tree} {found : List Found}
    (hrun : Threaded (BundleStep c outDir) t₀ found steps t') : BundleRun c outDir t₀ found steps t' where
  steps_taken := hrun
  paired := hrun.map_fst
  last_wins _ _ _ hsteps hlast := hrun.readText_last_bundle hsteps hlast
  all_kept := hrun.readText_bundles_of_nodup

theorem writeAll_eq_ok {results : List Bundled} (h : writeAll t c outDir = (.ok results, t')) :
    ∃ t₀ found, t.makeDirAll outDir = .ok t₀ ∧ Discovery.scan t₀ c = .ok found ∧
      writeEach c outDir t₀ found = (.ok results, t') := by
  unfold writeAll at h
  cases hmk : t.makeDirAll outDir with
  | error e => simp [hmk] at h
  | ok t₀ =>
    cases hscan : Discovery.scan t₀ c with
    | error e => simp [hmk, hscan] at h
    | ok found =>
      simp only [hmk, hscan] at h
      exact ⟨t₀, found, rfl, hscan, h⟩

theorem writeAll_of_scan {t₀ : Tree} {found : List Found} (hmk : t.makeDirAll outDir = .ok t₀)
    (hscan : Discovery.scan t₀ c = .ok found) : writeAll t c outDir = writeEach c outDir t₀ found := by
  unfold writeAll
  simp only [hmk, hscan]

/-- A run that writes bundles and succeeds made the output directory, scanned the tree it left,
and took one bundle step per source found, in order; it reports each source with its bundle
path, and each bundle path holds the bundle of the last source written there, so every bundle is
kept when no two sources share a bundle path. -/
theorem writeAll_bundles_last_write_wins {results : List Bundled}
    (h : writeAll t c outDir = (.ok results, t')) :
    ∃ t₀ found steps, t.makeDirAll outDir = .ok t₀ ∧ Discovery.scan t₀ c = .ok found ∧
      results = steps.map Prod.fst ∧ BundleRun c outDir t₀ found steps t' := by
  obtain ⟨t₀, found, hmk, hscan, heach⟩ := writeAll_eq_ok h
  obtain ⟨steps, hrun, rfl⟩ := writeEach_eq_ok_iff.mp heach
  exact ⟨t₀, found, steps, hmk, hscan, rfl, BundleRun.of_threaded hrun⟩

/-! ## Two scripts with one stem -/

/-- The folders `s` and `m` of the scripts root `/f`, each holding a script `job.py` without a
sidecar. -/
def sameStemScripts : Tree where
  entries := [
    (["f"].map (·.toUTF8.toList), .dir), (["f", "s"].map (·.toUTF8.toList), .dir),
    (["f", "m"].map (·.toUTF8.toList), .dir),
    (["f", "s", "job.py"].map (·.toUTF8.toList), .file "s\n".toUTF8.toList),
    (["f", "m", "job.py"].map (·.toUTF8.toList), .file "m\n".toUTF8.toList)]

def sameStemConfig : DeployConfig := { sampleConfig with folders := ["s", "m"] }

def sameStemScriptsOut : Tree where
  entries := sameStemScripts.entries ++ [(["out"].map (·.toUTF8.toList), .dir)]

theorem sameStemScripts_makeDirAll : sameStemScripts.makeDirAll "/out" = .ok sameStemScriptsOut := by
  cbv

theorem sameStemScriptsOut_scan : Discovery.scan sameStemScriptsOut sameStemConfig =
    .ok [⟨"/f/s/job.py", none⟩, ⟨"/f/m/job.py", none⟩] := by
  cbv

theorem sameStem_fileName : fileName "/f/s/job.py" = "job.yaml" ∧ fileName "/f/m/job.py" = "job.yaml" :=
  ⟨by cbv, by cbv⟩

theorem sameStem_pathFor :
    pathFor "/out" "/f/s/job.py" = "/out/job.yaml" ∧ pathFor "/out" "/f/m/job.py" = "/out/job.yaml" := by
  have hjoin : Path.join "/out" "job.yaml" = "/out/job.yaml" := by decide +kernel
  simp only [pathFor_eq_join, sameStem_fileName, hjoin, and_self]

theorem sameStemScriptsOut_locate_bundle :
    sameStemScriptsOut.locate (Path.join "/out" "job.yaml") =
      .ok ⟨["out".toUTF8.toList] ++ ["job.yaml".toUTF8.toList], false⟩ := by
  cbv

theorem sameStemScriptsOut_locate_temp :
    sameStemScriptsOut.locate (Path.join "/out" ("job.yaml" ++ ".wmdeploy.tmp")) =
      .ok ⟨["out".toUTF8.toList] ++ [("job.yaml" ++ ".wmdeploy.tmp").toUTF8.toList], false⟩ := by
  have hname := isName_fileName "/f/s/job.py"
  have htemp := isName_fileName_temp "/f/s/job.py"
  rw [sameStem_fileName.1] at hname htemp
  -- the walk of the long name is left to the sibling lemma; only the checks on the path remain
  have hpath : Path.join "/out" ("job.yaml" ++ ".wmdeploy.tmp") = "/out/job.yaml.wmdeploy.tmp" := by
    decide +kernel
  refine locate_join_sibling hname htemp sameStemScriptsOut_locate_bundle ?_ (by decide +kernel)
    (by decide)
  rw [hpath]
  cbv

theorem sameStem_locate {source : String} (hsource : fileName source = "job.yaml") {t : Tree}
    (hsame : SameDirs sameStemScriptsOut t) :
    t.locate (pathFor "/out" source) =
        .ok ⟨["out".toUTF8.toList, "job.yaml".toUTF8.toList], false⟩ ∧
      t.locate (tempPath (pathFor "/out" source)) =
        .ok ⟨["out".toUTF8.toList, ("job.yaml" ++ ".wmdeploy.tmp").toUTF8.toList], false⟩ := by
  rw [tempPath_pathFor, pathFor_eq_join, hsource]
  exact ⟨locate_of_sameDirs hsame sameStemScriptsOut_locate_bundle,
    locate_of_sameDirs hsame sameStemScriptsOut_locate_temp⟩

theorem sameStemScriptsOut_get? :
    sameStemScriptsOut.get? ["out".toUTF8.toList, "job.yaml".toUTF8.toList] = none ∧
      sameStemScriptsOut.get? ["out".toUTF8.toList, ("job.yaml" ++ ".wmdeploy.tmp").toUTF8.toList] =
        none :=
  ⟨by decide +kernel, by decide +kernel⟩

theorem sameStemScriptsOut_read :
    sameStemScriptsOut.readText "/f/s/job.py" = .ok "s\n" ∧
      sameStemScriptsOut.readText "/f/m/job.py" = .ok "m\n" ∧
      sameStemScriptsOut.locate "/f/m/job.py" =
        .ok ⟨["f".toUTF8.toList, "m".toUTF8.toList, "job.py".toUTF8.toList], false⟩ :=
  ⟨by cbv, by cbv, by cbv⟩

theorem sameStem_default (source : String) (hsource : source = "/f/s/job.py" ∨ source = "/f/m/job.py") :
    (Metadata.default source).summary = "job.py" ∧ (Metadata.default source).description = "" := by
  rcases hsource with rfl | rfl <;> exact ⟨by cbv, by cbv⟩

theorem sameStem_run : ∃ t', writeAll sameStemScripts sameStemConfig "/out" =
      (.ok [⟨"/f/s/job.py", "/out/job.yaml"⟩, ⟨"/f/m/job.py", "/out/job.yaml"⟩], t') ∧
    t'.readText "/out/job.yaml" = .ok (Bundle.toYaml ⟨"job.py", "", "python3", "m\n"⟩) := by
  obtain ⟨hread₁, hread₂, hlocate₂⟩ := sameStemScriptsOut_read
  obtain ⟨htarget₀, htemp₀⟩ := sameStemScriptsOut_get?
  have hne : ["out".toUTF8.toList, ("job.yaml" ++ ".wmdeploy.tmp").toUTF8.toList] ≠
      ["out".toUTF8.toList, "job.yaml".toUTF8.toList] := by
    decide +kernel
  -- the script in `s` is bundled first, from the tree the scan saw
  obtain ⟨hsummary₁, hdescription₁⟩ := sameStem_default "/f/s/job.py" (.inl rfl)
  have hb₁ : BundleOf sameStemConfig sameStemScriptsOut ⟨"/f/s/job.py", none⟩
      ⟨"job.py", "", "python3", "s\n"⟩ :=
    ⟨⟨_, .unpaired rfl, hsummary₁.symm, hdescription₁.symm⟩, rfl, hread₁⟩
  obtain ⟨hp₁, ht₁⟩ := sameStem_locate sameStem_fileName.1 (SameDirs.refl sameStemScriptsOut)
  obtain ⟨t₁, hstep₁, hw₁⟩ := bundleStep_of_locate hb₁ hp₁ ht₁ hne (by rw [htemp₀]; simp)
    (by rw [htarget₀]; simp) (hasRoom_of_capacity rfl _ _)
  -- then the script in `m`, which the first write left in place, over the same bundle path
  obtain ⟨hsummary₂, hdescription₂⟩ := sameStem_default "/f/m/job.py" (.inr rfl)
  have hkept : t₁.readText "/f/m/job.py" = .ok "m\n" := by
    rw [readText_of_sameDirs hw₁.sameDirs hlocate₂
      (hw₁.frame _ (by decide +kernel) (by decide +kernel)), hread₂]
  have hb₂ : BundleOf sameStemConfig t₁ ⟨"/f/m/job.py", none⟩ ⟨"job.py", "", "python3", "m\n"⟩ :=
    ⟨⟨_, .unpaired rfl, hsummary₂.symm, hdescription₂.symm⟩, rfl, hkept⟩
  obtain ⟨hp₂, ht₂⟩ := sameStem_locate sameStem_fileName.2 hw₁.sameDirs
  obtain ⟨t₂, hstep₂, -⟩ := bundleStep_of_locate hb₂ hp₂ ht₂ hne (by rw [hw₁.temp_gone hne]; simp)
    (by rw [hw₁.target_holds]; simp) (hasRoom_of_capacity hw₁.capacity _ _)
  have hwrite : writeEach sameStemConfig "/out" sameStemScriptsOut
      [⟨"/f/s/job.py", none⟩, ⟨"/f/m/job.py", none⟩] =
        (.ok [⟨"/f/s/job.py", pathFor "/out" "/f/s/job.py"⟩,
          ⟨"/f/m/job.py", pathFor "/out" "/f/m/job.py"⟩], t₂) :=
    writeEach_eq_ok_iff.mpr ⟨_, .cons hstep₁ (.cons hstep₂ (.nil _)), rfl⟩
  rw [sameStem_pathFor.1, sameStem_pathFor.2] at hwrite
  refine ⟨t₂, ?_, ?_⟩
  · rw [writeAll_of_scan sameStemScripts_makeDirAll sameStemScriptsOut_scan, hwrite]
  · rw [← sameStem_pathFor.2]
    exact hstep₂.readText_bundle

/-- Two scripts with one stem in different folders are both reported as bundled at one path,
and the bundle of the first is lost: the path holds the bundle of the second. -/
theorem sameStem_bundle_replaced : ∃ t', writeAll sameStemScripts sameStemConfig "/out" =
      (.ok [⟨"/f/s/job.py", "/out/job.yaml"⟩, ⟨"/f/m/job.py", "/out/job.yaml"⟩], t') ∧
    t'.readText "/out/job.yaml" ≠ .ok (Bundle.toYaml ⟨"job.py", "", "python3", "s\n"⟩) := by
  obtain ⟨t', hrun, hread⟩ := sameStem_run
  refine ⟨t', hrun, fun hs => ?_⟩
  rw [hread] at hs
  have hm : Yaml.Emit.value "m\n" = ⟨" |\n  m\n", true⟩ := by cbv
  have hs' : Yaml.Emit.value "s\n" = ⟨" |\n  s\n", true⟩ := by cbv
  have htext := toYaml_written_content (by rfl) (by rfl) (by rfl) (Except.ok.inj hs)
  rw [hm, hs'] at htext
  exact absurd htext (by decide)

theorem writeAll_bundles_same_stem_run : ∃ t', writeAll sameStemScripts sameStemConfig "/out" =
      (.ok [⟨"/f/s/job.py", "/out/job.yaml"⟩, ⟨"/f/m/job.py", "/out/job.yaml"⟩], t') ∧
    ∃ t₀ found steps, sameStemScripts.makeDirAll "/out" = .ok t₀ ∧
      Discovery.scan t₀ sameStemConfig = .ok found ∧
      [⟨"/f/s/job.py", "/out/job.yaml"⟩, ⟨"/f/m/job.py", "/out/job.yaml"⟩] = steps.map Prod.fst ∧
      BundleRun sameStemConfig "/out" t₀ found steps t' := by
  obtain ⟨t', hrun, -⟩ := sameStem_run
  exact ⟨t', hrun, writeAll_bundles_last_write_wins hrun⟩

end Bundle

end ScriptDeploy
