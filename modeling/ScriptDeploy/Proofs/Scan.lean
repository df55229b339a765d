import ScriptDeploy.Proofs.PathNames

/-! # What a scan finds

A scan is the concatenation, over the configured folders in their order, of what each folder
contributes on its own: a folder given twice contributes twice, and a folder that is missing or
is not a directory contributes nothing (`scan_by_folders`). A folder that is a directory
contributes its entries that are sources — UTF-8 names longer in bytes than the dotted
extension, ending with it, of regular files — in ascending byte order of their names, each with
its sidecar when that is a regular file. In a tree whose names are plain, the sidecar is the
source's name without the dotted extension, with the suffix, in the source's directory. The
scripts ready to deploy are exactly the sources found with a sidecar, in the order found.
-/

namespace ScriptDeploy

set_option autoImplicit false

open Files

/-! ## Bytes and names -/

theorem ByteArray.toList_eq_data (bs : ByteArray) : bs.toList = bs.data.toList := by
  -- the loop has reversed the first `i` bytes onto `r`
  have hloop : ∀ i r, ByteArray.toList.loop bs i r = r.reverse ++ bs.data.toList.drop i := by
    intro i r
    fun_induction ByteArray.toList.loop bs i r with
    | case1 i r hi ih =>
      rw [ih, List.reverse_cons, List.append_assoc]
      congr 1
      have hlt : i < bs.data.toList.length := by simpa using hi
      rw [List.drop_eq_getElem_cons hlt]
      simp [ByteArray.get!, hi]
    | case2 i r hi =>
      have hle : bs.data.toList.length ≤ i := by simpa using hi
      simp [List.drop_eq_nil_of_le hle]
  simp [ByteArray.toList, hloop]

theorem toUTF8_toList_of_fromUTF8? {n : Bytes} {s : String}
    (h : String.fromUTF8? n.toByteArray = some s) : s.toUTF8.toList = n := by
  unfold String.fromUTF8? at h
  split at h
  case isTrue hvalid =>
    cases h
    simp [String.toUTF8, String.fromUTF8, ByteArray.toList_eq_data]
  case isFalse => cases h

theorem toUTF8_toList_inj {s t : String} (h : s.toUTF8.toList = t.toUTF8.toList) : s = t := by
  rw [ByteArray.toList_eq_data, ByteArray.toList_eq_data] at h
  exact String.toByteArray_inj.mp (ByteArray.ext (Array.toList_inj.mp h))

theorem slash_mem_toUTF8 {s : String} (h : '/' ∈ s.toList) : (47 : UInt8) ∈ s.toUTF8.toList := by
  rw [String.toUTF8_eq_toByteArray, ← String.utf8Encode_toList, ByteArray.toList_eq_data]
  simp only [List.utf8Encode, List.toList_data_toByteArray, List.mem_flatMap]
  exact ⟨'/', h, by decide⟩

theorem isName_of_plain {n : Bytes} {s : String}
    (hn : n ≠ [] ∧ n ≠ [46] ∧ n ≠ [46, 46] ∧ (47 : UInt8) ∉ n)
    (hs : s.toUTF8.toList = n) : Path.IsName s := by
  obtain ⟨hempty, hcur, hparent, hslash⟩ := hn
  refine ⟨?_, ?_, ?_, fun h => hslash (hs ▸ slash_mem_toUTF8 h)⟩
  · rintro rfl
    exact hempty (by rw [← hs]; decide +kernel)
  · rintro rfl
    exact hcur (by rw [← hs]; decide +kernel)
  · rintro rfl
    exact hparent (by rw [← hs]; decide +kernel)

/-! ## Listing a directory -/

namespace Files

theorem bytesLe_trans : ∀ a b c : Bytes, bytesLe a b = true → bytesLe b c = true → bytesLe a c = true
  | [], _, _, _, _ => rfl
  | _ :: _, [], _, hab, _ => by simp [bytesLe] at hab
  | _ :: _, _ :: _, [], _, hbc => by simp [bytesLe] at hbc
  | x :: xs, y :: ys, z :: zs, hab, hbc => by
    simp only [bytesLe, Bool.or_eq_true, Bool.and_eq_true, beq_iff_eq, decide_eq_true_eq] at hab hbc ⊢
    rcases hab with hxy | ⟨rfl, hxs⟩ <;> rcases hbc with hyz | ⟨rfl, hys⟩
    · exact .inl (UInt8.lt_trans hxy hyz)
    · exact .inl hxy
    · exact .inl hyz
    · exact .inr ⟨rfl, bytesLe_trans xs ys zs hxs hys⟩

theorem bytesLe_total : ∀ a b : Bytes, (bytesLe a b || bytesLe b a) = true
  | [], _ => rfl
  | _ :: _, [] => by simp [bytesLe]
  | x :: xs, y :: ys => by
    simp only [bytesLe, Bool.or_eq_true, Bool.and_eq_true, beq_iff_eq, decide_eq_true_eq]
    by_cases hxy : x < y
    · exact .inl (.inl hxy)
    by_cases hyx : y < x
    · exact .inr (.inl hyx)
    -- neither byte is below the other, so they are equal and the rests decide
    obtain rfl : x = y := UInt8.le_antisymm (UInt8.not_lt.mp hyx) (UInt8.not_lt.mp hxy)
    simpa [or_comm] using bytesLe_total xs ys

namespace Tree

/-- A tree whose names a directory could hold: none is empty, `.` or `..`, and none has a `/`. -/
def NamesPlain (t : Tree) : Prop :=
  ∀ e ∈ t.entries, ∀ n ∈ e.1, n ≠ [] ∧ n ≠ [46] ∧ n ≠ [46, 46] ∧ (47 : UInt8) ∉ n

variable {t : Tree}

theorem childNames_pairwise (t : Tree) (loc : Location) :
    (t.childNames loc).Pairwise (fun a b => bytesLe a b = true) :=
  List.pairwise_mergeSort bytesLe_trans bytesLe_total _

theorem mem_childNames {loc : Location} {n : Bytes} (h : n ∈ t.childNames loc) :
    ∃ e ∈ t.entries, n ∈ e.1 := by
  simp only [childNames, List.mem_mergeSort, List.mem_filterMap] at h
  obtain ⟨⟨l, x⟩, he, hn⟩ := h
  refine ⟨(l, x), he, ?_⟩
  split at hn
  · rename_i n' hlast
    split at hn
    · cases hn
      exact List.mem_of_getLast? hlast
    · cases hn
  · cases hn

theorem find_of_isDir {p : String} (h : t.isDir p = true) : ∃ loc, t.find p = .ok (loc, .dir) := by
  unfold isDir at h
  split at h
  · rename_i loc hfind
    exact ⟨loc, hfind⟩
  · cases h

theorem listDir_of_find {p : String} {loc : Location} (h : t.find p = .ok (loc, .dir)) :
    t.listDir p = .ok (t.childNames loc) := by
  unfold listDir
  rw [h]
  rfl

end Tree

end Files

/-! ## One folder -/

namespace Discovery

def sourceEntry (t : Tree) (dir dotted : String) (n : Bytes) : Bool :=
  match String.fromUTF8? n.toByteArray with
  | some s => decide (dotted.utf8ByteSize < s.utf8ByteSize) && s.endsWith dotted &&
      t.isFile (Path.join dir s)
  | none => false

def foundAt (t : Tree) (c : DeployConfig) (source : String) : Found :=
  let sidecar := sidecarPath source c.sourceExtension c.metadataSuffix
  { source, sidecar := if t.isFile sidecar then some sidecar else none }

/-- What one configured folder adds to a scan. A folder that is not a directory adds nothing. A
directory adds its source entries, ascending by name bytes, each with its sidecar exactly when
that is a regular file; in a tree whose names are plain, the sidecar is the source's stem with
the suffix, in the source's directory. -/
structure FolderScan (t : Tree) (c : DeployConfig) (folder : String) (found : List Found) :
    Prop where
  skipped : t.isDir (Path.join c.scriptsRoot folder) = false → found = []
  sources : t.isDir (Path.join c.scriptsRoot folder) = true →
    ∃ (entries : List Bytes) (names : List String),
      t.listDir (Path.join c.scriptsRoot folder) = .ok entries ∧
      found.map (·.source) = names.map (Path.join (Path.join c.scriptsRoot folder)) ∧
      (names.map (·.toUTF8.toList)).Perm
        (entries.filter (sourceEntry t (Path.join c.scriptsRoot folder) ("." ++ c.sourceExtension))) ∧
      (names.map (·.toUTF8.toList)).Pairwise (fun a b => bytesLe a b = true)
  sidecars : ∀ f ∈ found, f.sidecar =
    if t.isFile (sidecarPath f.source c.sourceExtension c.metadataSuffix)
    then some (sidecarPath f.source c.sourceExtension c.metadataSuffix) else none
  placed : t.NamesPlain → ∀ f ∈ found, ∃ s stem parent,
    f.source = Path.join (Path.join c.scriptsRoot folder) s ∧ stem ++ ("." ++ c.sourceExtension) = s ∧
    Path.parent? f.source = some parent ∧
    sidecarPath f.source c.sourceExtension c.metadataSuffix = Path.join parent (stem ++ c.metadataSuffix)

variable {t : Tree} {c : DeployConfig}

def sourceNames (t : Tree) (dir dotted : String) (entries : List Bytes) : List String :=
  (entries.filterMap (sourceName? dotted)).filter fun s => t.isFile (Path.join dir s)

theorem sourceName?_eq_some {dotted : String} {n : Bytes} {s : String}
    (h : sourceName? dotted n = some s) :
    String.fromUTF8? n.toByteArray = some s ∧ dotted.utf8ByteSize < s.utf8ByteSize ∧
      s.endsWith dotted = true := by
  unfold sourceName? at h
  split at h
  · rename_i s' hdecode
    split at h
    · rename_i hname
      cases h
      simp only [Bool.and_eq_true, decide_eq_true_eq] at hname
      exact ⟨hdecode, hname⟩
    · cases h
  · cases h

theorem sourceEntry_eq (dir dotted : String) (n : Bytes) :
    sourceEntry t dir dotted n =
      ((sourceName? dotted n).map fun s => t.isFile (Path.join dir s)).getD false := by
  unfold sourceEntry sourceName?
  cases String.fromUTF8? n.toByteArray with
  | none => rfl
  | some s =>
    by_cases hname : (decide (dotted.utf8ByteSize < s.utf8ByteSize) && s.endsWith dotted) = true
    · have hname' : (decide (s.utf8ByteSize > dotted.utf8ByteSize) && s.endsWith dotted) = true :=
        hname
      simp only [hname', if_true, Option.map_some, Option.getD_some, Bool.true_and]
    · have hname' : (decide (s.utf8ByteSize > dotted.utf8ByteSize) && s.endsWith dotted) = false :=
        by simpa using hname
      simp only [hname', Bool.false_eq_true, if_false, Option.map_none, Option.getD_none]
      simp

theorem sourceNames_toUTF8 (dir dotted : String) (entries : List Bytes) :
    (sourceNames t dir dotted entries).map (·.toUTF8.toList) =
      entries.filter (sourceEntry t dir dotted) := by
  induction entries with
  | nil => rfl
  | cons n rest ih =>
    unfold sourceNames at ih ⊢
    rw [List.filterMap_cons, List.filter_cons, sourceEntry_eq]
    cases hsource : sourceName? dotted n with
    | none => simpa using ih
    | some s =>
      have hbytes := toUTF8_toList_of_fromUTF8? (sourceName?_eq_some hsource).1
      simp only [String.toUTF8_eq_toByteArray] at hbytes ih ⊢
      by_cases hfile : t.isFile (Path.join dir s) = true
      · simp [hfile, hbytes, ih]
      · simp [hfile, ih]

theorem mem_sourceNames {dir dotted : String} {entries : List Bytes} {s : String}
    (h : s ∈ sourceNames t dir dotted entries) :
    s.toUTF8.toList ∈ entries ∧ dotted.utf8ByteSize < s.utf8ByteSize ∧ s.endsWith dotted = true ∧
      t.isFile (Path.join dir s) = true := by
  simp only [sourceNames, List.mem_filter, List.mem_filterMap] at h
  obtain ⟨⟨n, hn, hsource⟩, hfile⟩ := h
  obtain ⟨hdecode, hsize, hend⟩ := sourceName?_eq_some hsource
  exact ⟨by rw [toUTF8_toList_of_fromUTF8? hdecode]; exact hn, hsize, hend, hfile⟩

theorem sourceName_plain {dir dotted : String} {loc : Location} {s : String} (hplain : t.NamesPlain)
    (hs : s ∈ sourceNames t dir dotted (t.childNames loc)) :
    Path.IsName s ∧ (∃ stem, stem ++ dotted = s ∧ stem ≠ "") ∧
      t.isFile (Path.join dir s) = true := by
  obtain ⟨hentry, hsize, hend, hfile⟩ := mem_sourceNames hs
  obtain ⟨e, he, hn⟩ := Tree.mem_childNames hentry
  obtain ⟨pre, hpre⟩ := (endsWith_iff_suffix _ _).mp hend
  have hstem : String.ofList pre ++ dotted = s := by
    rw [← String.toList_inj, String.toList_append, String.toList_ofList, hpre]
  refine ⟨isName_of_plain (hplain e he _ hn) rfl, ⟨String.ofList pre, hstem, ?_⟩, hfile⟩
  -- the name is longer than the extension, so the stem is not empty
  intro hempty
  rw [hempty, String.empty_append] at hstem
  rw [hstem] at hsize
  exact Nat.lt_irrefl _ hsize

theorem scanFolder_of_not_isDir {folder : String} (h : t.isDir (Path.join c.scriptsRoot folder) = false) :
    scanFolder t c folder = .ok [] := by
  simp [scanFolder, h]

theorem scanFolder_of_listDir {folder : String} {entries : List Bytes}
    (hdir : t.isDir (Path.join c.scriptsRoot folder) = true)
    (hlist : t.listDir (Path.join c.scriptsRoot folder) = .ok entries) :
    scanFolder t c folder = .ok ((sourceNames t (Path.join c.scriptsRoot folder)
      ("." ++ c.sourceExtension) entries).map fun s =>
        foundAt t c (Path.join (Path.join c.scriptsRoot folder) s)) := by
  simp only [scanFolder, hdir, Bool.not_true, Bool.false_eq_true, if_false, hlist, sourceNames,
    List.filter_map, List.map_map]
  rfl

def folderSources (t : Tree) (c : DeployConfig) (folder : String) : List Found :=
  match scanFolder t c folder with
  | .ok found => found
  | .error _ => []

theorem scanFolder_eq_folderSources (folder : String) :
    scanFolder t c folder = .ok (folderSources t c folder) := by
  unfold folderSources
  by_cases hdir : t.isDir (Path.join c.scriptsRoot folder) = true
  · obtain ⟨loc, hfind⟩ := Tree.find_of_isDir hdir
    rw [scanFolder_of_listDir hdir (Tree.listDir_of_find hfind)]
  · rw [scanFolder_of_not_isDir (by simpa using hdir)]

theorem mem_folderSources {folder : String} {f : Found} (hf : f ∈ folderSources t c folder) :
    ∃ loc s, t.find (Path.join c.scriptsRoot folder) = .ok (loc, .dir) ∧
      s ∈ sourceNames t (Path.join c.scriptsRoot folder) ("." ++ c.sourceExtension) (t.childNames loc) ∧
      f = foundAt t c (Path.join (Path.join c.scriptsRoot folder) s) := by
  have hsc := scanFolder_eq_folderSources (t := t) (c := c) folder
  by_cases hdir : t.isDir (Path.join c.scriptsRoot folder) = true
  · obtain ⟨loc, hfind⟩ := Tree.find_of_isDir hdir
    rw [scanFolder_of_listDir hdir (Tree.listDir_of_find hfind)] at hsc
    rw [← Except.ok.inj hsc] at hf
    obtain ⟨s, hs, rfl⟩ := List.mem_map.mp hf
    exact ⟨loc, s, hfind, hs, rfl⟩
  · rw [scanFolder_of_not_isDir (by simpa using hdir)] at hsc
    rw [← Except.ok.inj hsc] at hf
    cases hf

theorem folderSources_folderScan (folder : String) :
    FolderScan t c folder (folderSources t c folder) := by
  have hsc := scanFolder_eq_folderSources (t := t) (c := c) folder
  refine ⟨?_, ?_, ?_, ?_⟩
  · intro hdir
    rw [scanFolder_of_not_isDir hdir] at hsc
    exact (Except.ok.inj hsc).symm
  · intro hdir
    obtain ⟨loc, hfind⟩ := Tree.find_of_isDir hdir
    have hlist := Tree.listDir_of_find hfind
    rw [scanFolder_of_listDir hdir hlist] at hsc
    refine ⟨_, sourceNames t (Path.join c.scriptsRoot folder) ("." ++ c.sourceExtension)
      (t.childNames loc), hlist, ?_, List.Perm.of_eq (sourceNames_toUTF8 _ _ _), ?_⟩
    · rw [← Except.ok.inj hsc, List.map_map]
      rfl
    · rw [sourceNames_toUTF8]
      exact (Tree.childNames_pairwise t loc).sublist List.filter_sublist
  · intro f hf
    obtain ⟨loc, s, -, -, rfl⟩ := mem_folderSources hf
    rfl
  · intro hplain f hf
    obtain ⟨loc, s, -, hs, rfl⟩ := mem_folderSources hf
    obtain ⟨hname, -, -⟩ := sourceName_plain hplain hs
    obtain ⟨-, -, hend, -⟩ := mem_sourceNames hs
    obtain ⟨stem, parent, hstem, hparent, hsidecar⟩ :=
      sidecarPath_join (Path.join c.scriptsRoot folder) c.sourceExtension c.metadataSuffix hname hend
    exact ⟨s, stem, parent, rfl, hstem, hparent, hsidecar⟩

theorem scan_eq_flatMap (t : Tree) (c : DeployConfig) :
    scan t c = .ok (c.folders.flatMap (folderSources t c)) := by
  -- each folder appends its sources to what the folders before it found
  have hfold : ∀ (folders : List String) (acc : List Found),
      folders.foldlM (fun acc folder => (acc ++ ·) <$> scanFolder t c folder) acc =
        .ok (acc ++ folders.flatMap (folderSources t c)) := by
    intro folders
    induction folders with
    | nil =>
      intro acc
      rw [List.foldlM_nil, List.flatMap_nil, List.append_nil]
      rfl
    | cons folder rest ih =>
      intro acc
      rw [List.foldlM_cons, scanFolder_eq_folderSources]
      simp only [List.flatMap_cons, ← List.append_assoc]
      exact ih _
  unfold scan
  simpa using hfold c.folders []

theorem mem_scan {found : List Found} (h : scan t c = .ok found) {f : Found} (hf : f ∈ found) :
    ∃ folder loc s, t.find (Path.join c.scriptsRoot folder) = .ok (loc, .dir) ∧
      s ∈ sourceNames t (Path.join c.scriptsRoot folder) ("." ++ c.sourceExtension) (t.childNames loc) ∧
      f = foundAt t c (Path.join (Path.join c.scriptsRoot folder) s) := by
  rw [scan_eq_flatMap] at h
  cases h
  obtain ⟨folder, -, hsources⟩ := List.mem_flatMap.mp hf
  obtain ⟨loc, s, hfind, hs, rfl⟩ := mem_folderSources hsources
  exact ⟨folder, loc, s, hfind, hs, rfl⟩

theorem ready_eq_filter (found : List Found) :
    (ready found).map (fun s => ({ source := s.source, sidecar := some s.sidecar } : Found)) =
      found.filter (·.sidecar.isSome) := by
  induction found with
  | nil => rfl
  | cons f rest ih =>
    obtain ⟨source, _ | sidecar⟩ := f <;> simpa [ready] using ih

end Discovery

/-- A scan concatenates, over the configured folders in their order, what each folder finds on
its own, so a folder given twice is scanned twice; `FolderScan` says what one folder finds.
The scripts ready to deploy are the sources found with a sidecar, in the order found. -/
theorem scan_by_folders (t : Tree) (c : DeployConfig) :
    ∃ sources : String → List Found,
      Discovery.scan t c = .ok (c.folders.flatMap sources) ∧
      (∀ folder, Discovery.FolderScan t c folder (sources folder)) ∧
      ∃ scripts, Discovery.discover t c = .ok scripts ∧
        scripts.map (fun s => ({ source := s.source, sidecar := some s.sidecar } : Found)) =
          (c.folders.flatMap sources).filter (·.sidecar.isSome) := by
  refine ⟨Discovery.folderSources t c, Discovery.scan_eq_flatMap t c,
    Discovery.folderSources_folderScan, _, ?_, Discovery.ready_eq_filter _⟩
  rw [Discovery.discover, Discovery.scan_eq_flatMap]
  rfl

end ScriptDeploy
