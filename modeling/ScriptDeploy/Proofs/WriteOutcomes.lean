import ScriptDeploy.Proofs.Bundles

/-! # What a write through a temporary file leaves

An atomic write puts the text in a temporary file beside its path, then moves that file over the
path; when the move fails, the temporary file is removed. The temporary path differs from the
path in its last name alone, so the two lead to two places (`tempPath_location_ne`). The write
succeeds exactly when both lead, by a name, to a place where no directory is, and the device has
room for the text (`atomicWrite_ok_iff`).

When no temporary file exists beforehand, a write that succeeds leaves the path a file holding
exactly the text, every other entry as it was and no temporary file (`atomicWrite_replaces`). A
write that fails before the temporary file is made, or at the move, leaves the tree as it was: a
file made where nothing was and then removed leaves no trace in the table
(`erase_set_of_get?_eq_none`). A write of the temporary file that runs out of room is not cleaned
up. It fails with the temporary file left behind, holding the bytes of the text that fit, and the
path untouched (`atomicWrite_error_cases`); on a full device that is what a failed write leaves
(`atomicWrite_full_device_leaves_temp`).
-/

namespace ScriptDeploy

set_option autoImplicit false

open Files Files.Tree

namespace Files.Tree

variable {t : Tree}

theorem keys_ne_of_get?_eq_none {loc : Location} (hloc : loc ≠ []) (h : t.get? loc = none) :
    ∀ p ∈ t.entries, (p.1 != loc) = true := by
  rw [get?_of_ne_nil hloc, List.lookup_eq_none_iff] at h
  intro p hp
  rw [bne_comm]
  exact h p hp

theorem set_of_get?_eq_none {loc : Location} (hloc : loc ≠ []) (h : t.get? loc = none)
    (e : Entry) : t.set loc e = { t with entries := t.entries ++ [(loc, e)] } := by
  have hkeys := keys_ne_of_get?_eq_none hloc h
  have hany : t.entries.any (·.1 == loc) = false := List.any_eq_false.mpr fun p hp hbeq => by
    simpa [bne, hbeq] using hkeys p hp
  unfold set
  rw [if_neg (by simp [hany])]

theorem erase_set_of_get?_eq_none {loc : Location} (hloc : loc ≠ []) (h : t.get? loc = none)
    (e : Entry) : (t.set loc e).erase loc = t := by
  rw [set_of_get?_eq_none hloc h]
  unfold erase
  simp [List.filter_append, List.filter_eq_self.mpr (keys_ne_of_get?_eq_none hloc h)]

theorem roomAt_of_get?_eq_none {loc : Location} (hloc : loc ≠ []) (h : t.get? loc = none) :
    t.roomAt loc = t.capacity.map (· - t.used) := by
  unfold roomAt used
  rw [set_of_get?_eq_none hloc h]
  simp [Entry.size]

theorem get?_eq_none_of_hasEntry {p : String} {l : Location} (h : t.hasEntry p = false)
    (hl : t.locate p = .ok ⟨l, false⟩) : t.get? l = none := by
  cases hget : t.get? l with
  | none => rfl
  | some e =>
    -- whatever is there, the path finds it
    cases e <;> simp [hasEntry, find, hl, hget, bind, Except.bind, pure, Except.pure] at h

theorem hasEntry_eq_false {p : String} {s : Spot} (hl : t.locate p = .ok s)
    (hget : t.get? s.location = none) : t.hasEntry p = false := by
  simp [hasEntry, find, hl, hget, bind, Except.bind, throw, throwThe, MonadExceptOf.throw]

theorem find_of_get? {p : String} {l : Location} {c : Bytes} (hl : t.locate p = .ok ⟨l, false⟩)
    (hget : t.get? l = some (.file c)) : t.find p = .ok (l, .file c) := by
  simp [find, hl, hget, bind, Except.bind, pure, Except.pure]

theorem hasEntry_of_get? {p : String} {l : Location} {c : Bytes} (hl : t.locate p = .ok ⟨l, false⟩)
    (hget : t.get? l = some (.file c)) : t.hasEntry p = true := by
  simp [hasEntry, find_of_get? hl hget]

theorem removeFile_of_locate {p : String} {l : Location} {c : Bytes}
    (hl : t.locate p = .ok ⟨l, false⟩) (hget : t.get? l = some (.file c)) :
    t.removeFile p = .ok (t.erase l) := by
  simp [removeFile, hl, hget, bind, Except.bind, pure, Except.pure]

theorem splitOn_append_no_slash (cs : List Char) :
    ∃ init last, ∀ ys : List Char, '/' ∉ ys → (cs ++ ys).splitOn '/' = init ++ [last ++ ys] := by
  induction cs using List.reverseRecOn with
  | nil => exact ⟨[], [], fun ys hys => by simpa using List.splitOn_eq_singleton hys⟩
  | append_singleton xs c ih =>
    by_cases hc : c = '/'
    · -- the last `/` starts an empty last piece
      subst hc
      refine ⟨xs.splitOn '/', [], fun ys hys => ?_⟩
      rw [List.append_assoc, List.singleton_append, List.splitOn_append_cons_self,
        List.splitOn_eq_singleton hys, List.nil_append]
    · obtain ⟨init, last, hsplit⟩ := ih
      refine ⟨init, last ++ [c], fun ys hys => ?_⟩
      have hcys : '/' ∉ c :: ys := by
        simp only [List.mem_cons, not_or]
        exact ⟨Ne.symm hc, hys⟩
      rw [List.append_assoc, List.singleton_append, hsplit (c :: ys) hcys, List.append_assoc,
        List.singleton_append]

theorem locate_last_name {p : String} {init : List (List Char)} {last : List Char}
    (hsplit : p.toList.splitOn '/' = init ++ [last]) {l : Location}
    (h : t.locate p = .ok ⟨l, false⟩) :
    ∃ L, t.walk [] (init.map String.ofList) = .ok L ∧ l = L ++ [(String.ofList last).toUTF8.toList] := by
  unfold locate at h
  split at h
  · cases h
  split at h
  · cases h
  split at h
  · cases h
  dsimp only at h
  rw [hsplit, List.map_append, List.map_singleton, walk_append] at h
  have hslash : '/' ∉ (String.ofList last).toList := by
    rw [String.toList_ofList]
    exact RemotePath.not_mem_of_mem_splitOn '/' (hsplit ▸ List.mem_append_right init (List.mem_singleton_self last))
  cases hdir : t.walk [] (init.map String.ofList) with
  | error e => rw [hdir] at h; cases h
  | ok L =>
    rw [hdir] at h
    cases hname : t.walk L [String.ofList last] with
    | error e => simp [hname, bind, Except.bind, Except.map] at h
    | ok r =>
      simp only [hname, bind, Except.bind, Except.map, Except.ok.injEq, Spot.mk.injEq,
        List.getLast?_append, List.getLast?_singleton, Option.some_or, Option.getD_some,
        Bool.or_eq_false_iff, beq_eq_false_iff_ne, ne_eq] at h
      obtain ⟨rfl, ⟨hempty, hcur⟩, hpar⟩ := h
      -- a last piece that names neither a directory nor a climb is a name
      obtain ⟨-, rfl⟩ := walk_name ⟨by simpa using hempty, hcur, hpar, hslash⟩ hname
      exact ⟨L, rfl, rfl⟩

end Files.Tree

namespace Bundle

variable {t t' : Tree} {path text : String}

theorem tempPath_location_ne {target temp : Location} (hp : t.locate path = .ok ⟨target, false⟩)
    (ht : t.locate (tempPath path) = .ok ⟨temp, false⟩) : temp ≠ target := by
  obtain ⟨init, last, hsplit⟩ := splitOn_append_no_slash path.toList
  have hsuffix : '/' ∉ ".wmdeploy.tmp".toList := by decide
  have hpath : path.toList.splitOn '/' = init ++ [last] := by
    simpa using hsplit [] (by simp)
  have htemp : (tempPath path).toList.splitOn '/' = init ++ [last ++ ".wmdeploy.tmp".toList] := by
    rw [tempPath, String.toList_append]
    exact hsplit _ hsuffix
  obtain ⟨L, hL, rfl⟩ := locate_last_name hpath hp
  obtain ⟨L', hL', rfl⟩ := locate_last_name htemp ht
  obtain rfl : L' = L := Except.ok.inj (hL'.symm.trans hL)
  -- the two last names differ by the suffix
  intro heq
  have hnames := toUTF8_toList_inj (List.singleton_inj.mp (List.append_cancel_left heq))
  have hlength := congrArg (·.toList.length) hnames
  simp only [String.toList_ofList, List.length_append] at hlength
  exact absurd hlength (by simp)

/-- Where an atomic write can go: the path and its temporary path each lead, by a name, to a
place where no directory is, and the device has room for the bytes at the temporary place. -/
def Writable (t : Tree) (path : String) (bytes : Bytes) : Prop :=
  ∃ target temp, t.locate path = .ok ⟨target, false⟩ ∧ t.get? target ≠ some .dir ∧
    t.locate (tempPath path) = .ok ⟨temp, false⟩ ∧ t.get? temp ≠ some .dir ∧ t.HasRoom temp bytes

theorem atomicWrite_ok_iff :
    (atomicWrite t path text).1 = .ok () ↔ Writable t path text.toUTF8.toList := by
  constructor
  · intro h
    rcases hw : atomicWrite t path text with ⟨r, t'⟩
    rw [hw] at h
    cases h
    obtain ⟨target, temp, hp, ht, hroom, hwrites⟩ := atomicWrite_eq_ok hw
    -- neither place held a directory, as the write keeps the directories
    have hnotdir : ∀ l, t'.get? l ≠ some .dir → t.get? l ≠ some .dir :=
      fun l h' hdir => h' ((hwrites.sameDirs l).mp hdir)
    refine ⟨target, temp, hp, hnotdir target (by simp [hwrites.target_holds]), ht, ?_, hroom⟩
    by_cases hsame : temp = target
    · exact hnotdir temp (by simp [hsame, hwrites.target_holds])
    · exact hnotdir temp (by simp [hwrites.temp_gone hsame])
  · rintro ⟨target, temp, hp, htarget, ht, htemp, hroom⟩
    rw [atomicWrite_of_locate hp ht (tempPath_location_ne hp ht) htemp htarget hroom]

theorem atomicWrite_of_full {temp : Location} {n : Nat}
    (ht : t.locate (tempPath path) = .ok ⟨temp, false⟩) (htemp : t.get? temp ≠ some .dir)
    (hroom : t.roomAt temp = some n) (hn : n < text.toUTF8.toList.length) :
    atomicWrite t path text = (.error (.fileFailed (tempPath path) .noSpace),
      t.set temp (.file (text.toUTF8.toList.take n))) := by
  unfold atomicWrite
  dsimp only
  rw [writeFile_of_full ht htemp hroom hn]

/-- What a successful atomic write leaves: the path leads where it did, now to a file holding
exactly the text; no other entry has changed, and there is no temporary file. -/
structure Replaces (t : Tree) (path text : String) (t' : Tree) : Prop where
  written : ∃ target, t.locate path = .ok ⟨target, false⟩ ∧
    t'.find path = .ok (target, .file text.toUTF8.toList) ∧ ∀ l, l ≠ target → t'.get? l = t.get? l
  temp_gone : t'.hasEntry (tempPath path) = false

/-- What a write of the temporary file that runs out of room leaves: that file, holding the
bytes of the text that fit, every other entry as it was, and so the path untouched. -/
structure LeavesCut (t : Tree) (path text : String) (t' : Tree) : Prop where
  cut : ∃ temp n, t.locate (tempPath path) = .ok ⟨temp, false⟩ ∧ t.roomAt temp = some n ∧
    n < text.toUTF8.toList.length ∧ t' = t.set temp (.file (text.toUTF8.toList.take n))
  temp_left : t'.hasEntry (tempPath path) = true
  path_kept : ∀ target, t.locate path = .ok ⟨target, false⟩ → t'.get? target = t.get? target

theorem atomicWrite_replaces (hfresh : t.hasEntry (tempPath path) = false)
    (h : atomicWrite t path text = (.ok (), t')) : Replaces t path text t' := by
  obtain ⟨target, temp, hp, ht, -, hw⟩ := atomicWrite_eq_ok h
  have hne := tempPath_location_ne hp ht
  have hnone := get?_eq_none_of_hasEntry hfresh ht
  refine ⟨⟨target, hp, find_of_get? (locate_of_sameDirs hw.sameDirs hp) hw.target_holds, ?_⟩,
    hasEntry_eq_false (locate_of_sameDirs hw.sameDirs ht) (hw.temp_gone hne)⟩
  -- the temporary place is empty before and after; every other place is as it was
  intro l hl
  by_cases htemp : l = temp
  · rw [htemp, hw.temp_gone hne, hnone]
  · exact hw.frame l hl htemp

theorem leavesCut_of_full {temp : Location} {n : Nat}
    (ht : t.locate (tempPath path) = .ok ⟨temp, false⟩) (htemp : t.get? temp ≠ some .dir)
    (hroom : t.roomAt temp = some n) (hn : n < text.toUTF8.toList.length) :
    LeavesCut t path text (t.set temp (.file (text.toUTF8.toList.take n))) where
  cut := ⟨temp, n, ht, hroom, hn, rfl⟩
  temp_left := hasEntry_of_get? (locate_of_sameDirs (sameDirs_set_file htemp _) ht)
    (by rw [get?_set (ne_nil_of_get?_ne_dir htemp), if_pos rfl])
  path_kept target hp := by
    rw [get?_set (ne_nil_of_get?_ne_dir htemp), if_neg (tempPath_location_ne hp ht).symm]

/-- A failed atomic write from a tree without its temporary file gives the tree back, unless the
temporary file ran out of room: then that file is left, cut short. -/
theorem atomicWrite_error_cases {e : SyncError} (hfresh : t.hasEntry (tempPath path) = false)
    (h : atomicWrite t path text = (.error e, t')) :
    t' = t ∨ e = .fileFailed (tempPath path) .noSpace ∧ LeavesCut t path text t' := by
  unfold atomicWrite at h
  dsimp only at h
  rcases hw : t.writeFile (tempPath path) text.toUTF8.toList with ⟨_ | ⟨⟩, written⟩
  · -- the temporary file was not written, or only in part
    rw [hw] at h
    obtain ⟨he, rfl⟩ := Prod.mk.inj h
    rcases writeFile_eq_error hw with rfl | ⟨temp, n, ht, htemp, hroom, hn, rfl, rfl⟩
    · exact .inl rfl
    · exact .inr ⟨(Except.error.inj he).symm, leavesCut_of_full ht htemp hroom hn⟩
  · rw [hw] at h
    dsimp only at h
    obtain ⟨temp, htemp, htempdir, -, rfl⟩ := writeFile_eq_ok hw
    have htempnil := ne_nil_of_get?_ne_dir htempdir
    -- the move failed, and removing the file just made gives the tree back
    have hremove : (t.set temp (.file text.toUTF8.toList)).removeFile (tempPath path) = .ok t := by
      rw [removeFile_of_locate (locate_of_sameDirs (sameDirs_set_file htempdir _) htemp)
        (by rw [get?_set htempnil, if_pos rfl]),
        erase_set_of_get?_eq_none htempnil (get?_eq_none_of_hasEntry hfresh htemp)]
    cases hm : (t.set temp (.file text.toUTF8.toList)).moveFile (tempPath path) path with
    | ok moved =>
      rw [hm] at h
      cases h
    | error err =>
      rw [hm] at h
      dsimp only at h
      rw [hremove] at h
      exact .inl (Prod.mk.inj h).2.symm

/-- When its temporary file does not exist beforehand, an atomic write succeeds exactly where it
can go with room for the text, and then leaves the path a file holding exactly the text, nothing
else changed and no temporary file. When it fails it leaves the tree as it was, except when the
device runs out of room for the temporary file: then that file is left holding the bytes that
fit. -/
theorem atomicWrite_replaces_keeps_or_cuts (hfresh : t.hasEntry (tempPath path) = false)
    (text : String) :
    ((atomicWrite t path text).1 = .ok () ↔ Writable t path text.toUTF8.toList) ∧
      ((∃ t', atomicWrite t path text = (.ok (), t') ∧ Replaces t path text t') ∨
        (∃ e, atomicWrite t path text = (.error e, t)) ∨
        ∃ t', atomicWrite t path text = (.error (.fileFailed (tempPath path) .noSpace), t') ∧
          LeavesCut t path text t') := by
  refine ⟨atomicWrite_ok_iff, ?_⟩
  rcases hw : atomicWrite t path text with ⟨r, t'⟩
  cases r with
  | ok u => exact .inl ⟨t', rfl, atomicWrite_replaces hfresh hw⟩
  | error e =>
    rcases atomicWrite_error_cases hfresh hw with rfl | ⟨rfl, hcut⟩
    · exact .inr (.inl ⟨e, rfl⟩)
    · exact .inr (.inr ⟨t', rfl, hcut⟩)

/-! ## A full device -/

/-- The two scripts once `/out` is made, on a device with room for the four bytes they hold and
no more. -/
def fullScriptsOut : Tree := { sameStemScriptsOut with capacity := some 4 }

theorem fullScriptsOut_locate_temp :
    fullScriptsOut.locate (tempPath "/out/job.yaml") =
      .ok ⟨["out".toUTF8.toList, ("job.yaml" ++ ".wmdeploy.tmp").toUTF8.toList], false⟩ := by
  rw [← sameStem_pathFor.1]
  -- the device's limit plays no part in a walk
  exact (sameStem_locate sameStem_fileName.1 (t := fullScriptsOut) fun _ => Iff.rfl).2

theorem fullScriptsOut_get?_temp :
    fullScriptsOut.get? ["out".toUTF8.toList, ("job.yaml" ++ ".wmdeploy.tmp").toUTF8.toList] = none :=
  sameStemScriptsOut_get?.2

theorem fullScriptsOut_hasEntry_temp : fullScriptsOut.hasEntry (tempPath "/out/job.yaml") = false :=
  hasEntry_eq_false fullScriptsOut_locate_temp fullScriptsOut_get?_temp

theorem fullScriptsOut_roomAt_temp :
    fullScriptsOut.roomAt ["out".toUTF8.toList, ("job.yaml" ++ ".wmdeploy.tmp").toUTF8.toList] =
      some 0 := by
  rw [roomAt_of_get?_eq_none (by simp) fullScriptsOut_get?_temp]
  decide +kernel

/-- On a full device, a bundle written where no temporary file is fails, and leaves its temporary
file behind: the tree is not as it was. -/
theorem atomicWrite_full_device_leaves_temp :
    fullScriptsOut.hasEntry (tempPath "/out/job.yaml") = false ∧
      ∃ t', atomicWrite fullScriptsOut "/out/job.yaml" "v2" =
          (.error (.fileFailed (tempPath "/out/job.yaml") .noSpace), t') ∧
        t' ≠ fullScriptsOut ∧ t'.hasEntry (tempPath "/out/job.yaml") = true := by
  have htemp : fullScriptsOut.get? ["out".toUTF8.toList, ("job.yaml" ++ ".wmdeploy.tmp").toUTF8.toList]
      ≠ some .dir := by
    rw [fullScriptsOut_get?_temp]
    simp
  have hshort : 0 < "v2".toUTF8.toList.length := by decide +kernel
  have hcut : LeavesCut fullScriptsOut "/out/job.yaml" "v2" _ :=
    leavesCut_of_full fullScriptsOut_locate_temp htemp fullScriptsOut_roomAt_temp hshort
  refine ⟨fullScriptsOut_hasEntry_temp, _,
    atomicWrite_of_full fullScriptsOut_locate_temp htemp fullScriptsOut_roomAt_temp hshort,
    fun heq => ?_, hcut.temp_left⟩
  have hleft := hcut.temp_left
  rw [heq, fullScriptsOut_hasEntry_temp] at hleft
  exact Bool.false_ne_true hleft

theorem atomicWrite_replaces_keeps_or_cuts_full :
    fullScriptsOut.hasEntry (tempPath "/out/job.yaml") = false ∧
      ((atomicWrite fullScriptsOut "/out/job.yaml" "v2").1 = .ok () ↔
          Writable fullScriptsOut "/out/job.yaml" "v2".toUTF8.toList) ∧
        ((∃ t', atomicWrite fullScriptsOut "/out/job.yaml" "v2" = (.ok (), t') ∧
            Replaces fullScriptsOut "/out/job.yaml" "v2" t') ∨
          (∃ e, atomicWrite fullScriptsOut "/out/job.yaml" "v2" = (.error e, fullScriptsOut)) ∨
          ∃ t', atomicWrite fullScriptsOut "/out/job.yaml" "v2" =
              (.error (.fileFailed (tempPath "/out/job.yaml") .noSpace), t') ∧
            LeavesCut fullScriptsOut "/out/job.yaml" "v2" t') :=
  ⟨fullScriptsOut_hasEntry_temp,
    atomicWrite_replaces_keeps_or_cuts fullScriptsOut_hasEntry_temp "v2"⟩

end Bundle

end ScriptDeploy
