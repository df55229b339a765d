import ScriptDeploy.Metadata
import Mathlib

/-! # What a sidecar's text gives

A sidecar's text is read in two steps: as a YAML value, then that value as the three fields of
a sidecar. Both steps are parameters here, with what each promises stated on its own: the
reader never gives a mapping that holds one key twice (`ReadsApart`), and the decoder reads a
mapping field by field, passes over text keys that name no field and fails on a key that is not
text or a schema without a JSON form (`Sidecar.Decodes`). The reader and the decoder of the
library keep these promises (`readsApart_parseWith_readValue`, `Sidecar.decodes_ofValue`).

Blank text and a null document give every default: the summary is the source's file name, or
its whole path when it has none, the description is empty and the schema is the empty object,
exactly the metadata of a script without a sidecar. A mapping whose keys are text, whose summary
and description are text or null and whose schema, if any, has a JSON form (`SidecarMapping`)
gives its fields (`GivesMetadata`), and the defaults when it carries nothing usable. A key that
is not text stops the reading, so not every other key is passed over (`number_key_refused`).
Every failure names the sidecar (`Metadata.parseWith_fields_defaults_failures`).
-/

namespace ScriptDeploy

set_option autoImplicit false

theorem Except.bind_eq_ok {ε α β : Type} {x : Except ε α} {f : α → Except ε β} {b : β} :
    x >>= f = .ok b ↔ ∃ a, x = .ok a ∧ f a = .ok b := by
  cases x <;> simp [bind, Except.bind]

theorem Except.mapError_eq_ok {ε ε' α : Type} {x : Except ε α} {f : ε → ε'} {a : α} :
    x.mapError f = .ok a ↔ x = .ok a := by
  cases x <;> simp [Except.mapError]

theorem Except.foldlM_eq_error_of_mem {σ α ε : Type} {f : σ → α → Except ε σ} {e : α}
    (hfail : ∀ s, ∃ m, f s e = .error m) : ∀ {es : List α} (s : σ), e ∈ es →
      ∃ m, es.foldlM f s = .error m
  | [], _, he => absurd he List.not_mem_nil
  | a :: rest, s, he => by
    rw [List.foldlM_cons]
    cases hs : f s a with
    | error m => exact ⟨m, rfl⟩
    | ok s₁ =>
      rcases List.mem_cons.mp he with rfl | he
      · obtain ⟨m, hm⟩ := hfail s
        rw [hm] at hs
        cases hs
      · exact Except.foldlM_eq_error_of_mem hfail s₁ he

namespace Yaml

/-! ## The reader keeps the keys of a mapping apart -/

/-- No entry of a mapping has a key that is the same as the key of an entry before it. -/
def KeysApart (es : List (Value × Value)) : Prop :=
  es.Pairwise fun a b => b.1.same a.1 = false

theorem same_string (a b : String) : (Value.string a).same (.string b) = (a == b) := by
  simp [Value.same]

/-- A key is refused when it is the same as one already stored, so the stored keys stay apart;
the entries are kept newest first and given back in order. -/
theorem anyEntries_keysApart : ∀ (fuel : Nat) (doc : Document) (scope : Scope) (spot : Spot)
    (acc es : List (Value × Value)) (s : Spot),
    anyEntries fuel doc scope spot acc = .ok (es, s) →
    acc.Pairwise (fun a b => a.1.same b.1 = false) → KeysApart es
  | 0, _, _, _, _, _, _, h, _ => by simp [anyEntries] at h
  | fuel + 1, doc, scope, spot, acc, es, s, h, hacc => by
    rw [anyEntries] at h
    cases hpeek : doc.peek spot with
    | error e => simp [hpeek, bind, Except.bind] at h
    | ok im =>
      obtain ⟨item, mark⟩ := im
      simp only [hpeek, bind, Except.bind] at h
      split at h
      · cases h
        simpa [KeysApart, List.pairwise_reverse] using hacc
      · cases h
        simpa [KeysApart, List.pairwise_reverse] using hacc
      · -- a key: it must differ from every key stored so far
        cases hkey : anyValue fuel doc scope spot with
        | error e => simp [hkey] at h
        | ok ks =>
          obtain ⟨k, s₁⟩ := ks
          simp only [hkey] at h
          cases hfind : acc.find? (fun e => k.same e.1) with
          | some e => simp [hfind, throw, throwThe, MonadExceptOf.throw] at h
          | none =>
            simp only [hfind] at h
            cases hval : anyValue fuel doc (scope.child (entryPath scope item)) s₁ with
            | error e => simp [hval] at h
            | ok vs =>
              simp only [hval] at h
              refine anyEntries_keysApart fuel doc scope _ _ es s h ?_
              refine List.pairwise_cons.mpr ⟨fun e he => ?_, hacc⟩
              simpa using List.find?_eq_none.mp hfind e he

theorem anyValue_keysApart : ∀ (fuel : Nat) (doc : Document) (scope : Scope) (spot : Spot)
    (es : List (Value × Value)) (s : Spot),
    anyValue fuel doc scope spot = .ok (.mapping es, s) → KeysApart es
  | 0, _, _, _, _, _, h => by simp [anyValue] at h
  | fuel + 1, doc, scope, spot, es, s, h => by
    rw [anyValue] at h
    obtain ⟨⟨item, mark, after⟩, -, h⟩ := Except.bind_eq_ok.mp h
    rw [Except.mapError_eq_ok] at h
    cases item with
    | «alias» id =>
      obtain ⟨target, -, h⟩ := Except.bind_eq_ok.mp h
      obtain ⟨⟨v, s₁⟩, hv, h⟩ := Except.bind_eq_ok.mp h
      cases h
      exact anyValue_keysApart fuel doc _ _ es s₁ hv
    | scalar tag text style =>
      simp only at h
      split at h
      · obtain ⟨_, -, h⟩ := Except.bind_eq_ok.mp h
        cases h
      · obtain ⟨r, -, h⟩ := Except.bind_eq_ok.mp h
        obtain ⟨v, hv, h⟩ := Except.bind_eq_ok.mp h
        cases h
        rw [Except.mapError_eq_ok] at hv
        cases r <;> simp [Resolved.toValue] at hv
    | sequenceStart tag =>
      simp only at h
      split at h
      · obtain ⟨_, -, h⟩ := Except.bind_eq_ok.mp h
        cases h
      · obtain ⟨_, -, h⟩ := Except.bind_eq_ok.mp h
        obtain ⟨_, -, h⟩ := Except.bind_eq_ok.mp h
        obtain ⟨_, -, h⟩ := Except.bind_eq_ok.mp h
        cases h
    | mappingStart tag =>
      simp only at h
      split at h
      · obtain ⟨_, -, h⟩ := Except.bind_eq_ok.mp h
        cases h
      · obtain ⟨inner, -, h⟩ := Except.bind_eq_ok.mp h
        obtain ⟨⟨found, s₁⟩, hfound, h⟩ := Except.bind_eq_ok.mp h
        obtain ⟨_, -, h⟩ := Except.bind_eq_ok.mp h
        cases h
        exact anyEntries_keysApart fuel doc inner after [] found s₁ hfound List.Pairwise.nil
    | void => cases h
    | sequenceEnd => cases h
    | mappingEnd => cases h

theorem parseWith_eq_ok {α : Type} {read : NodeReader α} {input : String} {a : α}
    (h : parseWith read input = .ok a) : ∃ s, read (Document.first input).1 {} {} = .ok (a, s) := by
  unfold parseWith at h
  generalize hfirst : Document.first input = loaded at h
  obtain ⟨doc, more⟩ := loaded
  obtain ⟨⟨a', s⟩, hread, h⟩ := Except.bind_eq_ok.mp h
  refine ⟨s, ?_⟩
  cases hstop : doc.stop with
  | some e => simp [hstop, throw, throwThe, MonadExceptOf.throw] at h
  | none =>
    cases more with
    | true => simp [hstop, throw, throwThe, MonadExceptOf.throw] at h
    | false =>
      simp only [hstop, Bool.false_eq_true, ↓reduceIte, pure, Except.pure, Except.ok.injEq] at h
      rw [← h]
      exact hread

/-- A reader of YAML values that never gives a mapping holding one key twice. -/
def ReadsApart (read : String → Except Error Value) : Prop :=
  ∀ input es, read input = .ok (.mapping es) → KeysApart es

theorem readsApart_parseWith_readValue : ReadsApart (parseWith readValue) := by
  intro input es h
  obtain ⟨s, hread⟩ := parseWith_eq_ok h
  exact anyValue_keysApart _ _ _ _ es s hread

end Yaml

open Yaml

/-! ## A mapping as the fields of a sidecar -/

/-- A mapping that reads as the fields of a sidecar: its keys are text, its summary and its
description are text or null, and its schema has a JSON form. -/
structure SidecarMapping (es : List (Value × Value)) : Prop where
  keys_text : ∀ e ∈ es, ∃ k, e.1 = .string k
  summary_text : ∀ v, (.string "summary", v) ∈ es → v = .null ∨ ∃ s, v = .string s
  description_text : ∀ v, (.string "description", v) ∈ es → v = .null ∨ ∃ s, v = .string s
  schema_json : ∀ v, (.string "schema", v) ∈ es → ∃ j, v.toJson = .ok j

theorem SidecarMapping.tail {e : Value × Value} {rest : List (Value × Value)}
    (h : SidecarMapping (e :: rest)) : SidecarMapping rest :=
  ⟨fun e' he => h.keys_text e' (List.mem_cons_of_mem _ he),
    fun v hv => h.summary_text v (List.mem_cons_of_mem _ hv),
    fun v hv => h.description_text v (List.mem_cons_of_mem _ hv),
    fun v hv => h.schema_json v (List.mem_cons_of_mem _ hv)⟩

theorem SidecarMapping.head {e : Value × Value} {rest : List (Value × Value)}
    (h : SidecarMapping (e :: rest)) : SidecarMapping [e] :=
  ⟨fun e' he => h.keys_text e' (List.mem_cons.mpr (.inl (List.mem_singleton.mp he))),
    fun v hv => h.summary_text v (List.mem_cons.mpr (.inl (List.mem_singleton.mp hv))),
    fun v hv => h.description_text v (List.mem_cons.mpr (.inl (List.mem_singleton.mp hv))),
    fun v hv => h.schema_json v (List.mem_cons.mpr (.inl (List.mem_singleton.mp hv)))⟩

namespace Sidecar

/-- `TextFill name get es sc sc'`: the text field that `get` reads, named `name`, holds in `sc'`
the text that an entry of `es` gives it, or what it held in `sc` when no entry does. -/
def TextFill (name : String) (get : Sidecar → Option String) (es : List (Value × Value))
    (sc sc' : Sidecar) : Prop :=
  (∀ s, (.string name, .string s) ∈ es → get sc' = some s) ∧
    ((∀ s, (.string name, .string s) ∉ es) → get sc' = get sc)

/-- The schema holds in `sc'` the JSON form of a schema that an entry of `es` gives, or what it
held in `sc` when every entry for it is null. -/
def SchemaFill (es : List (Value × Value)) (sc sc' : Sidecar) : Prop :=
  (∀ v j, (.string "schema", v) ∈ es → v ≠ .null → v.toJson = .ok j → sc'.schema = some j) ∧
    ((∀ v, (.string "schema", v) ∈ es → v = .null) → sc'.schema = sc.schema)

/-- `Fills es sc sc'`: `sc'` is `sc` with the fields that the entries `es` give. -/
structure Fills (es : List (Value × Value)) (sc sc' : Sidecar) : Prop where
  summary : TextFill "summary" Sidecar.summary es sc sc'
  description : TextFill "description" Sidecar.description es sc sc'
  schema : SchemaFill es sc sc'

variable {sc sc₁ sc' : Sidecar} {k : Value} {v : Value} {rest : List (Value × Value)}

theorem TextFill.cons {name : String} {get : Sidecar → Option String}
    (hhead : TextFill name get [(k, v)] sc sc₁) (hrest : TextFill name get rest sc₁ sc')
    (hapart : ∀ e ∈ rest, e.1 ≠ k) : TextFill name get ((k, v) :: rest) sc sc' := by
  constructor
  · intro s hs
    rcases List.mem_cons.mp hs with hs | hs
    · have hnone : ∀ s', (.string name, .string s') ∉ rest := by
        intro s' hs'
        exact hapart _ hs' (congrArg Prod.fst hs)
      rw [hrest.2 hnone]
      exact hhead.1 s (List.mem_singleton.mpr hs)
    · exact hrest.1 s hs
  · intro hnone
    rw [hrest.2 fun s hs => hnone s (List.mem_cons_of_mem _ hs)]
    exact hhead.2 fun s hs => hnone s (List.mem_cons.mpr (.inl (List.mem_singleton.mp hs)))

theorem SchemaFill.cons (hhead : SchemaFill [(k, v)] sc sc₁) (hrest : SchemaFill rest sc₁ sc')
    (hapart : ∀ e ∈ rest, e.1 ≠ k) : SchemaFill ((k, v) :: rest) sc sc' := by
  constructor
  · intro v' j hv' hnull hj
    rcases List.mem_cons.mp hv' with hv' | hv'
    · have hk : Value.string "schema" = k := congrArg Prod.fst hv'
      have hnone : ∀ v'', (.string "schema", v'') ∈ rest → v'' = .null := by
        intro v'' hv''
        exact absurd hk (hapart _ hv'')
      rw [hrest.2 hnone]
      exact hhead.1 v' j (List.mem_singleton.mpr hv') hnull hj
    · exact hrest.1 v' j hv' hnull hj
  · intro hnull
    rw [hrest.2 fun v' hv' => hnull v' (List.mem_cons_of_mem _ hv')]
    exact hhead.2 fun v' hv' => hnull v' (List.mem_cons.mpr (.inl (List.mem_singleton.mp hv')))

theorem Fills.cons (hhead : Fills [(k, v)] sc sc₁) (hrest : Fills rest sc₁ sc')
    (hapart : ∀ e ∈ rest, e.1 ≠ k) : Fills ((k, v) :: rest) sc sc' :=
  ⟨hhead.summary.cons hrest.summary hapart, hhead.description.cons hrest.description hapart,
    hhead.schema.cons hrest.schema hapart⟩

theorem Fills.unchanged {name : String} (hfield : ∀ s, (name = "summary" ∨ name = "description") →
    v ≠ .string s) (hschema : name = "schema" → v = .null) :
    Fills [(.string name, v)] sc sc := by
  refine ⟨⟨?_, fun _ => rfl⟩, ⟨?_, fun _ => rfl⟩, ⟨?_, fun _ => rfl⟩⟩
  · intro s hs
    simp only [List.mem_singleton, Prod.mk.injEq, Value.string.injEq] at hs
    exact (hfield s (.inl hs.1.symm) hs.2.symm).elim
  · intro s hs
    simp only [List.mem_singleton, Prod.mk.injEq, Value.string.injEq] at hs
    exact (hfield s (.inr hs.1.symm) hs.2.symm).elim
  · intro v' j hv' hnull _
    simp only [List.mem_singleton, Prod.mk.injEq, Value.string.injEq] at hv'
    exact absurd (hv'.2 ▸ hschema hv'.1.symm) hnull

/-! ## One entry -/

variable {seen : List String} {name s : String}

theorem setField_ignored (hname : name ∉ fieldNames) :
    setField (sc, seen) (.string name, v) = .ok (sc, seen) := by
  simp [setField, Value.asText, Value.untag, hname, pure, Except.pure, bind, Except.bind]

theorem setField_null (hname : name ∈ fieldNames) (hseen : name ∉ seen) :
    setField (sc, seen) (.string name, .null) = .ok (sc, name :: seen) := by
  simp [setField, Value.asText, Value.untag, hname, hseen, pure, Except.pure, bind, Except.bind]

theorem setField_summary (hseen : "summary" ∉ seen) :
    setField (sc, seen) (.string "summary", .string s) =
      .ok ({ sc with summary := some s }, "summary" :: seen) := by
  simp [setField, fieldNames, Value.asText, Value.untag, hseen, pure, Except.pure, bind,
    Except.bind]

theorem setField_description (hseen : "description" ∉ seen) :
    setField (sc, seen) (.string "description", .string s) =
      .ok ({ sc with description := some s }, "description" :: seen) := by
  simp [setField, fieldNames, Value.asText, Value.untag, hseen, pure, Except.pure, bind,
    Except.bind]

theorem setField_schema {j : Json} (hseen : "schema" ∉ seen) (hnull : v ≠ .null)
    (hj : v.toJson = .ok j) :
    setField (sc, seen) (.string "schema", v) =
      .ok ({ sc with schema := some j }, "schema" :: seen) := by
  cases v with
  | null => exact absurd rfl hnull
  | _ => simp_all [setField, fieldNames, Value.asText, Value.untag, pure, Except.pure, bind,
      Except.bind]

theorem setField_fills (hmap : SidecarMapping [(.string name, v)]) (hseen : name ∉ seen) :
    ∃ sc₁ seen₁, setField (sc, seen) (.string name, v) = .ok (sc₁, seen₁) ∧
      Fills [(.string name, v)] sc sc₁ ∧ seen₁ ⊆ name :: seen := by
  have hhere : (Value.string name, v) ∈ [(Value.string name, v)] := List.mem_singleton_self _
  by_cases hname : name ∈ fieldNames
  · by_cases hv : v = .null
    · subst hv
      refine ⟨sc, _, setField_null hname hseen, Fills.unchanged (by simp) (fun _ => rfl),
        List.Subset.refl _⟩
    · simp only [fieldNames, List.mem_cons, List.not_mem_nil, or_false] at hname
      rcases hname with rfl | rfl | rfl
      · obtain ⟨s, rfl⟩ := (hmap.summary_text v hhere).resolve_left hv
        refine ⟨_, _, setField_summary hseen, ?_, List.Subset.refl _⟩
        refine ⟨⟨fun s' hs' => ?_, fun hnone => absurd hhere (hnone s)⟩, ⟨?_, fun _ => rfl⟩,
          ⟨?_, fun _ => rfl⟩⟩
        · simp_all
        · intro s' hs'
          simp at hs'
        · intro v' j hv' _ _
          simp at hv'
      · obtain ⟨s, rfl⟩ := (hmap.description_text v hhere).resolve_left hv
        refine ⟨_, _, setField_description hseen, ?_, List.Subset.refl _⟩
        refine ⟨⟨?_, fun _ => rfl⟩, ⟨fun s' hs' => ?_, fun hnone => absurd hhere (hnone s)⟩,
          ⟨?_, fun _ => rfl⟩⟩
        · intro s' hs'
          simp at hs'
        · simp_all
        · intro v' j hv' _ _
          simp at hv'
      · obtain ⟨j, hj⟩ := hmap.schema_json v hhere
        refine ⟨_, _, setField_schema hseen hv hj, ?_, List.Subset.refl _⟩
        refine ⟨⟨?_, fun _ => rfl⟩, ⟨?_, fun _ => rfl⟩, ⟨fun v' j' hv' _ hj' => ?_,
          fun hall => absurd (hall v hhere) hv⟩⟩
        · intro s' hs'
          simp at hs'
        · intro s' hs'
          simp at hs'
        · simp only [List.mem_singleton, Prod.mk.injEq, true_and] at hv'
          subst hv'
          rw [hj] at hj'
          cases hj'
          rfl
  · refine ⟨sc, seen, setField_ignored hname, Fills.unchanged ?_ ?_, List.subset_cons_self _ _⟩
    · rintro s (rfl | rfl) <;> simp [fieldNames] at hname
    · rintro rfl
      simp [fieldNames] at hname

theorem asText_eq_error {k : Value} (hk : ∀ n, k.untag ≠ .string n) (expected : String) :
    ∃ m, k.asText expected = .error m := by
  unfold Value.asText
  split
  · rename_i n hn
    exact absurd hn (hk n)
  · exact ⟨_, rfl⟩

theorem setField_key_not_text {k : Value} (hk : ∀ n, k.untag ≠ .string n)
    (acc : Sidecar × List String) (v : Value) : ∃ m, setField acc (k, v) = .error m := by
  obtain ⟨m, hm⟩ := asText_eq_error hk "field identifier"
  exact ⟨m, by simp [setField, hm, bind, Except.bind]⟩

theorem setField_schema_not_json {m : Message} (hj : v.toJson = .error m)
    (acc : Sidecar × List String) : ∃ m', setField acc (.string "schema", v) = .error m' := by
  obtain ⟨sc, seen⟩ := acc
  by_cases hseen : "schema" ∈ seen
  · exact ⟨.duplicateField "schema", by simp [setField, fieldNames, Value.asText, Value.untag,
      hseen, bind, Except.bind, throw, throwThe, MonadExceptOf.throw]⟩
  · cases v with
    | null => simp [Value.toJson] at hj
    | _ => exact ⟨m, by simp_all [setField, fieldNames, Value.asText, Value.untag, bind,
        Except.bind]⟩

/-! ## The whole mapping -/

/-- Reading the entries of a sidecar mapping in turn fills every field they give. The fields
seen so far are named by no entry left, since the keys are apart; this carries the induction. -/
theorem foldlM_setField_fills : ∀ (es : List (Value × Value)) (sc : Sidecar) (seen : List String),
    SidecarMapping es → KeysApart es → (∀ n ∈ seen, ∀ e ∈ es, e.1 ≠ .string n) →
    ∃ sc' seen', es.foldlM setField (sc, seen) = .ok (sc', seen') ∧ Fills es sc sc'
  | [], sc, seen, _, _, _ =>
    ⟨sc, seen, rfl, ⟨⟨fun _ h => by simp at h, fun _ => rfl⟩, ⟨fun _ h => by simp at h, fun _ => rfl⟩,
      ⟨fun _ _ h => by simp at h, fun _ => rfl⟩⟩⟩
  | (k, v) :: rest, sc, seen, hmap, hapart, hseen => by
    obtain ⟨name, hk⟩ := hmap.keys_text (k, v) List.mem_cons_self
    simp only at hk
    subst hk
    have hrest_apart : ∀ e ∈ rest, e.1 ≠ .string name := by
      intro e he heq
      have hsame := List.rel_of_pairwise_cons hapart he
      rw [heq, same_string] at hsame
      simp at hsame
    have hnew : name ∉ seen := fun hn => hseen name hn _ List.mem_cons_self rfl
    obtain ⟨sc₁, seen₁, hstep, hfill, hsub⟩ : ∃ sc₁ seen₁,
        setField (sc, seen) (.string name, v) = .ok (sc₁, seen₁) ∧
          Fills [(.string name, v)] sc sc₁ ∧ seen₁ ⊆ name :: seen :=
      setField_fills hmap.head hnew
    have hseen₁ : ∀ n ∈ seen₁, ∀ e ∈ rest, e.1 ≠ .string n := by
      intro n hn e he
      rcases List.mem_cons.mp (hsub hn) with rfl | hn
      · exact hrest_apart e he
      · exact hseen n hn e (List.mem_cons_of_mem _ he)
    obtain ⟨sc', seen', hfold, hrest⟩ :=
      foldlM_setField_fills rest sc₁ seen₁ hmap.tail hapart.of_cons hseen₁
    refine ⟨sc', seen', ?_, hfill.cons hrest hrest_apart⟩
    rw [List.foldlM_cons, hstep]
    exact hfold

theorem ofValue_mapping {es : List (Value × Value)} (hmap : SidecarMapping es)
    (hapart : KeysApart es) : ∃ sc, ofValue (.mapping es) = .ok sc ∧ Fills es {} sc := by
  obtain ⟨sc, seen, hfold, hfill⟩ := foldlM_setField_fills es {} [] hmap hapart (by simp)
  refine ⟨sc, ?_, hfill⟩
  simp [ofValue, Value.asRecord, Value.untag, hfold, bind, Except.bind, pure, Except.pure]

theorem ofValue_eq_error {es : List (Value × Value)} {e : Value × Value} (he : e ∈ es)
    (hfail : ∀ acc, ∃ m, setField acc e = .error m) : ∃ m, ofValue (.mapping es) = .error m := by
  obtain ⟨m, hm⟩ := Except.foldlM_eq_error_of_mem hfail ({}, []) he
  exact ⟨m, by simp [ofValue, Value.asRecord, Value.untag, hm, bind, Except.bind]⟩

/-- What decoding the fields of a sidecar from a mapping promises: a sidecar mapping whose keys
are apart is read without failure and fills the fields its entries give; a key that is not text,
or a schema without a JSON form, makes it fail. -/
structure Decodes (decode : Value → Except Message Sidecar) : Prop where
  fields : ∀ es, SidecarMapping es → KeysApart es → ∃ sc, decode (.mapping es) = .ok sc ∧ Fills es {} sc
  key_not_text : ∀ es, (∃ e ∈ es, ∀ n, e.1.untag ≠ .string n) → ∃ m, decode (.mapping es) = .error m
  schema_not_json : ∀ es v m, (.string "schema", v) ∈ es → v.toJson = .error m →
    ∃ m', decode (.mapping es) = .error m'

theorem decodes_ofValue : Decodes ofValue where
  fields _ hmap hapart := ofValue_mapping hmap hapart
  key_not_text _ := by
    rintro ⟨⟨k, v⟩, he, hk⟩
    exact ofValue_eq_error he fun acc => setField_key_not_text hk acc v
  schema_not_json _ _ _ hv hj := ofValue_eq_error hv fun acc => setField_schema_not_json hj acc

end Sidecar

/-! ## Parsing a sidecar's text -/

namespace Metadata

variable {contents metadataPath source : String}

theorem default_eq (source : String) :
    Metadata.default source = ⟨baseName source, "", .object []⟩ := rfl

variable {read : String → Except Error Value} {decode : Value → Except Message Sidecar}

theorem parseWith_of_blank (h : Text.isBlankText contents = true) :
    Metadata.parseWith read decode contents metadataPath source = .ok (Metadata.default source) := by
  simp [Metadata.parseWith, Sidecar.parseWith, h, Metadata.default]

theorem parseWith_of_null (hblank : Text.isBlankText contents = false)
    (hnull : read contents = .ok .null) :
    Metadata.parseWith read decode contents metadataPath source = .ok (Metadata.default source) := by
  simp [Metadata.parseWith, Sidecar.parseWith, hblank, hnull, bind, Except.bind, pure, Except.pure,
    Metadata.default]

theorem parseWith_of_value {v : Value} (hblank : Text.isBlankText contents = false)
    (hv : read contents = .ok v) (hnull : v ≠ .null) :
    Metadata.parseWith read decode contents metadataPath source =
      match decode v with
      | .ok sc => .ok (sc.withDefaults source)
      | .error m => .error (.metadataParse metadataPath (.ofMessage m)) := by
  cases v with
  | null => exact absurd rfl hnull
  | _ =>
    simp only [Metadata.parseWith, Sidecar.parseWith, hblank, hv, Bool.false_eq_true, ↓reduceIte,
      bind, Except.bind]
    cases decode _ <;> rfl

theorem parseWith_error_names {e : ScriptError}
    (h : Metadata.parseWith read decode contents metadataPath source = .error e) :
    ∃ y, e = .metadataParse metadataPath y := by
  unfold Metadata.parseWith at h
  split at h
  · cases h
  · cases h
    exact ⟨_, rfl⟩

end Metadata

/-- What the metadata `m` read for `source` from the entries `es` holds: the summary if it is
not empty, else the file name; the description, else empty text; the schema's JSON form if it is
not null, else the empty object. -/
structure GivesMetadata (es : List (Value × Value)) (source : String) (m : Metadata) : Prop where
  summary_given : ∀ s, (.string "summary", .string s) ∈ es → s ≠ "" → m.summary = s
  summary_default : (∀ s, (.string "summary", .string s) ∈ es → s = "") →
    m.summary = baseName source
  description_given : ∀ s, (.string "description", .string s) ∈ es → m.description = s
  description_default : (∀ s, (.string "description", .string s) ∉ es) → m.description = ""
  schema_given : ∀ v j, (.string "schema", v) ∈ es → v.toJson = .ok j → j ≠ .null → m.schema = j
  schema_default : (∀ v j, (.string "schema", v) ∈ es → v.toJson = .ok j → j = .null) →
    m.schema = .object []

/-- A mapping whose fields carry no value that differs from a default. -/
structure CarriesNothing (es : List (Value × Value)) : Prop where
  summary : ∀ s, (.string "summary", .string s) ∈ es → s = ""
  description : ∀ s, (.string "description", .string s) ∈ es → s = ""
  schema : ∀ v j, (.string "schema", v) ∈ es → v.toJson = .ok j → j = .null

theorem withDefaults_gives {es : List (Value × Value)} {sc : Sidecar} (source : String)
    (hmap : SidecarMapping es) (hfill : Sidecar.Fills es {} sc) :
    GivesMetadata es source (sc.withDefaults source) where
  summary_given s hs hne := by
    simp [Sidecar.withDefaults, hfill.summary.1 s hs, hne]
  summary_default hempty := by
    by_cases hgiven : ∃ s, (.string "summary", .string s) ∈ es
    · obtain ⟨s, hs⟩ := hgiven
      simp [Sidecar.withDefaults, hfill.summary.1 s hs, hempty s hs]
    · have hnone : ∀ s, (.string "summary", .string s) ∉ es := fun s hs => hgiven ⟨s, hs⟩
      simp [Sidecar.withDefaults, hfill.summary.2 hnone]
  description_given s hs := by
    simp [Sidecar.withDefaults, hfill.description.1 s hs]
  description_default hnone := by
    simp [Sidecar.withDefaults, hfill.description.2 hnone]
  schema_given v j hv hj hne := by
    have hvnull : v ≠ .null := by
      rintro rfl
      simp [Value.toJson] at hj
      exact hne hj.symm
    simp only [Sidecar.withDefaults, hfill.schema.1 v j hv hvnull hj]
  schema_default hnull := by
    by_cases hgiven : ∃ v, (.string "schema", v) ∈ es ∧ v ≠ .null
    · obtain ⟨v, hv, hvnull⟩ := hgiven
      obtain ⟨j, hj⟩ := hmap.schema_json v hv
      simp [Sidecar.withDefaults, hfill.schema.1 v j hv hvnull hj, hnull v j hv hj]
    · have hall : ∀ v, (.string "schema", v) ∈ es → v = .null := by
        intro v hv
        by_contra hne
        exact hgiven ⟨v, hv, hne⟩
      simp [Sidecar.withDefaults, hfill.schema.2 hall]

theorem GivesMetadata.eq_default {es : List (Value × Value)} {source : String} {m : Metadata}
    (h : GivesMetadata es source m) (hnothing : CarriesNothing es) : m = Metadata.default source := by
  have hdescription : m.description = "" := by
    by_cases hgiven : ∃ s, (.string "description", .string s) ∈ es
    · obtain ⟨s, hs⟩ := hgiven
      rw [h.description_given s hs, hnothing.description s hs]
    · exact h.description_default fun s hs => hgiven ⟨s, hs⟩
  have hsummary := h.summary_default hnothing.summary
  have hschema := h.schema_default hnothing.schema
  obtain ⟨summary, description, schema⟩ := m
  simp only at hsummary hdescription hschema
  rw [Metadata.default_eq, hsummary, hdescription, hschema]

/-- Reading a sidecar's text with any reader and decoder that keep their promises: blank text
and a null document give the defaults; a sidecar mapping gives its fields, and the defaults when
it carries nothing; a mapping with a key that is not text or a schema without a JSON form fails;
every failure names the sidecar. -/
theorem Metadata.parseWith_fields_defaults_failures {read : String → Except Error Value}
    {decode : Value → Except Message Sidecar} (hread : ReadsApart read)
    (hdecode : Sidecar.Decodes decode) (contents metadataPath source : String) :
    ((Text.isBlankText contents = true ∨ read contents = .ok .null) →
      Metadata.parseWith read decode contents metadataPath source = .ok (Metadata.default source)) ∧
    (∀ es, Text.isBlankText contents = false → read contents = .ok (.mapping es) →
      (SidecarMapping es →
        ∃ m, Metadata.parseWith read decode contents metadataPath source = .ok m ∧
          GivesMetadata es source m ∧ (CarriesNothing es → m = Metadata.default source)) ∧
      ((∃ e ∈ es, ∀ n, e.1.untag ≠ .string n) ∨
          (∃ v m, (.string "schema", v) ∈ es ∧ v.toJson = .error m) →
        ∃ y, Metadata.parseWith read decode contents metadataPath source =
          .error (.metadataParse metadataPath y))) ∧
    (∀ e, Metadata.parseWith read decode contents metadataPath source = .error e →
      ∃ y, e = .metadataParse metadataPath y) := by
  refine ⟨?_, fun es hblank hparse => ⟨?_, ?_⟩, fun e he => Metadata.parseWith_error_names he⟩
  · rintro (hblank | hnull)
    · exact Metadata.parseWith_of_blank hblank
    · cases hblank : Text.isBlankText contents with
      | true => exact Metadata.parseWith_of_blank hblank
      | false => exact Metadata.parseWith_of_null hblank hnull
  · intro hmap
    obtain ⟨sc, hsc, hfill⟩ := hdecode.fields es hmap (hread contents es hparse)
    have hgives := withDefaults_gives source hmap hfill
    refine ⟨sc.withDefaults source, ?_, hgives, hgives.eq_default⟩
    rw [Metadata.parseWith_of_value hblank hparse (by simp), hsc]
  · -- the decoder fails, and the failure is reported against the sidecar
    intro hbad
    obtain ⟨m, hm⟩ : ∃ m, decode (.mapping es) = .error m := by
      rcases hbad with hkey | ⟨v, m, hv, hj⟩
      · exact hdecode.key_not_text es hkey
      · exact hdecode.schema_not_json es v m hv hj
    exact ⟨_, by rw [Metadata.parseWith_of_value hblank hparse (by simp), hm]⟩

theorem Metadata.parseWith_fields_defaults_failures_sidecar :
    ReadsApart (Yaml.parseWith readValue) ∧ Sidecar.Decodes Sidecar.ofValue ∧
    ((Text.isBlankText "summary: hi\nlock: abc\n" = true ∨
        Yaml.parseWith readValue "summary: hi\nlock: abc\n" = .ok .null) →
      Metadata.parse "summary: hi\nlock: abc\n" "/f/a/x.script.yaml" "/f/a/x.py" =
        .ok (Metadata.default "/f/a/x.py")) ∧
    (∀ es, Text.isBlankText "summary: hi\nlock: abc\n" = false →
      Yaml.parseWith readValue "summary: hi\nlock: abc\n" = .ok (.mapping es) →
      (SidecarMapping es →
        ∃ m, Metadata.parse "summary: hi\nlock: abc\n" "/f/a/x.script.yaml" "/f/a/x.py" = .ok m ∧
          GivesMetadata es "/f/a/x.py" m ∧ (CarriesNothing es → m = Metadata.default "/f/a/x.py")) ∧
      ((∃ e ∈ es, ∀ n, e.1.untag ≠ .string n) ∨
          (∃ v m, (.string "schema", v) ∈ es ∧ v.toJson = .error m) →
        ∃ y, Metadata.parse "summary: hi\nlock: abc\n" "/f/a/x.script.yaml" "/f/a/x.py" =
          .error (.metadataParse "/f/a/x.script.yaml" y))) ∧
    (∀ e, Metadata.parse "summary: hi\nlock: abc\n" "/f/a/x.script.yaml" "/f/a/x.py" = .error e →
      ∃ y, e = .metadataParse "/f/a/x.script.yaml" y) :=
  ⟨readsApart_parseWith_readValue, Sidecar.decodes_ofValue,
    Metadata.parseWith_fields_defaults_failures readsApart_parseWith_readValue
      Sidecar.decodes_ofValue "summary: hi\nlock: abc\n" "/f/a/x.script.yaml" "/f/a/x.py"⟩

def givesNumberKeySample (r : Except Error Value) : Bool :=
  match r with
  | .ok (.mapping [(.number (.natural 1), .string "a"), (.string "summary", .string "s")]) => true
  | _ => false

/-- The text `1: a` then `summary: s` reads as a mapping whose summary is text, yet the number
key stops its reading as a sidecar. -/
theorem number_key_refused :
    parseWith readValue "1: a\nsummary: s\n" =
        .ok (.mapping [(.number (.natural 1), .string "a"), (.string "summary", .string "s")]) ∧
      Metadata.parse "1: a\nsummary: s\n" "/meta/x.script.yaml" "/meta/x.py" =
        .error (.metadataParse "/meta/x.script.yaml"
          (.ofMessage (.invalidType (.unsigned 1) "field identifier"))) := by
  have hread : parseWith readValue "1: a\nsummary: s\n" =
      .ok (.mapping [(.number (.natural 1), .string "a"), (.string "summary", .string "s")]) := by
    have hcheck : givesNumberKeySample (parseWith readValue "1: a\nsummary: s\n") = true := by
      decide +kernel
    unfold givesNumberKeySample at hcheck
    split at hcheck
    · assumption
    · cases hcheck
  refine ⟨hread, ?_⟩
  rw [Metadata.parse, Metadata.parseWith_of_value (by decide) hread (by simp)]
  rfl

end ScriptDeploy
