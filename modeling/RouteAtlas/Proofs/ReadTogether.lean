import Mathlib
import RouteAtlas.Proofs.BuildSteps
import RouteAtlas.Proofs.NamedEntries
import RouteAtlas.Type.Field

/-!
Classes whose annotations are all read at once. What such a class reports for a field rests on two
things only: whether all annotations along its lineage can be read, and if not, how the annotation
of the field itself is written.
-/

namespace RouteAtlas

/-- What an annotation stands for where it is written, without metadata. -/
def RawField.read (classes : Registry) (f : RawField) : Except Fault Ty := do
  (← f.ty.resolve (f.owner.scope classes)).stripped classes

namespace ClassDecl

/-- Is the class one whose annotations are read all at once or not at all? -/
def readsTogether (d : ClassDecl) : Bool :=
  match d.kind with
  | .record _ | .dictionary | .namedTuple => true
  | _ => false

/-- The annotation that counts for a field: of all along the lineage, that of the nearest class. -/
def annotation? (classes : Registry) (d : ClassDecl) (name : String) : Option RawField :=
  (d.annotations classes).reverse.find? (·.name = name)

/-- The annotation that counts for a field that the class has: a record has those that records
write, any other class whatever is annotated. -/
def field? (classes : Registry) (d : ClassDecl) (name : String) : Option RawField :=
  (d.annotation? classes name).filter fun _ =>
    !d.isRecord || ((d.recordFields classes).map (·.1)).contains name

/-- Every annotation along the lineage stands for a type, and one that counts can be rid of its
metadata. -/
structure Readable (classes : Registry) (d : ClassDecl) : Prop where
  resolves : ∀ g ∈ d.annotations classes, ∃ t, g.ty.resolve (g.owner.scope classes) = .ok t
  reads : ∀ n g, d.annotation? classes n = some g → ∃ t, g.read classes = .ok t

/-- What a class reports for an annotation if it does not read any: a mapping all that is written,
any other class what it writes itself. A record knows its other fields by name. -/
def kept? (d : ClassDecl) (f : RawField) : Option Ty :=
  if d.isDictionary || (d.fields.map (·.1)).contains f.name then some (f.owner.unread f.ty)
  else match d.kind with
    | .record _ => some .any
    | _ => none

variable {classes : Registry} {d : ClassDecl} {n : String} {f : RawField}

theorem merged_eq_putAll (fs : List RawField) :
    merged fs = putAll (fs.map fun f => (f.name, f)) [] := by
  rw [merged, putAll, List.foldl_map]

theorem lookup_merged (fs : List RawField) (n : String) :
    (merged fs).lookup n = fs.reverse.find? (·.name = n) := by
  rw [merged_eq_putAll, lookup_putAll, ← List.map_reverse, List.find?_map]
  simp [Function.comp_def]

theorem nodup_merged (fs : List RawField) : ((merged fs).map (·.1)).Nodup := by
  rw [merged_eq_putAll]
  exact nodup_names_putAll (by simp)

theorem lookup_merged_annotations (classes : Registry) (d : ClassDecl) (n : String) :
    (merged (d.annotations classes)).lookup n = d.annotation? classes n := lookup_merged _ n

theorem annotation?_of_field? (h : d.field? classes n = some f) :
    d.annotation? classes n = some f := (Option.filter_eq_some_iff.mp h).1

/-- A field of a record is one that a record along the lineage writes. -/
theorem exists_recordField (h : d.field? classes n = some f) (hr : d.isRecord = true) :
    ∃ g, (d.recordFields classes).lookup n = some g := by
  have hmem : n ∈ (d.recordFields classes).map (·.1) := by
    simpa [hr] using (Option.filter_eq_some_iff.mp h).2
  exact exists_lookup hmem

theorem mem_of_annotation? (h : d.annotation? classes n = some f) :
    f ∈ d.annotations classes := List.mem_reverse.mp (List.mem_of_find?_eq_some h)

theorem name_of_annotation? (h : d.annotation? classes n = some f) : f.name = n := by
  simpa using List.find?_some h

-- Resolving each annotation and then merging by name is merging and then resolving.
theorem lastOfNames_resolved {v : RawField → Ty} (fs : List RawField) :
    lastOfNames (fs.map fun f => (f.name, v f)) = (merged fs).map fun e => (e.1, v e.2) := by
  rw [lastOfNames_eq_putAll, merged_eq_putAll, map_putAll]
  simp [Function.comp_def]

theorem annotation?_of_mem_merged (h : (n, f) ∈ merged (d.annotations classes)) :
    d.annotation? classes n = some f := by
  rw [← lookup_merged_annotations]
  exact lookup_of_mem (nodup_merged _) h

theorem exists_merged_of_mapM {all : List Field}
    (h : ((d.annotations classes).mapM fun f => do
      return (f.name, ← f.ty.resolve (f.owner.scope classes))) = .ok all) :
    ∃ v : RawField → Ty,
      (∀ g ∈ d.annotations classes, g.ty.resolve (g.owner.scope classes) = .ok (v g)) ∧
      lastOfNames all = (merged (d.annotations classes)).map fun e => (e.1, v e.2) := by
  obtain ⟨v, hv, rfl⟩ := exists_values_of_mapM h
  exact ⟨v, hv, lastOfNames_resolved _⟩

/-- Annotations that are all resolved can be read, and the fields have the types that are read. -/
theorem resolved_spec {fields : List Field} (h : d.resolved classes = .ok fields) :
    d.Readable classes ∧ (fields.map (·.1)).Nodup ∧
      ∀ n g t, d.annotation? classes n = some g → g.read classes = .ok t →
        fields.lookup n = some t := by
  obtain ⟨all, hall, h⟩ := exists_of_bind_ok h
  -- Each annotation resolves to `v`, and `w` is what is left of a type without metadata.
  obtain ⟨v, hv, hmerged⟩ := exists_merged_of_mapM hall
  obtain ⟨w, hw, rfl⟩ := exists_values_of_mapM h
  have hfields : ((lastOfNames all).map fun e => (e.1, w e)) =
      (merged (d.annotations classes)).map fun e => (e.1, w (e.1, v e.2)) := by
    rw [hmerged, List.map_map]
    rfl
  have hread : ∀ n g, d.annotation? classes n = some g → g.read classes = .ok (w (n, v g)) := by
    intro n g hg
    have hmem : (n, v g) ∈ lastOfNames all := by
      rw [hmerged]
      exact List.mem_map.mpr
        ⟨(n, g), mem_of_lookup (by rw [lookup_merged_annotations, hg]), rfl⟩
    rw [RawField.read, hv g (mem_of_annotation? hg)]
    exact hw _ hmem
  refine ⟨⟨fun g hg => ⟨_, hv g hg⟩, fun n g hg => ⟨_, hread n g hg⟩⟩, ?_, ?_⟩
  · rw [hfields, List.map_map]
    exact nodup_merged _
  · intro n g t hg ht
    cases ht.symm.trans (hread n g hg)
    rw [hfields, lookup_map_named (fun n g => w (n, v g)), lookup_merged_annotations, hg]
    rfl

theorem exists_resolved (h : d.Readable classes) : ∃ fields, d.resolved classes = .ok fields := by
  have hall : ∃ all, ((d.annotations classes).mapM fun f => do
      return (f.name, ← f.ty.resolve (f.owner.scope classes))) = .ok all := by
    refine exists_mapM fun g hg => ?_
    obtain ⟨t, ht⟩ := h.resolves g hg
    exact ⟨(g.name, t), by rw [ht]; rfl⟩
  obtain ⟨all, hall⟩ := hall
  obtain ⟨v, hv, hmerged⟩ := exists_merged_of_mapM hall
  have hfields : ∃ fields, ((lastOfNames all).mapM fun f => do
      return (f.1, ← f.2.stripped classes)) = .ok fields := by
    refine exists_mapM fun e he => ?_
    rw [hmerged] at he
    obtain ⟨⟨m, g⟩, hg, rfl⟩ := List.mem_map.mp he
    have hcounts := annotation?_of_mem_merged hg
    obtain ⟨t, ht⟩ := h.reads m g hcounts
    rw [RawField.read, hv g (mem_of_annotation? hcounts)] at ht
    have ht : (v g).stripped classes = .ok t := ht
    exact ⟨(m, t), by rw [ht]; rfl⟩
  obtain ⟨fields, hfields⟩ := hfields
  refine ⟨fields, ?_⟩
  rw [resolved, hall]
  exact hfields

theorem exists_of_resolved_error {e : Fault} (h : d.resolved classes = .error e) :
    ∃ g ∈ d.annotations classes, g.read classes = .error e := by
  rcases cases_of_bind_error h with h | ⟨all, hall, h⟩
  · obtain ⟨g, hg, h⟩ := exists_of_mapM_error h
    rcases cases_of_bind_error h with h | ⟨t, -, h⟩
    · exact ⟨g, hg, by rw [RawField.read, h]; rfl⟩
    · cases h
  · obtain ⟨v, hv, hmerged⟩ := exists_merged_of_mapM hall
    obtain ⟨e, he, h⟩ := exists_of_mapM_error h
    rw [hmerged] at he
    obtain ⟨⟨m, g⟩, hg, rfl⟩ := List.mem_map.mp he
    have hmem := mem_of_annotation? (annotation?_of_mem_merged hg)
    rcases cases_of_bind_error h with h | ⟨t, -, h⟩
    · exact ⟨g, hmem, by rw [RawField.read, hv g hmem]; exact h⟩
    · cases h

/-- A class whose annotations fail for want of a meaning only has its fields documented. -/
theorem exists_documented (hk : d.readsTogether = true)
    (h : ∀ g ∈ d.annotations classes, ∀ e, g.read classes = .error e →
      e.isMeaningless = true) :
    ∃ fields, d.documented classes = .ok fields := by
  have hhints : ∃ fields, d.hints classes = .ok fields := by
    unfold hints
    cases hr : d.resolved classes with
    | ok fields => exact ⟨fields, rfl⟩
    | error e =>
      obtain ⟨g, hg, hge⟩ := exists_of_resolved_error hr
      exact ⟨_, if_pos (h g hg e hge)⟩
  obtain ⟨fields, hfields⟩ := hhints
  unfold readsTogether at hk
  unfold documented
  split at hk
  next hkind => exact ⟨_, by rw [hkind, hfields]; rfl⟩
  next hkind => exact ⟨_, by rw [hkind]; exact hfields⟩
  next hkind => exact ⟨_, by rw [hkind]; exact hfields⟩
  next => cases hk

/-- The class itself comes last among those that it inherits from. -/
theorem ancestors_eq_concat (hd : classes.find? d.key = some d)
    (hdict : d.isDictionary = false) :
    classes.ancestors d = [] ∨ ∃ pre, classes.ancestors d = pre ++ [d] := by
  rw [Registry.ancestors, if_neg (by simp [hdict]), Registry.lineage]
  simp only [hd]
  cases (d.bases.map Forebear.declared ++ d.knownBases).mapM
      (classes.lineage (classes.decls.length + 1)) with
  | error ks => exact Or.inl rfl
  | ok rows =>
    cases hm : mergeRows (classes.decls.length + 4)
        (rows ++ [d.bases.map Forebear.declared ++ d.knownBases]) with
    | error ks => exact Or.inl (by simp [hm, bind, Except.bind, Except.toOption])
    | ok ks =>
      have hlast (g : Forebear → Option ClassDecl) (hg : g (.declared d.key) = some d) :
          (Forebear.declared d.key :: ks).reverse.filterMap g = ks.reverse.filterMap g ++ [d] := by
        simp [hg]
      simp only [hm, bind, Except.bind, pure, Except.pure, Except.toOption, Option.getD_some]
      exact Or.inr ⟨_, hlast _ hd⟩

theorem annotation?_of_concat {pre : List ClassDecl} (h : classes.ancestors d = pre ++ [d])
    (n : String) : d.annotation? classes n =
      ((d.fields.reverse.find? (·.1 = n)).map fun e => ⟨e.1, e.2, d⟩).or
        ((pre.flatMap fun a => a.fields.map fun e => ⟨e.1, e.2, a⟩).reverse.find?
          (·.name = n)) := by
  simp only [annotation?, annotations, h, List.flatMap_append, List.flatMap_cons, List.flatMap_nil,
    List.append_nil, List.reverse_append, List.find?_append, ← List.map_reverse, List.find?_map]
  rfl

/-- A class that does not read its annotations has what it keeps of them. -/
theorem lookup_writtenFields (hd : classes.find? d.key = some d)
    (hf : d.annotation? classes n = some f) :
    (d.writtenFields classes).lookup n =
      if d.isDictionary || (d.fields.map (·.1)).contains n then some (f.owner.unread f.ty)
      else none := by
  cases hdict : d.isDictionary with
  | true =>
    rw [writtenFields, if_pos hdict, lookup_map (fun g : RawField => g.owner.unread g.ty),
      lookup_merged_annotations, hf]
    rfl
  | false =>
    obtain ⟨pre, hpre⟩ := (ancestors_eq_concat hd hdict).resolve_left fun hnil => by
      simp [annotation?, annotations, hnil] at hf
    have hown : (d.writtenFields classes).lookup n =
        (d.fields.reverse.find? (·.1 = n)).map fun e => d.unread e.2 := by
      rw [writtenFields, if_neg (by simp [hdict]), lookup_map d.unread, lastOfNames_eq_putAll,
        lookup_putAll]
      simp [Function.comp_def]
    rw [annotation?_of_concat hpre] at hf
    rw [hown]
    cases hlast : d.fields.reverse.find? (·.1 = n) with
    | none =>
      have hnot : n ∉ d.fields.map (·.1) := by
        intro hn
        obtain ⟨e, he, rfl⟩ := List.mem_map.mp hn
        simpa using List.find?_eq_none.mp hlast e (List.mem_reverse.mpr he)
      simp [hnot]
    | some e =>
      have hmem : n ∈ d.fields.map (·.1) := by
        have hn : e.1 = n := by simpa using List.find?_some hlast
        exact hn ▸ List.mem_map_of_mem (List.mem_reverse.mp (List.mem_of_find?_eq_some hlast))
      rw [hlast] at hf
      cases hf
      simp [hmem]

theorem nodup_writtenFields (classes : Registry) (d : ClassDecl) :
    ((d.writtenFields classes).map (·.1)).Nodup := by
  unfold writtenFields
  split
  · rw [List.map_map]
    exact nodup_merged _
  · rw [List.map_map]
    exact nodup_names_putAll (by simp)

theorem hints_cases {hints : List Field} (h : d.hints classes = .ok hints) :
    d.resolved classes = .ok hints ∨
      ¬d.Readable classes ∧ hints = d.writtenFields classes := by
  unfold ClassDecl.hints at h
  split at h
  next fields hr =>
    cases h
    exact Or.inl hr
  next e hr =>
    split at h
    next =>
      cases h
      refine Or.inr ⟨fun hread => ?_, rfl⟩
      obtain ⟨fields, hfields⟩ := exists_resolved hread
      cases hr.symm.trans hfields
    next => cases h

-- A record names all its fields and looks them up in the hints; the others report the hints.
theorem documented_cases {fields : List Field} (hk : d.readsTogether = true)
    (h : d.documented classes = .ok fields) : ∃ hints, d.hints classes = .ok hints ∧
      ((∃ generic, d.kind = .record generic) ∧
          fields = (d.recordFields classes).map (fun f => (f.1, (hints.lookup f.1).getD .any)) ∨
        (∀ generic, d.kind ≠ .record generic) ∧ fields = hints) := by
  unfold documented at h
  unfold readsTogether at hk
  split at hk
  next generic hkind =>
    rw [hkind] at h
    obtain ⟨hints, hhints, h⟩ := exists_of_bind_ok h
    exact ⟨hints, hhints, Or.inl ⟨⟨generic, hkind⟩, (Except.ok.inj h).symm⟩⟩
  next hkind =>
    rw [hkind] at h
    exact ⟨fields, h, Or.inr ⟨fun _ hr => (nomatch hkind.symm.trans hr), rfl⟩⟩
  next hkind =>
    rw [hkind] at h
    exact ⟨fields, h, Or.inr ⟨fun _ hr => (nomatch hkind.symm.trans hr), rfl⟩⟩
  next => cases hk

theorem nodup_documented {fields : List Field} (hk : d.readsTogether = true)
    (h : d.documented classes = .ok fields) : (fields.map (·.1)).Nodup := by
  obtain ⟨hints, hhints, ⟨-, rfl⟩ | ⟨-, rfl⟩⟩ := documented_cases hk h
  · rw [List.map_map]
    exact nodup_merged _
  · obtain hr | ⟨-, rfl⟩ := hints_cases hhints
    · exact (resolved_spec hr).2.1
    · exact nodup_writtenFields classes d

/-- What a class reports for a field: the type that its annotation is read as if all annotations can
be read, and what the class keeps of it otherwise. -/
theorem lookup_documented {fields : List Field} (hd : classes.find? d.key = some d)
    (hk : d.readsTogether = true) (hf : d.field? classes n = some f)
    (h : d.documented classes = .ok fields) :
    (d.Readable classes ∧ ∀ t, f.read classes = .ok t → fields.lookup n = some t) ∨
      (¬d.Readable classes ∧ fields.lookup n = d.kept? f) := by
  obtain ⟨hints, hhints, hfields⟩ := documented_cases hk h
  have hcounts := annotation?_of_field? hf
  have hnamed {hints : List Field} (hr : ∃ generic, d.kind = .record generic) :
      ((d.recordFields classes).map fun f => (f.1, (hints.lookup f.1).getD .any)).lookup n =
        some ((hints.lookup n).getD .any) := by
    obtain ⟨generic, hkind⟩ := hr
    obtain ⟨g, hg⟩ := exists_recordField hf (by rw [isRecord, hkind])
    rw [lookup_map_named (fun n _ => (hints.lookup n).getD .any), hg]
    rfl
  obtain hr | ⟨hnot, rfl⟩ := hints_cases hhints
  · obtain ⟨hread, -, hlookup⟩ := resolved_spec hr
    refine Or.inl ⟨hread, fun t ht => ?_⟩
    have ht := hlookup n f t hcounts ht
    obtain ⟨hrecord, rfl⟩ | ⟨-, rfl⟩ := hfields
    · rw [hnamed hrecord, ht]
      rfl
    · exact ht
  · refine Or.inr ⟨hnot, ?_⟩
    have hwritten := lookup_writtenFields hd hcounts
    rw [kept?, name_of_annotation? hcounts]
    obtain ⟨hrecord, rfl⟩ | ⟨hkind, rfl⟩ := hfields
    · obtain ⟨generic, hkind⟩ := hrecord
      rw [hnamed ⟨generic, hkind⟩, hwritten, hkind]
      split <;> rfl
    · rw [hwritten]
      split
      next => rfl
      next =>
        split
        next generic hgeneric => exact absurd hgeneric (hkind generic)
        next => rfl

end ClassDecl

end RouteAtlas
