import Mathlib
import RouteAtlas.Proofs.DepthFirst
import RouteAtlas.Proofs.ReadTogether
import RouteAtlas.Proofs.Respelling

/-!
What becomes of a field when other annotations are written in another way. Where the field is
reported with the same type, its property, its place among the required fields and the models that
are found through it stay.
-/

namespace RouteAtlas

variable {classes : Registry} {u : Respelling} {formats : Formats}

/-- The annotation as it is written after the change. -/
def RawField.respelled (f : RawField) (u : Respelling) : RawField :=
  ⟨f.name, u f.owner.key f.name f.ty, f.owner.respelled u⟩

/-- Neither the class nor one that it inherits from is annotated in another way. -/
def ClassDecl.Untouched (classes : Registry) (u : Respelling) (d : ClassDecl) : Prop :=
  d.respelled u = d ∧ ∀ a ∈ classes.ancestors d, a.respelled u = a

namespace ClassDecl

variable {d : ClassDecl} {n : String} {f : RawField} {t : Ty}

theorem annotations_respelled (classes : Registry) (u : Respelling) (d : ClassDecl) :
    (d.respelled u).annotations (classes.respelled u) =
      (d.annotations classes).map (·.respelled u) := by
  have hfields (a : ClassDecl) :
      ((a.respelled u).fields.map fun f => RawField.mk f.1 f.2 (a.respelled u)) =
        (a.fields.map fun f => RawField.mk f.1 f.2 a).map (·.respelled u) := by
    rw [List.map_map]
    exact List.map_map
  rw [annotations, annotations, Registry.ancestors_respelled, List.flatMap_map, List.map_flatMap]
  exact congrArg₂ List.flatMap (funext hfields) rfl

theorem annotation?_respelled (hf : d.annotation? classes n = some f) (u : Respelling) :
    (d.respelled u).annotation? (classes.respelled u) n = some (f.respelled u) := by
  rw [annotation?] at hf ⊢
  rw [annotations_respelled, ← List.map_reverse, List.find?_map]
  exact congrArg (Option.map _) hf

theorem recordFields_respelled (classes : Registry) (u : Respelling) (d : ClassDecl) :
    ((d.respelled u).recordFields (classes.respelled u)).map (·.1) =
      (d.recordFields classes).map (·.1) := by
  rw [recordFields, recordFields, annotations_respelled, List.filter_map, merged_eq_putAll,
    merged_eq_putAll, names_putAll, names_putAll]
  simp only [List.map_map]
  rfl

theorem field?_respelled (hf : d.field? classes n = some f) (u : Respelling) :
    (d.respelled u).field? (classes.respelled u) n = some (f.respelled u) := by
  obtain ⟨hcounts, hfield⟩ := Option.filter_eq_some_iff.mp hf
  refine Option.filter_eq_some_iff.mpr ⟨annotation?_respelled hcounts u, ?_⟩
  rw [recordFields_respelled]
  exact hfield

theorem read_respelled (hu : u f.owner.key f.name f.ty = f.ty) :
    (f.respelled u).read (classes.respelled u) = f.read classes := by
  simp [RawField.read, RawField.respelled, hu]

theorem kept?_respelled (hu : u f.owner.key f.name f.ty = f.ty) :
    (d.respelled u).kept? (f.respelled u) = d.kept? f := by
  rw [kept?, names_respelled]
  simp only [RawField.respelled, hu]
  rfl

/-- Classes that are not touched write what they have written. -/
theorem Untouched.annotations (h : d.Untouched classes u) :
    d.annotations (classes.respelled u) = d.annotations classes := by
  have hsame : ∀ g ∈ d.annotations classes, g.respelled u = g := by
    intro g hg
    obtain ⟨a, ha, hg⟩ := List.mem_flatMap.mp hg
    obtain ⟨e, he, rfl⟩ := List.mem_map.mp hg
    have hu : u a.key e.1 e.2 = e.2 := by
      have hfields : a.fields.map (fun f => (f.1, u a.key f.1 f.2)) = a.fields :=
        congrArg ClassDecl.fields (h.2 a ha)
      have hid := List.map_inj_left.mp (hfields.trans (List.map_id _).symm)
      exact congrArg Prod.snd (hid e he)
    simp [RawField.respelled, hu, h.2 a ha]
  calc d.annotations (classes.respelled u)
      = (d.respelled u).annotations (classes.respelled u) := by rw [h.1]
    _ = (d.annotations classes).map (·.respelled u) := annotations_respelled classes u d
    _ = (d.annotations classes).map id := List.map_congr_left hsame
    _ = d.annotations classes := List.map_id _

theorem Untouched.documented (h : d.Untouched classes u) :
    d.documented (classes.respelled u) = d.documented classes := by
  have hann := h.annotations
  unfold ClassDecl.documented hints resolved recordFields writtenFields validatedField
  simp only [hann, scope_of_respelled, Ty.resolve_respelled, Ty.stripped_respelled]

theorem Untouched.schema (h : d.Untouched classes u) (fields : List Field) :
    d.schema (classes.respelled u) formats fields = d.schema classes formats fields := by
  have hschema := schema_respelled u classes formats d fields
  rwa [h.1] at hschema

end ClassDecl

theorem describeFields_spec {fields : List Field} {ps : List (String × Property)}
    (h : describeFields classes formats fields = .ok ps) :
    ps.map (·.1) = fields.map (·.1) ∧ ∀ n t, fields.lookup n = some t →
      ∃ p, t.property classes formats = .ok p ∧ ps.lookup n = some p := by
  induction fields generalizing ps with
  | nil =>
    cases Except.ok.inj h
    exact ⟨rfl, nofun⟩
  | cons e fields ih =>
    obtain ⟨m, s⟩ := e
    obtain ⟨p, hp, h⟩ := exists_of_bind_ok h
    obtain ⟨qs, hqs, h⟩ := exists_of_bind_ok h
    cases Except.ok.inj h
    obtain ⟨hnames, hlookup⟩ := ih hqs
    refine ⟨by rw [List.map_cons, List.map_cons, hnames], fun n t ht => ?_⟩
    by_cases hn : n = m
    · subst hn
      rw [List.lookup_cons_self] at ht ⊢
      cases ht
      exact ⟨p, hp, rfl⟩
    · rw [lookup_cons_of_ne _ _ hn] at ht ⊢
      exact hlookup n t ht

theorem exists_describeFields_iff {fields : List Field} :
    (∃ ps, describeFields classes formats fields = .ok ps) ↔
      ∀ e ∈ fields, ∃ p, e.2.property classes formats = .ok p := by
  induction fields with
  | nil => exact iff_of_true ⟨[], rfl⟩ (by simp)
  | cons e fields ih =>
    rw [List.forall_mem_cons, ← ih]
    constructor
    · rintro ⟨ps, h⟩
      obtain ⟨p, hp, h⟩ := exists_of_bind_ok h
      obtain ⟨qs, hqs, -⟩ := exists_of_bind_ok h
      exact ⟨⟨p, hp⟩, ⟨qs, hqs⟩⟩
    · rintro ⟨⟨p, hp⟩, ⟨qs, hqs⟩⟩
      exact ⟨(e.1, p) :: qs, by rw [describeFields, hp, hqs]; rfl⟩

theorem ClassDecl.exists_schema_iff {d : ClassDecl} {fields : List Field} :
    (∃ s, d.schema classes formats fields = .ok s) ↔
      ∀ e ∈ fields, ∃ p, e.2.property classes formats = .ok p := by
  rw [← exists_describeFields_iff]
  constructor
  · rintro ⟨s, h⟩
    obtain ⟨ps, hps, -⟩ := exists_of_bind_ok h
    exact ⟨ps, hps⟩
  · rintro ⟨ps, hps⟩
    exact ⟨_, by rw [schema, hps]; rfl⟩

/-- What a schema says of a field: its property, and that it is required unless it is optional. -/
theorem ClassDecl.schema_spec {d : ClassDecl} {fields : List Field} {s : Schema} {n : String}
    {t : Ty} (hnames : (fields.map (·.1)).Nodup) (h : d.schema classes formats fields = .ok s)
    (ht : fields.lookup n = some t) :
    (∃ p, t.property classes formats = .ok p ∧ s.properties.lookup n = some p) ∧
      (n ∈ s.required.getD [] ↔ t.isOptional = false) := by
  obtain ⟨ps, hps, h⟩ := exists_of_bind_ok h
  cases Except.ok.inj h
  obtain ⟨hpnames, hlookup⟩ := describeFields_spec hps
  constructor
  · rw [lastOfNames_of_nodup (by rw [hpnames]; exact hnames)]
    exact hlookup n t ht
  · have hrequired : (if (requiredNames fields).isEmpty = true then none
        else some (requiredNames fields)).getD [] = requiredNames fields := by
      split
      next hempty => exact (List.isEmpty_iff.mp hempty).symm
      next => rfl
    rw [hrequired, requiredNames, List.mem_map]
    constructor
    · rintro ⟨⟨m, s⟩, hmem, rfl⟩
      obtain ⟨hmem, hopt⟩ := List.mem_filter.mp hmem
      cases ht.symm.trans (lookup_of_mem hnames hmem)
      simpa using hopt
    · intro hopt
      exact ⟨(n, t), List.mem_filter.mpr ⟨mem_of_lookup ht, by simp [hopt]⟩, rfl⟩

namespace Ty

variable {t : Ty}

-- A format decides alone; without one the questions do, as they do without any formats.
theorem demand_cases (classes : Registry) (formats : Formats) (t : Ty) :
    t.demand classes formats = .ok (.types []) ∨
      (∃ ms, t.demand classes formats = .ok (.models ms)) ∨
      t.demand classes formats = t.demand classes .standard := by
  rw [demand_standard]
  unfold demand
  split
  next => exact Or.inl rfl
  next =>
    split
    next => exact Or.inl rfl
    next =>
      split
      next ms _ => exact Or.inr (Or.inl ⟨ms, rfl⟩)
      next => exact Or.inr (Or.inr rfl)

theorem part_of_demand {ts : List Ty} (h : t.demand classes formats = .ok (.types ts)) {v : Ty}
    (hv : v ∈ ts) : t.Part classes.unions v := by
  obtain hnil | ⟨ms, hms⟩ | hstd := demand_cases classes formats t
  · cases h.symm.trans hnil
    cases hv
  · cases h.symm.trans hms
  · exact part_of_mem_parts ((parts_of_demand (hstd.symm.trans h)).2 ▸ hv)

theorem model?_of_asked {d : ClassDecl} (h : t.demand classes formats = .ok (.model d)) :
    t.model? classes = some d := by
  obtain hnil | ⟨ms, hms⟩ | hstd := demand_cases classes formats t
  · cases h.symm.trans hnil
  · cases h.symm.trans hms
  · exact model?_of_demand (hstd.symm.trans h)

end Ty

-- The equation of the walk without the facts that its termination rests on.
theorem collectStack_cons (t : Ty) (rest : List Ty) (known : Models) :
    collectStack classes formats (t :: rest) known =
      (t.demand classes formats).bind fun
        | .types ts => collectStack classes formats (ts ++ rest) known
        | .models ms => collectStack classes formats rest (ms.foldl Models.addNew known)
        | .model d =>
          if known.has d.identity then collectStack classes formats rest known
          else (d.documented classes).bind fun fields =>
            (d.schema classes formats fields).bind fun s =>
              collectStack classes formats (fields.map (·.2) ++ rest)
                (known ++ [(d.identity, s)]) := by
  rw [collectStack]
  split
  next hd =>
    rw [hd]
    rfl
  next hd =>
    dsimp only
    rw [hd]
    rfl
  next hd =>
    rw [hd]
    rfl
  next d hd =>
    dsimp only
    rw [hd]
    split
    next hknown => exact (if_pos hknown).symm
    next hn =>
      refine Eq.trans ?_ (if_neg hn).symm
      cases d.documented classes with
      | error e => rfl
      | ok fields =>
        dsimp only [Except.bind]
        cases d.schema classes formats fields <;> rfl

theorem Models.mem_of_known {known : Models} {i : String} (h : known.has i = true) :
    i ∈ known.map (·.1) := by
  obtain ⟨m, hm, rfl⟩ := Models.has_iff.mp h
  exact List.mem_map_of_mem hm

theorem Models.not_mem_of_unknown {known : Models} {i : String} (hn : ¬known.has i = true) :
    i ∉ known.map (·.1) := by
  intro hi
  obtain ⟨m, hm, rfl⟩ := List.mem_map.mp hi
  exact hn (Models.has_iff.mpr ⟨m, hm, rfl⟩)

theorem Ty.untouched_of_asked {t : Ty} {d : ClassDecl} {known : Models}
    (hd : t.demand classes formats = .ok (.model d)) (hn : ¬known.has d.identity = true)
    (h : ∀ e, t.Reaches classes (known.map (·.1)) e → e.Untouched classes u) :
    d.Untouched classes u :=
  h d ⟨t, .here t, model?_of_asked hd, Models.not_mem_of_unknown hn⟩

theorem collectStack_of_untouched {t : Ty} {rest : List Ty} {known : Models} {d : ClassDecl}
    (hd : t.demand classes formats = .ok (.model d)) (hn : ¬known.has d.identity = true)
    (h : d.Untouched classes u) :
    collectStack (classes.respelled u) formats (t :: rest) known =
      (d.documented classes).bind fun fields =>
        (d.schema classes formats fields).bind fun s =>
          collectStack (classes.respelled u) formats (fields.map (·.2) ++ rest)
            (known ++ [(d.identity, s)]) := by
  have hdemand : t.demand (classes.respelled u) formats = .ok (.model d) := by
    rw [Ty.demand_respelled, hd]
    exact congrArg (fun e => Except.ok (Demand.model e)) h.1
  rw [collectStack_cons, hdemand]
  refine (if_neg hn).trans ?_
  simp only [h.documented, h.schema]

/-- Models that are found past no class that is annotated in another way stay as they are. -/
theorem collectStack_respelled {stack : List Ty} {known : Models}
    (h : ∀ t ∈ stack, ∀ e, t.Reaches classes (known.map (·.1)) e → e.Untouched classes u) :
    collectStack (classes.respelled u) formats stack known =
      collectStack classes formats stack known := by
  -- On the walk over the classes as they were: nothing that the stack still reaches is touched.
  fun_induction collectStack classes formats stack known with
  | case1 => rw [collectStack]
  | case2 known t rest e hd =>
    rw [collectStack_cons, Ty.demand_respelled, hd]
    rfl
  | case3 known t rest ts hd _ ih =>
    rw [collectStack_cons, Ty.demand_respelled, hd]
    refine ih fun v hv e he => ?_
    rcases List.mem_append.mp hv with hv | hv
    · exact h t List.mem_cons_self e (.of_part (Ty.part_of_demand hd hv) he)
    · exact h v (List.mem_cons_of_mem _ hv) e he
  | case4 known t rest ms hd ih =>
    rw [collectStack_cons, Ty.demand_respelled, hd]
    refine ih fun v hv e he => h v (List.mem_cons_of_mem _ hv) e (he.of_subset fun i hi => ?_)
    obtain ⟨m, hm, rfl⟩ := List.mem_map.mp hi
    exact Models.mem_of_known (Models.has_foldl_addNew ms (Models.has_iff.mpr ⟨m, hm, rfl⟩))
  | case5 known t rest d hd hknown ih =>
    rw [collectStack_cons, Ty.demand_respelled, hd]
    exact (if_pos hknown).trans (ih fun v hv e he => h v (List.mem_cons_of_mem _ hv) e he)
  | case6 known t rest d hd hn e hf =>
    have huntouched := Ty.untouched_of_asked hd hn (h t List.mem_cons_self)
    rw [collectStack_of_untouched hd hn huntouched, hf]
    rfl
  | case7 known t rest d hd hn fields hf e hs =>
    have huntouched := Ty.untouched_of_asked hd hn (h t List.mem_cons_self)
    rw [collectStack_of_untouched hd hn huntouched, hf, Except.bind, hs]
    rfl
  | case8 known t rest d hd hn fields hf s hs _ ih =>
    have huntouched := Ty.untouched_of_asked hd hn (h t List.mem_cons_self)
    rw [collectStack_of_untouched hd hn huntouched, hf, Except.bind, hs]
    refine ih fun v hv e he => ?_
    rw [List.map_append] at he
    rcases List.mem_append.mp hv with hv | hv
    · obtain ⟨w, hw, hm, hb⟩ := he.of_append
      have hfield : v ∈ d.fieldTypes classes := by
        rw [ClassDecl.fieldTypes_of_documented hf]
        exact hv
      exact h t List.mem_cons_self e
        ⟨w, .field (Ty.model?_of_asked hd) (Models.not_mem_of_unknown hn) hfield hw, hm, hb⟩
    · exact h v (List.mem_cons_of_mem _ hv) e he.of_append

namespace ClassDecl

/-- What stays of a field that has one type before and after a change, from the fields of its class
before and after. -/
structure FieldStays (classes : Registry) (u : Respelling) (formats : Formats) (d : ClassDecl)
    (n : String) (t : Ty) (before after : List Field) : Prop where
  /-- A schema is made just if every type that is reported now has a property. -/
  modelled : (∃ s, (d.respelled u).schema (classes.respelled u) formats after = .ok s) ↔
    ∀ e ∈ after, ∃ p, e.2.property classes formats = .ok p
  /-- The property is the same, and so is whether the field is required. -/
  described : ∀ s s', d.schema classes formats before = .ok s →
    (d.respelled u).schema (classes.respelled u) formats after = .ok s' →
    (∃ p, s.properties.lookup n = some p ∧ s'.properties.lookup n = some p) ∧
      (n ∈ s'.required.getD [] ↔ n ∈ s.required.getD [])
  /-- The models found from its type are the same, if none of their classes is touched. -/
  found : ∀ known, (∀ e, t.Reaches classes (known.map (·.1)) e → e.Untouched classes u) →
    collectModels (classes.respelled u) formats t known = collectModels classes formats t known

theorem fieldStays {d : ClassDecl} {n : String} {t : Ty} {before after : List Field}
    (hk : d.readsTogether = true) (hbefore : d.documented classes = .ok before)
    (hafter : (d.respelled u).documented (classes.respelled u) = .ok after)
    (ht : before.lookup n = some t) (ht' : after.lookup n = some t) :
    d.FieldStays classes u formats n t before after where
  modelled := by
    rw [exists_schema_iff]
    simp only [Ty.property_respelled]
  described s s' hs hs' := by
    obtain ⟨⟨p, hp, hlookup⟩, hrequired⟩ := schema_spec (nodup_documented hk hbefore) hs ht
    obtain ⟨⟨q, hq, hlookup'⟩, hrequired'⟩ :=
      schema_spec (nodup_documented (d := d.respelled u) hk hafter) hs' ht'
    rw [Ty.property_respelled] at hq
    cases hp.symm.trans hq
    exact ⟨⟨p, hlookup, hlookup'⟩, hrequired'.trans hrequired.symm⟩
  found _ hreached :=
    collectStack_respelled fun _ hv => List.mem_singleton.mp hv ▸ hreached

/-- An invoice: its number is annotated by a text, its buyer by a class. -/
def invoice : ClassDecl :=
  ⟨"Invoice", .record false, "Invoice", "app", "Invoice", none,
    [("number", .plain (.str "int")), ("buyer", .declared "User")], []⟩

/-- Invoices and the users that they name. -/
def invoices : Registry where
  decls := [
    ⟨"User", .record false, "User", "app", "User", none, [("id", .scalar .int)], []⟩, invoice]

/-- The annotation of a field of invoices becomes a name that nothing has. -/
def misspelt (field : String) : Respelling := fun key name t =>
  if key = "Invoice" ∧ name = field then .plain (.str "Missing") else t

end ClassDecl

end RouteAtlas
