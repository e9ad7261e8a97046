import RouteAtlas.Proofs.BuildSteps

/-!
Which models a walk over types has found when it ends: all that the types ask for, and with every
model all that its fields ask for.
-/

namespace RouteAtlas

variable {classes : Registry}

theorem Formats.standard_field? (t : Ty) : Formats.standard.field? t = none := by
  unfold Formats.field? Formats.find? Formats.standard
  split <;> rfl

theorem Formats.standard_models? (t : Ty) : Formats.standard.models? t = none := by
  unfold Formats.models? Formats.find? Formats.standard
  split <;> rfl

/-- A type asks for what its questions say, one after the other. -/
theorem Ty.demand_standard (t : Ty) : t.demand classes .standard =
    if t.isOptional then (t.unwrap classes.unions).map fun u => .types [u]
    else if 1 < t.members.length then .ok (.types t.members)
    else if t.isContainer then .ok (.types [t.element])
    else if t.isMapping then .ok (.types [t.value])
    else match t.model? classes with
      | some d => .ok (.model d)
      | none => .ok (.types []) := by
  unfold demand
  split
  next =>
    simp [isOptional, members, isContainer, isMapping, shape?, model?, decl?, core]
  next =>
    rw [Formats.standard_field?, Formats.standard_models?]
    rfl

/-- What a type has looked at in its place: what it wraps, its members, or nothing. -/
theorem Ty.types_of_demand {t : Ty} {ts : List Ty}
    (h : t.demand classes .standard = .ok (.types ts)) :
    (∃ u, t.unwrap classes.unions = .ok u ∧ ts = [u]) ∨ ts = t.members ∨
      (t.isContainer = true ∧ ts = [t.element]) ∨ (t.isMapping = true ∧ ts = [t.value]) ∨
      (¬1 < t.members.length ∧ ¬t.isContainer = true ∧ ¬t.isMapping = true ∧
        t.model? classes = none ∧ ts = []) := by
  rw [demand_standard] at h
  split at h
  next =>
    obtain ⟨u, hu, hts⟩ := exists_of_map_ok h
    cases hts
    exact Or.inl ⟨u, hu, rfl⟩
  next =>
    split at h
    next =>
      cases h
      exact Or.inr (Or.inl rfl)
    next hl =>
      split at h
      next hc =>
        cases h
        exact Or.inr (Or.inr (Or.inl ⟨hc, rfl⟩))
      next hc =>
        split at h
        next hm =>
          cases h
          exact Or.inr (Or.inr (Or.inr (Or.inl ⟨hm, rfl⟩)))
        next hm =>
          split at h
          next => cases h
          next hn =>
            cases h
            exact Or.inr (Or.inr (Or.inr (Or.inr ⟨hl, hc, hm, hn, rfl⟩)))

/-- Without formats no type brings given models. -/
theorem Ty.demand_ne_models (t : Ty) (ss : List Schema) :
    t.demand classes .standard ≠ .ok (.models ss) := by
  intro h
  rw [demand_standard] at h
  split at h
  next =>
    obtain ⟨u, -, hu⟩ := exists_of_map_ok h
    cases hu
  next =>
    repeat' split at h
    all_goals cases h

/-- The models that a type asks for: itself, or those that its parts ask for. -/
inductive Ty.Asks (classes : Registry) : Ty → ClassDecl → Prop
  | model {t : Ty} {d : ClassDecl} : t.demand classes .standard = .ok (.model d) →
      Asks classes t d
  | part {t u : Ty} {ts : List Ty} {d : ClassDecl} :
      t.demand classes .standard = .ok (.types ts) → u ∈ ts → Asks classes u d → Asks classes t d

/-- The walk over the type goes through, and all that it asks for is among the models. -/
inductive Covered (classes : Registry) (ms : Models) : Ty → Prop
  | parts {t : Ty} {ts : List Ty} : t.demand classes .standard = .ok (.types ts) →
      (∀ u ∈ ts, Covered classes ms u) → Covered classes ms t
  | model {t : Ty} {d : ClassDecl} : t.demand classes .standard = .ok (.model d) →
      ms.has d.identity = true → Covered classes ms t

theorem Covered.mono {ms ns : Models} {t : Ty} (h : Covered classes ms t)
    (hle : ∀ i, ms.has i = true → ns.has i = true) : Covered classes ns t := by
  induction h with
  | parts hd _ ih => exact .parts hd ih
  | model hd hm => exact .model hd (hle _ hm)

theorem Covered.of_types {ms : Models} {t : Ty} {ts : List Ty} (h : Covered classes ms t)
    (hd : t.demand classes .standard = .ok (.types ts)) : ∀ u ∈ ts, Covered classes ms u := by
  cases h with
  | parts hd' hu =>
    cases Except.ok.inj (hd.symm.trans hd')
    exact hu
  | model hd' _ => cases Except.ok.inj (hd.symm.trans hd')

theorem Covered.has_of_asks {ms : Models} {t : Ty} {d : ClassDecl} (h : Covered classes ms t)
    (ha : t.Asks classes d) : ms.has d.identity = true := by
  induction ha with
  | model hd =>
    cases h with
    | parts hd' _ => cases Except.ok.inj (hd.symm.trans hd')
    | model hd' hm =>
      cases Except.ok.inj (hd.symm.trans hd')
      exact hm
  | part hd hu _ ih => exact ih (h.of_types hd _ hu)

theorem Models.has_iff {ms : Models} {i : String} : ms.has i = true ↔ ∃ m ∈ ms, m.1 = i := by
  simp [has]

theorem Models.has_of_prefix {ms ns : Models} (h : ms <+: ns) {i : String}
    (hi : ms.has i = true) : ns.has i = true := by
  obtain ⟨m, hm, rfl⟩ := Models.has_iff.mp hi
  exact Models.has_iff.mpr ⟨m, h.subset hm, rfl⟩

/-- The entry of a class among models: its identity and the schema of its fields. -/
structure IsModelOf (classes : Registry) (d : ClassDecl) (fields : List Field)
    (m : String × Schema) : Prop where
  declared : ∃ k, classes.find? k = some d
  isModel : d.isModel = true
  identity : m.1 = d.identity
  documented : d.documented classes = .ok fields
  schema : d.schema classes .standard fields = .ok m.2

theorem ClassDecl.identity_ne_empty (d : ClassDecl) : d.identity ≠ "" := by
  intro h
  have hl := congrArg (fun s : String => s.toList.length) h
  simp [identity] at hl

/-- A class table identifies its classes if those of the same full name are the same. -/
def Registry.Identifies (classes : Registry) : Prop :=
  ∀ k l d e, classes.find? k = some d → classes.find? l = some e → d.identity = e.identity → d = e

theorem Registry.identifies_of_nodup (h : (classes.decls.map ClassDecl.identity).Nodup) :
    classes.Identifies := by
  intro _ _ d e hd he hde
  obtain ⟨i, hi, rfl⟩ := List.getElem_of_mem (mem_of_find? hd)
  obtain ⟨j, hj, rfl⟩ := List.getElem_of_mem (mem_of_find? he)
  have hne := List.pairwise_iff_getElem.mp (List.pairwise_map.mp h)
  rcases Nat.lt_trichotomy i j with hij | rfl | hij
  · exact absurd hde (hne i j hi hj hij)
  · rfl
  · exact absurd hde.symm (hne j i hj hi hij)

namespace IsModelOf

variable {d e : ClassDecl} {fields more : List Field} {m n : String × Schema}

theorem spec (h : IsModelOf classes d fields m) :
    m.2.name = d.name ∧ m.2.id = some d.identity ∧
      ∃ ps, describeFields classes .standard fields = .ok ps ∧
        m.2.properties = lastOfNames ps := by
  obtain ⟨ps, hps, hs⟩ := exists_of_bind_ok h.schema
  rw [← Except.ok.inj hs]
  exact ⟨rfl, rfl, ps, hps, rfl⟩

theorem schema_identity (h : IsModelOf classes d fields m) : m.2.identity = m.1 := by
  rw [Schema.identity, h.spec.2.1, h.identity]
  exact if_neg d.identity_ne_empty

/-- An identity has one model. -/
theorem eq_of_identity (hc : classes.Identifies) (h : IsModelOf classes d fields m)
    (h' : IsModelOf classes e more n) (hmn : m.1 = n.1) : d = e ∧ fields = more ∧ m = n := by
  obtain ⟨k, hk⟩ := h.declared
  obtain ⟨l, hl⟩ := h'.declared
  obtain rfl : d = e := hc k l d e hk hl (by rw [← h.identity, ← h'.identity, hmn])
  obtain rfl : fields = more := Except.ok.inj (h.documented.symm.trans h'.documented)
  exact ⟨rfl, rfl, Prod.ext hmn (Except.ok.inj (h.schema.symm.trans h'.schema))⟩

end IsModelOf

theorem Ty.exists_of_model? {t : Ty} {d : ClassDecl} (h : t.model? classes = some d) :
    d.isModel = true ∧ ∃ k, t.core = .declared k ∧ classes.find? k = some d := by
  unfold model? decl? at h
  obtain ⟨hd, hm⟩ := Option.filter_eq_some_iff.mp h
  split at hd
  next k hk => exact ⟨hm, k, hk, hd⟩
  next => simp at hd

theorem Ty.demand_of_model? {t : Ty} {d : ClassDecl} (h : t.model? classes = some d) :
    t.demand classes .standard = .ok (.model d) := by
  obtain ⟨-, k, hcore, -⟩ := exists_of_model? h
  rw [demand_standard, h]
  simp [isOptional, members, isContainer, isMapping, shape?, hcore]

theorem Ty.model?_of_demand {t : Ty} {d : ClassDecl}
    (h : t.demand classes .standard = .ok (.model d)) : t.model? classes = some d := by
  rw [demand_standard] at h
  split at h
  next =>
    obtain ⟨u, -, hu⟩ := exists_of_map_ok h
    cases hu
  next =>
    repeat' split at h
    all_goals cases h
    assumption

/-- What gathering models for types gives: the known ones come first, the types are covered, each
new model is that of a class whose fields are covered, and no identity comes twice. -/
structure Collected (classes : Registry) (ts : List Ty) (known ms : Models) : Prop where
  keeps : known <+: ms
  covers : ∀ t ∈ ts, Covered classes ms t
  described : ∀ m ∈ ms, m ∈ known ∨
    ∃ d fields, IsModelOf classes d fields m ∧ ∀ f ∈ fields, Covered classes ms f.2
  nodup : (known.map (·.1)).Nodup → (ms.map (·.1)).Nodup

theorem Collected.refl (known : Models) : Collected classes [] known known :=
  ⟨List.prefix_rfl, by simp, fun _ h => Or.inl h, id⟩

theorem Collected.trans {ts us : List Ty} {known ms ns : Models}
    (h : Collected classes ts known ms) (h' : Collected classes us ms ns) :
    Collected classes (ts ++ us) known ns := by
  have hle : ∀ i, ms.has i = true → ns.has i = true := fun _ => Models.has_of_prefix h'.keeps
  refine ⟨h.keeps.trans h'.keeps, ?_, ?_, fun hk => h'.nodup (h.nodup hk)⟩
  · intro t ht
    rcases List.mem_append.mp ht with ht | ht
    · exact (h.covers t ht).mono hle
    · exact h'.covers t ht
  · intro m hm
    rcases h'.described m hm with hm | hm
    · rcases h.described m hm with hm | ⟨d, fields, hd, hf⟩
      · exact Or.inl hm
      · exact Or.inr ⟨d, fields, hd, fun f hfm => (hf f hfm).mono hle⟩
    · exact Or.inr hm

theorem Collected.weaken {ts us : List Ty} {known ms : Models} (h : Collected classes ts known ms)
    (hc : ∀ t ∈ us, Covered classes ms t) : Collected classes us known ms :=
  ⟨h.keeps, hc, h.described, h.nodup⟩

/-- A new class with its fields pending is settled once these are covered. -/
theorem Collected.of_new_class {d : ClassDecl} {fields : List Field} {s : Schema} {rest : List Ty}
    {known ms : Models} (hd : IsModelOf classes d fields (d.identity, s))
    (hn : ¬known.has d.identity = true)
    (h : Collected classes (fields.map (·.2) ++ rest) (known ++ [(d.identity, s)]) ms) :
    ms.has d.identity = true ∧ Collected classes rest known ms := by
  have hmem : (d.identity, s) ∈ ms := h.keeps.subset (by simp)
  refine ⟨Models.has_iff.mpr ⟨_, hmem, rfl⟩, (List.prefix_append _ _).trans h.keeps, ?_, ?_, ?_⟩
  · exact fun t ht => h.covers t (List.mem_append_right _ ht)
  · intro m hm
    rcases h.described m hm with hk | hr
    · rcases List.mem_append.mp hk with hk | hk
      · exact Or.inl hk
      · rw [List.mem_singleton.mp hk]
        refine Or.inr ⟨d, fields, hd, fun f hf => ?_⟩
        exact h.covers f.2 (List.mem_append_left _ (List.mem_map_of_mem hf))
    · exact Or.inr hr
  · intro hk
    apply h.nodup
    rw [List.map_append]
    refine List.nodup_append.mpr ⟨hk, by simp, ?_⟩
    intro i hi j hj hij
    have hj' : j = d.identity := by simpa using hj
    obtain ⟨m, hm, rfl⟩ := List.mem_map.mp hi
    exact hn (Models.has_iff.mpr ⟨m, hm, hij.trans hj'⟩)

/-- The walk over a stack of types: one case for each thing that the first of them may ask for. -/
theorem collected_of_collectStack {stack : List Ty} {known ms : Models}
    (h : collectStack classes .standard stack known = .ok ms) :
    Collected classes stack known ms := by
  fun_induction collectStack classes .standard stack known with
  | case1 known =>
    cases Except.ok.inj h
    exact .refl _
  | case2 => cases h
  | case3 known t rest ts hd _ ih =>
    have hc := ih h
    refine hc.weaken ?_
    intro u hu
    rcases List.mem_cons.mp hu with rfl | hu
    · exact .parts hd fun v hv => hc.covers v (List.mem_append_left _ hv)
    · exact hc.covers u (List.mem_append_right _ hu)
  | case4 known t rest ss hd ih =>
    -- The standard formats have no models for a type.
    exact absurd hd (Ty.demand_ne_models t ss)
  | case5 known t rest d hd hn ih =>
    have hc := ih h
    refine hc.weaken ?_
    intro u hu
    rcases List.mem_cons.mp hu with rfl | hu
    · exact .model hd (Models.has_of_prefix hc.keeps hn)
    · exact hc.covers u hu
  | case6 => cases h
  | case7 => cases h
  | case8 known t rest d hd hn fields hf s hs _ ih =>
    obtain ⟨hm, k, -, hk⟩ := Ty.exists_of_model? (Ty.model?_of_demand hd)
    obtain ⟨hself, hc⟩ := Collected.of_new_class ⟨⟨k, hk⟩, hm, rfl, hf, hs⟩ hn (ih h)
    refine hc.weaken ?_
    intro u hu
    rcases List.mem_cons.mp hu with rfl | hu
    · exact .model hd hself
    · exact hc.covers u hu

theorem collected_of_foldlM {ts : List Ty} {known ms : Models}
    (h : ts.foldlM (fun ms t => collectModels classes .standard t ms) known = .ok ms) :
    Collected classes ts known ms := by
  induction ts generalizing known with
  | nil =>
    cases Except.ok.inj h
    exact .refl _
  | cons t ts ih =>
    obtain ⟨ns, hn, h⟩ := exists_of_foldlM_cons h
    exact (collected_of_collectStack hn).trans (ih h)

namespace Action

/-- The types that an action gathers models for. -/
def modelTypes (a : Action) : List Ty := a.resultTypes ++ a.bodyTypes

theorem collected_of_collect {a : Action} {known ms : Models}
    (h : a.collect classes .standard known = .ok ms) : Collected classes a.modelTypes known ms :=
  collected_of_foldlM h

theorem collected_of_contribution {a : Action} {c : Contribution}
    (h : a.contribution classes .standard = .ok c) :
    Collected classes a.modelTypes [] c.models := by
  obtain ⟨_, _, _, _, _, hm⟩ := exists_of_contribution h
  exact collected_of_collect hm

end Action

theorem collected_of_collectActions {actions : List Action} {known ms : Models}
    (h : actions.foldlM (fun ms a => a.collect classes .standard ms) known = .ok ms) :
    Collected classes (actions.flatMap Action.modelTypes) known ms := by
  induction actions generalizing known with
  | nil =>
    cases Except.ok.inj h
    exact .refl _
  | cons a as ih =>
    obtain ⟨ns, hn, h⟩ := exists_of_foldlM_cons h
    exact (Action.collected_of_collect hn).trans (ih h)

end RouteAtlas
