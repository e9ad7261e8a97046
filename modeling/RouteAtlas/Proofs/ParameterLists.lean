import RouteAtlas.Proofs.DataKinds
import RouteAtlas.Proofs.LeafPlaces
import RouteAtlas.Proofs.RewrittenBuild

/-!
What the parameters of an operation have in common with those that a document should have: which of
them share a name and a location, and which of them have items. The path keeps a repeated name once;
the rules of the query and of the headers have a parameter for each of their leaves.
-/

namespace RouteAtlas

variable {classes : Registry} {formats : Formats}

/-- Does the parameter say of what its values are rows, or how they are joined? -/
def SimpleParameter.HasRow (p : SimpleParameter) : Prop :=
  p.items.isSome = true ∨ p.collectionFormat.isSome = true

/-- Where a parameter is sent and what it is called. -/
def Parameter.key (p : Parameter) : String × Option String := (p.locationWord, p.name)

/-- The name that a parameter takes from a value. -/
def Value.parameterName (v : Value) : Option String :=
  match Check.nullable Check.text v with
  | .ok n => n
  | .bad _ => none

/-- The parameter of a location that is declared with a type: a capture of the path, or a leaf of
the query or the headers with the description that its place gives it. -/
inductive Action.Declares (classes : Registry) (a : Action) :
    Location → Ty → SimpleParameter → Prop
  | path {l : Linear} {s : List Step} {n d : Value} {t : Ty} {p : SimpleParameter} :
      a.path.linearize = .ok l → s ∈ l.sequences → .capture n t d ∈ s →
      Step.captureParameter classes n t d = .ok p → Declares classes a .path t p
  | query {q : QueryLeaf} {p : SimpleParameter} (desc : Value) :
      q ∈ a.query.leaves → q.parameter classes = .ok p →
      Declares classes a .query q.ty { p with description := desc }
  | header {h : HeaderLeaf} {p : SimpleParameter} (desc : Value) :
      h ∈ a.headers.leaves → h.parameter classes = .ok p →
      Declares classes a .header h.ty { p with description := desc }

namespace Ty

theorem Peels.of_bareType {rule : UnionRule} {t u : Ty} (h : t.bareType rule = .ok u)
    (ho : u.isOptional = false) : t.Peels rule u := by
  unfold Ty.bareType at h
  split at h
  next hopt =>
    obtain ⟨w, hw, rfl⟩ := exists_of_map_ok h
    exact .wrapped hopt hw (.bare (by rwa [isOptional_core] at ho))
  next hopt =>
    cases Except.ok.inj h
    exact .bare (by simpa using hopt)

/-- What a type is that is documented as an array. -/
theorem exists_peels_of_array {t : Ty} {d : DataType} (h : t.dataType classes = .ok d)
    (hd : d.name = "array") :
    ∃ v, t.Peels classes.unions v ∧ (v.isContainer = true ∨
      v.isModel classes = true ∧ v.simpleName classes = "array") := by
  have hbind := h
  rw [dataType_eq] at hbind
  obtain ⟨u, hu, -⟩ := exists_of_bind_ok hbind
  obtain rfl := dataType_eq_bareData hu h
  have ho : u.isOptional = false := by
    refine Bool.eq_false_iff.mpr fun ho => ?_
    rw [bareData_of_isOptional ho] at hd
    exact absurd hd (by decide)
  refine ⟨u, .of_bareType hu ho, ?_⟩
  unfold bareData at hd
  split at hd
  next values _ => exact absurd hd (DataType.name_ofEnum_ne values).1
  next =>
    split at hd
    next s hs => exact absurd hd (name_scalarData?_ne hs).1
    next =>
      split at hd
      next hc => exact .inl hc
      next =>
        split at hd
        next => exact absurd hd (by decide)
        next =>
          split at hd
          next hm => exact .inr ⟨hm, hd⟩
          next => exact absurd hd (by decide)

end Ty

theorem Value.parameterName_of_ok {v : Value} {n : Option String}
    (h : Check.nullable Check.text v = .ok n) : v.parameterName = n := by
  rw [Value.parameterName, h]

/-- What is checked of a parameter changes its name, its description and whether it is required, and
nothing else. -/
theorem exists_of_checkedParameter {name description required : Value} {p q : SimpleParameter}
    (h : checkedParameter name description required p = .ok q) :
    ∃ r, Check.bool required = .ok r ∧ q = { p with
      name := name.parameterName, description := .ofText? description.parameterName,
      required := r } := by
  obtain ⟨_, r, h₁, hr, rfl⟩ := Checked.exists_of_seq_ok (Checked.exists_of_toExcept_ok h)
  obtain ⟨_, d, h₂, hd, rfl⟩ := Checked.exists_of_seq_ok h₁
  obtain ⟨n, hn, rfl⟩ := Checked.exists_of_map_ok h₂
  exact ⟨r, Checked.of_at hr, by rw [Value.parameterName_of_ok (Checked.of_at hn),
    Value.parameterName_of_ok (Checked.of_at hd)]⟩

/-- A parameter has items just if it is documented as an array, and is joined in some way then. -/
theorem arrayItems_spec {t : Ty} {format : String} {items : Option Primitive}
    {cf : Option String} (h : arrayItems classes t format = .ok (items, cf)) :
    ∃ d, t.dataType classes = .ok d ∧ (items.isSome = true ↔ d.name = "array") ∧
      (cf.isSome = true ↔ d.name = "array") := by
  obtain ⟨d, hd, h⟩ := exists_of_bind_ok h
  refine ⟨d, hd, ?_⟩
  split at h
  next hn =>
    cases Except.ok.inj h
    simpa using hn
  next hn =>
    -- Whatever the items are taken from, there are some.
    have hsome : items.isSome = true ∧ cf.isSome = true := by
      dsimp only at h
      split at h
      all_goals
        obtain ⟨u, _, h⟩ := exists_of_bind_ok h
        obtain ⟨inline, _, h⟩ := exists_of_bind_ok h
        split at h
        all_goals
          obtain ⟨e, _, h⟩ := exists_of_bind_ok h
          cases Except.ok.inj h
          exact ⟨rfl, rfl⟩
    simpa [hsome] using hn

theorem QueryLeaf.parameter_spec {q : QueryLeaf} {p : SimpleParameter}
    (h : q.parameter classes = .ok p) :
    p.name = q.name.parameterName ∧ (p.type = "array" → p.items.isSome = true) ∧
      (p.HasRow → ∃ d, q.ty.dataType classes = .ok d ∧ d.name = "array") := by
  obtain ⟨d, hd, h⟩ := exists_of_bind_ok h
  obtain ⟨⟨items, cf⟩, hrow, h⟩ := exists_of_bind_ok h
  obtain ⟨e, he, hitems, hcf⟩ := arrayItems_spec hrow
  cases hd.symm.trans he
  obtain ⟨r, -, rfl⟩ := exists_of_checkedParameter h
  exact ⟨rfl, hitems.mpr, fun hp => ⟨d, hd, hp.elim hitems.mp hcf.mp⟩⟩

theorem HeaderLeaf.parameter_spec {l : HeaderLeaf} {p : SimpleParameter}
    (h : l.parameter classes = .ok p) : p.name = l.name.parameterName ∧ ¬p.HasRow := by
  obtain ⟨d, _, h⟩ := exists_of_bind_ok h
  obtain ⟨r, -, rfl⟩ := exists_of_checkedParameter h
  exact ⟨rfl, by simp [SimpleParameter.HasRow]⟩

theorem Step.captureParameter_spec {n d : Value} {t : Ty} {p : SimpleParameter}
    (h : captureParameter classes n t d = .ok p) : ¬p.HasRow := by
  obtain ⟨_, _, h⟩ := exists_of_bind_ok h
  obtain ⟨r, -, rfl⟩ := exists_of_checkedParameter h
  simp [SimpleParameter.HasRow]

theorem nodup_addNewNames {acc ps : List SimpleParameter} (h : (acc.map (·.name)).Nodup) :
    ((addNewNames acc ps).map (·.name)).Nodup := by
  induction ps generalizing acc with
  | nil => exact h
  | cons p ps ih =>
    rw [addNewNames, List.foldl_cons]
    refine ih ?_
    split
    next => exact h
    next hn =>
      rw [List.map_append, List.nodup_append]
      refine ⟨h, by simp, fun i hi j hj hij => hn ?_⟩
      obtain ⟨q, hq, rfl⟩ := List.mem_map.mp hi
      rw [List.map_singleton, List.mem_singleton] at hj
      exact List.any_eq_true.mpr ⟨q, hq, by simpa using hij.trans hj⟩

theorem mem_addNewNames {acc ps : List SimpleParameter} {q : SimpleParameter}
    (h : q ∈ addNewNames acc ps) : q ∈ acc ∨ q ∈ ps := by
  induction ps generalizing acc with
  | nil => exact .inl h
  | cons p ps ih =>
    rw [addNewNames, List.foldl_cons] at h
    rcases ih h with hq | hq
    · split at hq
      next => exact .inl hq
      next =>
        rcases List.mem_append.mp hq with hq | hq
        · exact .inl hq
        · exact .inr (List.mem_singleton.mp hq ▸ List.mem_cons_self)
    · exact .inr (List.mem_cons_of_mem _ hq)

/-- The parameters of a sequence are those of its captures, and the one of the tail. -/
theorem Step.mem_parameters {s : List Step} {ps : List SimpleParameter} {p : SimpleParameter}
    (h : parameters classes s = .ok ps) (hp : p ∈ ps) :
    p = tailParameter ∨ ∃ n t d, .capture n t d ∈ s ∧ captureParameter classes n t d = .ok p := by
  fun_induction parameters classes s generalizing ps with
  | case1 =>
    cases Except.ok.inj h
    cases hp
  | case2 n t d r ih =>
    obtain ⟨q, hq, h⟩ := exists_of_bind_ok h
    obtain ⟨rest, hrest, h⟩ := exists_of_bind_ok h
    cases Except.ok.inj h
    rcases List.mem_cons.mp hp with rfl | hp
    · exact .inr ⟨n, t, d, List.mem_cons_self, hq⟩
    · exact (ih hrest hp).imp_right fun ⟨n, t, d, hmem, hq⟩ =>
        ⟨n, t, d, List.mem_cons_of_mem _ hmem, hq⟩
  | case3 r =>
    cases Except.ok.inj h
    exact .inl (List.mem_singleton.mp hp)
  | case4 s r _ _ ih =>
    exact (ih h hp).imp_right fun ⟨n, t, d, hmem, hq⟩ =>
      ⟨n, t, d, List.mem_cons_of_mem _ hmem, hq⟩

/-- Parameters of different names, each that of a tail or of a capture in one of the sequences. -/
structure CapturedIn (classes : Registry) (ss : List (List Step)) (ps : List SimpleParameter) :
    Prop where
  nodup : (ps.map (·.name)).Nodup
  captured : ∀ p ∈ ps, p = Step.tailParameter ∨ ∃ s ∈ ss, ∃ n t d, .capture n t d ∈ s ∧
    Step.captureParameter classes n t d = .ok p

namespace CapturedIn

variable {ss : List (List Step)} {template : Option String} {acc out : List SimpleParameter}

theorem add {s : List Step} (h : CapturedIn classes ss acc) (hs : s ∈ ss)
    (hout : PathRule.addParameters classes template acc s = .ok out) :
    CapturedIn classes ss out := by
  obtain ⟨chosen, _, hout⟩ := exists_of_bind_ok hout
  cases chosen with
  | false =>
    cases Except.ok.inj hout
    exact h
  | true =>
    obtain ⟨more, hmore, hout⟩ := exists_of_bind_ok hout
    cases Except.ok.inj hout
    refine ⟨nodup_addNewNames h.nodup, fun p hp => ?_⟩
    rcases mem_addNewNames hp with hp | hp
    · exact h.captured p hp
    · exact (Step.mem_parameters hmore hp).imp_right fun hcapture => ⟨s, hs, hcapture⟩

theorem fold {ts : List (List Step)} (h : CapturedIn classes ss acc) (hts : ts ⊆ ss)
    (hout : ts.foldlM (PathRule.addParameters classes template) acc = .ok out) :
    CapturedIn classes ss out := by
  induction ts generalizing acc with
  | nil =>
    cases Except.ok.inj hout
    exact h
  | cons s ts ih =>
    obtain ⟨hs, hts⟩ := List.cons_subset.mp hts
    obtain ⟨mid, hmid, hout⟩ := exists_of_foldlM_cons hout
    exact ih (h.add hs hmid) hts hout

end CapturedIn

theorem PathRule.capturedIn_of_parameters {r : PathRule} {template : Option String}
    {ps : List SimpleParameter} (h : r.parameters classes template = .ok ps) :
    ∃ l, r.linearize = .ok l ∧ CapturedIn classes l.sequences ps := by
  rw [parameters_eq] at h
  obtain ⟨l, hl, h⟩ := exists_of_bind_ok h
  have hnone : CapturedIn classes l.sequences [] := ⟨List.nodup_nil, by simp⟩
  exact ⟨l, hl, hnone.fold (List.Subset.refl _) h⟩

namespace ParamRule

variable {α : Type} {make : α → Except Fault SimpleParameter} {kind : String} {r : ParamRule α}

theorem exists_of_collect {ps : List SimpleParameter} (h : r.collect make kind = .ok ps) :
    ∀ a ∈ r.leaves, ∃ p, make a = .ok p := by
  fun_induction collect make kind r generalizing ps with
  | case1 a =>
    obtain ⟨p, hp, _⟩ := exists_of_bind_ok h
    simpa [leaves] using ⟨p, hp⟩
  | case2 => simp [leaves]
  | case3 v => simp [leaves]
  | case4 l r ihl ihr =>
    obtain ⟨ps, hps, h⟩ := exists_of_bind_ok h
    obtain ⟨qs, hqs, h⟩ := exists_of_bind_ok h
    exact List.forall_mem_append.mpr ⟨ihl hps, ihr hqs⟩
  | case5 l r ihl ihr =>
    obtain ⟨ps, hps, h⟩ := exists_of_bind_ok h
    obtain ⟨qs, hqs, h⟩ := exists_of_bind_ok h
    exact List.forall_mem_append.mpr ⟨ihl hps, ihr hqs⟩
  | case6 a n =>
    obtain ⟨p, hp, _⟩ := exists_of_bind_ok h
    simpa [leaves] using ⟨p, hp⟩
  | case7 r n _ ih => exact ih h

theorem exists_param_of_collect (hbare : ∀ a p, make a = .ok p → p.description = .null)
    {ps : List SimpleParameter} (h : r.collect make kind = .ok ps) :
    ∃ param : α → SimpleParameter, (∀ a ∈ r.leaves, make a = .ok (param a)) ∧
      ps = r.places.map (·.documented param kind) := by
  let param : α → SimpleParameter := fun a => (make a).toOption.getD default
  have hparam : ∀ a ∈ r.leaves, make a = .ok (param a) := by
    intro a ha
    obtain ⟨p, hp⟩ := exists_of_collect h a ha
    simp [param, hp, Except.toOption]
  have hplaces := collect_eq_places param kind hparam fun a ha => hbare a _ (hparam a ha)
  exact ⟨param, hparam, Except.ok.inj (h.symm.trans hplaces)⟩

/-- A rule has the names of its leaves in order, each as often as it is there, and its parameters
are those of its leaves with other descriptions. -/
theorem collect_spec {name : α → Option String}
    (hbare : ∀ a p, make a = .ok p → p.description = .null)
    (hname : ∀ a p, make a = .ok p → p.name = name a) {ps : List SimpleParameter}
    (h : r.collect make kind = .ok ps) :
    ps.map (·.name) = r.leaves.map name ∧
      ∀ p ∈ ps, ∃ a ∈ r.leaves, ∃ alone desc,
        make a = .ok alone ∧ p = { alone with description := desc } := by
  obtain ⟨param, hparam, rfl⟩ := exists_param_of_collect hbare h
  constructor
  · calc (r.places.map (·.documented param kind)).map (·.name)
        = (r.places.map (·.leaf)).map fun a => (param a).name := by
          simp [Function.comp_def, Place.documented]
      _ = r.leaves.map fun a => (param a).name := by rw [leaf_places]
      _ = r.leaves.map name := List.map_congr_left fun a ha => hname a _ (hparam a ha)
  · intro p hp
    obtain ⟨place, hplace, rfl⟩ := List.mem_map.mp hp
    have hleaf : place.leaf ∈ r.leaves := leaf_places r ▸ List.mem_map_of_mem hplace
    exact ⟨place.leaf, hleaf, _, _, hparam _ hleaf, rfl⟩

end ParamRule

namespace Parameter

theorem nodup_keys_simple (l : Location) (ps : List SimpleParameter) :
    ((ps.map (simple l)).map key).Nodup ↔ (ps.map (·.name)).Nodup := by
  have hkeys : (ps.map (simple l)).map key = (ps.map (·.name)).map (Prod.mk l.word) := by
    simp [key, locationWord, name, Function.comp_def]
  rw [hkeys, List.nodup_map_iff (Prod.mk_right_injective l.word)]

theorem word_of_mem_keys {l : Location} {ps : List SimpleParameter} {k : String × Option String}
    (h : k ∈ (ps.map (simple l)).map key) : k.1 = l.word := by
  obtain ⟨p, hp, rfl⟩ := List.mem_map.mp h
  obtain ⟨q, _, rfl⟩ := List.mem_map.mp hp
  rfl

/-- Parameters are only taken for each other within one location. -/
theorem nodup_keys_iff {path query headers : List SimpleParameter} {body : List Parameter}
    (hbody : body = [] ∨ ∃ b, body = [.body b]) :
    ((path.map (simple .path) ++ query.map (simple .query) ++ headers.map (simple .header) ++
        body).map key).Nodup ↔
      (path.map (·.name)).Nodup ∧ (query.map (·.name)).Nodup ∧ (headers.map (·.name)).Nodup := by
  have hbodies : (body.map key).Nodup ∧ ∀ k ∈ body.map key, k.1 = "body" := by
    rcases hbody with rfl | ⟨b, rfl⟩
    · simp
    · simp [key, locationWord]
  have hapart : ∀ {v w : String} {i j : String × Option String}, i.1 = v → j.1 = w → v ≠ w →
      i ≠ j := fun hi hj hvw hij => hvw (hi.symm.trans (hij ▸ hj))
  simp only [List.map_append, List.nodup_append, nodup_keys_simple, List.forall_mem_append]
  constructor
  · rintro ⟨⟨⟨hpath, hquery, -⟩, hheaders, -⟩, -⟩
    exact ⟨hpath, hquery, hheaders⟩
  · rintro ⟨hpath, hquery, hheaders⟩
    have hword := @word_of_mem_keys
    refine ⟨⟨⟨hpath, hquery, fun i hi j hj => ?_⟩, hheaders, ⟨fun i hi j hj => ?_,
      fun i hi j hj => ?_⟩⟩, hbodies.1, ⟨fun i hi j hj => ?_, fun i hi j hj => ?_⟩,
      fun i hi j hj => ?_⟩
    · exact hapart (hword hi) (hword hj) (by decide)
    · exact hapart (hword hi) (hword hj) (by decide)
    · exact hapart (hword hi) (hword hj) (by decide)
    · exact hapart (hword hi) (hbodies.2 j hj) (by decide)
    · exact hapart (hword hi) (hbodies.2 j hj) (by decide)
    · exact hapart (hword hi) (hbodies.2 j hj) (by decide)

theorem filter_path {path query headers : List SimpleParameter} {body : List Parameter}
    (hbody : body = [] ∨ ∃ b, body = [.body b]) :
    (path.map (simple .path) ++ query.map (simple .query) ++ headers.map (simple .header) ++
      body).filter (·.locationWord = "path") = path.map (simple .path) := by
  have hself : (path.map (simple .path)).filter (·.locationWord = "path") =
      path.map (simple .path) :=
    List.filter_eq_self.mpr (by simp [locationWord, Location.word])
  have hother {l : Location} (hl : l.word ≠ "path") (ps : List SimpleParameter) :
      (ps.map (simple l)).filter (·.locationWord = "path") = [] :=
    List.filter_eq_nil_iff.mpr (by simp [locationWord, hl])
  have hbodies : body.filter (·.locationWord = "path") = [] := by
    rcases hbody with rfl | ⟨b, rfl⟩
    · rfl
    · simp [locationWord]
  rw [List.filter_append, List.filter_append, List.filter_append, hself, hother (by decide),
    hother (by decide), hbodies]
  simp only [List.append_nil]

end Parameter

namespace Action

variable {a : Action}

theorem exists_of_parameters {template : Option String} {ps : List Parameter}
    (h : a.parameters classes formats template = .ok ps) :
    ∃ path query headers body, a.path.parameters classes template = .ok path ∧
      a.query.parameters classes = .ok query ∧ a.headers.parameters classes = .ok headers ∧
      a.bodyParameter classes formats = .ok body ∧
      ps = path.map (.simple .path) ++ query.map (.simple .query) ++
        headers.map (.simple .header) ++ body := by
  obtain ⟨path, hpath, h⟩ := exists_of_bind_ok h
  obtain ⟨query, hquery, h⟩ := exists_of_bind_ok h
  obtain ⟨headers, hheaders, h⟩ := exists_of_bind_ok h
  obtain ⟨body, hbody, h⟩ := exists_of_bind_ok h
  exact ⟨path, query, headers, body, hpath, hquery, hheaders, hbody, (Except.ok.inj h).symm⟩

theorem bodyParameter_cases {ps : List Parameter} (h : a.bodyParameter classes formats = .ok ps) :
    ps = [] ∨ ∃ b, ps = [.body b] := by
  unfold bodyParameter at h
  split at h
  next =>
    obtain ⟨s, _, rfl⟩ := exists_of_map_ok h
    exact .inr ⟨_, rfl⟩
  next =>
    cases Except.ok.inj h
    exact .inl rfl

/-- A parameter with items is declared with a container. -/
theorem Declares.exists_peels {l : Location} {t : Ty} {p : SimpleParameter}
    (h : a.Declares classes l t p) (hp : p.HasRow) :
    ∃ v, t.Peels classes.unions v ∧ (v.isContainer = true ∨
      v.isModel classes = true ∧ v.simpleName classes = "array") := by
  cases h with
  | path _ _ _ hq => exact absurd hp (Step.captureParameter_spec hq)
  | query _ _ hq =>
    obtain ⟨d, hd, hname⟩ := (QueryLeaf.parameter_spec hq).2.2 hp
    exact Ty.exists_peels_of_array hd hname
  | header _ _ hq => exact absurd hp (HeaderLeaf.parameter_spec hq).2

/-- The path parameters of an operation have distinct names, and all its parameters have different
names or locations just if no name is repeated among the leaves of the query nor among those of the
headers. A parameter of the query that is an array has items, and what has items is declared with a
container, or with a model that is named like an array. -/
theorem parameters_of_operation {template : String} {op : Operation}
    (h : a.operation classes formats template = .ok op) :
    ((op.parameters.filter (·.locationWord = "path")).map Parameter.name).Nodup ∧
    ((op.parameters.map Parameter.key).Nodup ↔
      (a.query.leaves.map (·.name.parameterName)).Nodup ∧
        (a.headers.leaves.map (·.name.parameterName)).Nodup) ∧
    (∀ p, .simple .query p ∈ op.parameters → p.type = "array" → p.items.isSome = true) ∧
    ∀ l p, .simple l p ∈ op.parameters → p.HasRow →
      (∃ t, a.Declares classes l t p) ∧
      ∀ t, a.Declares classes l t p → ∃ v, t.Peels classes.unions v ∧ (v.isContainer = true ∨
        v.isModel classes = true ∧ v.simpleName classes = "array") := by
  obtain ⟨path, query, headers, body, hpath, hquery, hheaders, hbody, hps⟩ :=
    exists_of_parameters (exists_of_operation h).1
  obtain ⟨linear, hlinear, hcaptured⟩ := PathRule.capturedIn_of_parameters hpath
  obtain ⟨hqueryNames, hqueryLeaf⟩ := ParamRule.collect_spec
    (fun _ _ => QueryLeaf.description_of_parameter)
    (fun _ _ hq => (QueryLeaf.parameter_spec hq).1) hquery
  obtain ⟨hheaderNames, hheaderLeaf⟩ := ParamRule.collect_spec
    (fun _ _ => HeaderLeaf.description_of_parameter)
    (fun _ _ hq => (HeaderLeaf.parameter_spec hq).1) hheaders
  have hmem : ∀ l p, .simple l p ∈ op.parameters ↔
      (l = .path ∧ p ∈ path) ∨ (l = .query ∧ p ∈ query) ∨ (l = .header ∧ p ∈ headers) := by
    intro l p
    rw [hps]
    rcases bodyParameter_cases hbody with rfl | ⟨b, rfl⟩ <;> cases l <;> simp
  have hpaths : op.parameters.filter (·.locationWord = "path") = path.map (.simple .path) := by
    rw [hps]
    exact Parameter.filter_path (bodyParameter_cases hbody)
  refine ⟨?_, ?_, fun p hp harray => ?_,
    fun l p hp hrow => ⟨?_, fun t ht => ht.exists_peels hrow⟩⟩
  · rw [hpaths, List.map_map]
    exact hcaptured.nodup
  · rw [hps, Parameter.nodup_keys_iff (bodyParameter_cases hbody), hqueryNames, hheaderNames]
    exact and_iff_right hcaptured.nodup
  · obtain ⟨hl, -⟩ | ⟨-, hquery⟩ | ⟨hl, -⟩ := (hmem _ _).mp hp
    · cases hl
    · obtain ⟨q, -, alone, desc, hq, rfl⟩ := hqueryLeaf p hquery
      exact (QueryLeaf.parameter_spec hq).2.1 harray
    · cases hl
  · obtain ⟨rfl, hfrom⟩ | ⟨rfl, hfrom⟩ | ⟨rfl, hfrom⟩ := (hmem _ _).mp hp
    · rcases hcaptured.captured p hfrom with rfl | ⟨s, hs, n, t, d, hstep, hq⟩
      · simp [SimpleParameter.HasRow, Step.tailParameter] at hrow
      · exact ⟨t, .path hlinear hs hstep hq⟩
    · obtain ⟨q, hleaf, alone, desc, hq, rfl⟩ := hqueryLeaf p hfrom
      exact ⟨q.ty, .query desc hleaf hq⟩
    · obtain ⟨h, hleaf, alone, desc, hq, rfl⟩ := hheaderLeaf p hfrom
      exact ⟨h.ty, .header desc hleaf hq⟩

/-- Reads the entries of a user, by a query. -/
def readingUser (query : QueryRule) : Action where
  method := "GET"
  path := .both (.literal (.str "users")) (.capture (.str "id") (.scalar .int) .null)
  query := query
  headers := .leaf (.require (.str "Token"))
  results := []
  body := .absent
  consumes := []
  produces := []

/-- A page, and any number of tags. -/
def pageAndTags : QueryRule :=
  .both (.leaf (ParamRule.number "page"))
    (.leaf ⟨.str "tags", .union [.applied ⟨.builtin, "list"⟩ [.scalar .str], .nothing],
      .plain .null, .null⟩)

/-- The parameter of the tags. -/
def tagsParameter : SimpleParameter :=
  ⟨some "tags", .null, true, "array", none, .null, some ⟨"string", none, none, none⟩, some "multi"⟩

theorem parameters_of_operation_pageAndTags :
    ∃ op, (readingUser pageAndTags).operation ∅ .standard "/users/{id}" = .ok op ∧
      (op.parameters.map Parameter.key).Nodup ∧
      ∃ p, .simple .query p ∈ op.parameters ∧ p.type = "array" ∧ p.items.isSome = true := by
  have hps : ((readingUser pageAndTags).operation ∅ .standard "/users/{id}").map (·.parameters) =
      .ok [.simple .path ⟨some "id", .null, true, "integer", some "int64", .null, none, none⟩,
        .simple .query ⟨some "page", .null, true, "integer", some "int64", .null, none, none⟩,
        .simple .query tagsParameter,
        .simple .header ⟨some "Token", .null, true, "string", none, .null, none, none⟩] := by
    cbv
  obtain ⟨op, hop, hparameters⟩ := exists_of_map_ok hps
  have htags : .simple .query tagsParameter ∈ op.parameters := by
    rw [hparameters]
    exact .tail _ (.tail _ (.head _))
  obtain ⟨-, hnodup, hitems, -⟩ := parameters_of_operation hop
  exact ⟨op, hop, hnodup.mpr (by decide), tagsParameter, htags, rfl,
    hitems tagsParameter htags rfl⟩

/-- A page that is asked for twice. -/
def pageTwice : QueryRule :=
  .both (.leaf (ParamRule.number "page")) (.leaf (ParamRule.number "page"))

/-- Two rules that are joined have two parameters, also where these are of one name. -/
theorem repeated_key_of_pageTwice :
    ∃ op, (readingUser pageTwice).operation ∅ .standard "/users/{id}" = .ok op ∧
      op.parameters.map Parameter.key = [("path", some "id"), ("query", some "page"),
        ("query", some "page"), ("header", some "Token")] ∧
      ¬(op.parameters.map Parameter.key).Nodup := by
  have hkeys : ((readingUser pageTwice).operation ∅ .standard "/users/{id}").map
      (·.parameters.map Parameter.key) = .ok [("path", some "id"), ("query", some "page"),
        ("query", some "page"), ("header", some "Token")] := by
    cbv
  obtain ⟨op, hop, hkeys⟩ := exists_of_map_ok hkeys
  exact ⟨op, hop, hkeys, by rw [hkeys]; decide⟩

/-- Whole numbers in a segment of the path, and texts in a header. -/
def readingRows : Action where
  method := "GET"
  path := .capture (.str "ids") (.applied ⟨.builtin, "list"⟩ [.scalar .int]) .null
  query := .empty
  headers := .leaf (.capture (.str "Tags") (.applied ⟨.builtin, "list"⟩ [.scalar .str]))
  results := []
  body := .absent
  consumes := []
  produces := []

/-- Only the rule of the query works out items: an array of the path or of a header has none. -/
theorem arrays_without_items :
    ∃ op, readingRows.operation ∅ .standard "/{ids}" = .ok op ∧
      (∃ p, .simple .path p ∈ op.parameters ∧ p.type = "array" ∧ p.items = none) ∧
      ∃ p, .simple .header p ∈ op.parameters ∧ p.type = "array" ∧ p.items = none := by
  let bare (name : String) : SimpleParameter :=
    ⟨some name, .null, true, "array", none, .null, none, none⟩
  have hps : (readingRows.operation ∅ .standard "/{ids}").map (·.parameters) =
      .ok [.simple .path (bare "ids"), .simple .header (bare "Tags")] := by
    cbv
  obtain ⟨op, hop, hparameters⟩ := exists_of_map_ok hps
  refine ⟨op, hop, ⟨bare "ids", ?_, rfl, rfl⟩, ⟨bare "Tags", ?_, rfl, rfl⟩⟩
  · rw [hparameters]
    exact .head _
  · rw [hparameters]
    exact .tail _ (.head _)

/-- A class that is named like an array. -/
def arrayClass : Registry where
  decls := [⟨"Rows", .record false, "array", "app", "array", none, [], []⟩]

/-- The parameter of rows of that class. -/
def rowsParameter : SimpleParameter :=
  ⟨some "rows", .null, true, "array", none, .null, some ⟨"string", none, none, none⟩, some "multi"⟩

/-- What has items need not be a container: the name of a class is taken for that of arrays. -/
theorem items_of_arrayClass :
    ∃ op, (readingUser (.leaf ⟨.str "rows", .declared "Rows", .plain .null, .null⟩)).operation
        arrayClass .standard "/users/{id}" = .ok op ∧
      .simple .query rowsParameter ∈ op.parameters ∧ rowsParameter.HasRow ∧
      (Ty.declared "Rows").isContainer = false ∧
      (Ty.declared "Rows").isModel arrayClass = true := by
  have hps : ((readingUser (.leaf ⟨.str "rows", .declared "Rows", .plain .null, .null⟩)).operation
      arrayClass .standard "/users/{id}").map (·.parameters) =
      .ok [.simple .path ⟨some "id", .null, true, "integer", some "int64", .null, none, none⟩,
        .simple .query rowsParameter,
        .simple .header ⟨some "Token", .null, true, "string", none, .null, none, none⟩] := by
    cbv
  obtain ⟨op, hop, hparameters⟩ := exists_of_map_ok hps
  refine ⟨op, hop, ?_, .inl rfl, rfl, rfl⟩
  rw [hparameters]
  exact .tail _ (.head _)

end Action

end RouteAtlas
