import Mathlib
import RouteAtlas.Proofs.Coverage

/-!
Gathering models is a depth-first search. The stack of types that are still to be looked at does
what a recursion over parts and fields would do, in the same order, and a model that is known stands
in the way: what is reached through it alone is not found.
-/

namespace RouteAtlas

variable {classes : Registry}

/-- The types of the fields that a class is documented with. -/
def ClassDecl.fieldTypes (classes : Registry) (d : ClassDecl) : List Ty :=
  match d.documented classes with
  | .ok fields => fields.map (·.2)
  | .error _ => []

namespace Ty

/-- A type is documented by another one: an optional type by what it wraps, any other union by its
members, a container by the first type it names, a mapping by the type of its values. -/
inductive Part (rule : UnionRule) : Ty → Ty → Prop
  | wrapped {t u : Ty} : t.isOptional = true → t.unwrap rule = .ok u → Part rule t u
  | member {t m : Ty} : t.isOptional = false → 1 < t.members.length → m ∈ t.members →
      Part rule t m
  | element {t : Ty} : t.isContainer = true → Part rule t t.element
  | value {t : Ty} : t.isMapping = true → Part rule t t.value

/-- The parts of a type in order. -/
def parts (rule : UnionRule) (t : Ty) : List Ty :=
  if t.isOptional then
    match t.unwrap rule with
    | .ok u => [u]
    | .error _ => []
  else if 1 < t.members.length then t.members
  else if t.isContainer then [t.element]
  else if t.isMapping then [t.value]
  else []

theorem sizes_members_lt {t : Ty} (h : 1 < t.members.length) : sizes t.members < t.size := by
  have hc := size_core_le t
  unfold members at h ⊢
  split at h <;> simp_all [size] <;> omega

theorem sizes_parts_lt (rule : UnionRule) (t : Ty) : sizes (t.parts rule) < t.size := by
  unfold parts
  split
  next ho =>
    split
    next u hu => simpa [sizes] using size_unwrap_lt ho hu
    next => exact size_pos t
  next =>
    split
    next hl => exact sizes_members_lt hl
    next =>
      split
      next hc => simpa [sizes] using size_element_lt hc
      next =>
        split
        next hm => simpa [sizes] using size_value_lt hm
        next => exact size_pos t

end Ty

/-- How many classes have an identity that has not been seen. -/
def Registry.fresh (classes : Registry) (seen : List String) : Nat :=
  classes.decls.countP fun d => d.identity ∉ seen

theorem Registry.fresh_append_le (seen more : List String) :
    classes.fresh (seen ++ more) ≤ classes.fresh seen :=
  List.countP_mono_left fun d _ h => by simp_all

theorem Registry.fresh_append_lt {d : ClassDecl} {seen : List String} (hd : d ∈ classes.decls)
    (hn : d.identity ∉ seen) : classes.fresh (seen ++ [d.identity]) < classes.fresh seen := by
  obtain ⟨pre, post, hdecls⟩ := List.append_of_mem hd
  have hpre : Registry.fresh pre _ ≤ _ := fresh_append_le seen [d.identity]
  have hpost : Registry.fresh post _ ≤ _ := fresh_append_le seen [d.identity]
  simp only [fresh] at hpre hpost ⊢
  rw [hdecls, List.countP_append, List.countP_append, List.countP_cons_of_neg (by simp),
    List.countP_cons_of_pos (by simpa using hn)]
  omega

theorem Ty.mem_of_model? {t : Ty} {d : ClassDecl} (h : t.model? classes = some d) :
    d ∈ classes.decls := by
  obtain ⟨-, k, -, hk⟩ := exists_of_model? h
  exact Registry.mem_of_find? hk

-- What is left of a search goes down: there are fewer classes to be met, or as many and less to
-- look at. The two lemmas are about the parts of a type and about the types behind it.
theorem Registry.lex_parts (seen : List String) (t : Ty) (rest : List Ty) :
    Prod.Lex (· < ·) (· < ·) (classes.fresh seen, Ty.sizes (t.parts classes.unions))
      (classes.fresh seen, Ty.sizes (t :: rest)) := by
  apply Prod.Lex.right
  have hlt := Ty.sizes_parts_lt classes.unions t
  simp only [Ty.sizes]
  omega

theorem Registry.lex_rest (seen more : List String) (t : Ty) (rest : List Ty) :
    Prod.Lex (· < ·) (· < ·) (classes.fresh (seen ++ more), Ty.sizes rest)
      (classes.fresh seen, Ty.sizes (t :: rest)) := by
  have hle : classes.fresh (seen ++ more) ≤ classes.fresh seen :=
    Registry.fresh_append_le seen more
  have hpos := Ty.size_pos t
  rcases Nat.lt_or_eq_of_le hle with hlt | heq
  · exact Prod.Lex.left _ _ hlt
  · rw [heq]
    apply Prod.Lex.right
    simp only [Ty.sizes]
    omega

/-- The classes that a search over types meets which goes down into each of them before it looks at
the next one. A class comes before those that its fields lead to, and one that has been seen is
passed over with all its fields. -/
def preorder (classes : Registry) (ts : List Ty) (seen : List String) : List ClassDecl :=
  match ts with
  | [] => []
  | t :: rest =>
    let met := match _h : t.model? classes with
      | none => preorder classes (t.parts classes.unions) seen
      | some d =>
        if d.identity ∈ seen then []
        else d :: preorder classes (d.fieldTypes classes) (seen ++ [d.identity])
    met ++ preorder classes rest (seen ++ met.map ClassDecl.identity)
termination_by (classes.fresh seen, Ty.sizes ts)
decreasing_by
  · exact Registry.lex_parts seen t rest
  · rename_i hn
    exact Prod.Lex.left _ _ (Registry.fresh_append_lt (Ty.mem_of_model? _h) hn)
  · exact Registry.lex_rest seen _ t rest

section

variable {t : Ty} {ts rest : List Ty} {d : ClassDecl} {seen : List String}

theorem preorder_nil (seen : List String) : preorder classes [] seen = [] := by
  rw [preorder]

theorem preorder_cons_of_none (h : t.model? classes = none) :
    preorder classes (t :: rest) seen = preorder classes (t.parts classes.unions) seen ++
      preorder classes rest
        (seen ++ (preorder classes (t.parts classes.unions) seen).map ClassDecl.identity) := by
  rw [preorder]
  split
  next => rfl
  next hd => cases h.symm.trans hd

theorem preorder_cons_of_seen (h : t.model? classes = some d) (hd : d.identity ∈ seen) :
    preorder classes (t :: rest) seen = preorder classes rest seen := by
  rw [preorder]
  split
  next hn => cases h.symm.trans hn
  next e he =>
    cases h.symm.trans he
    simp [hd]

theorem preorder_append (ts us : List Ty) (seen : List String) :
    preorder classes (ts ++ us) seen = preorder classes ts seen ++
      preorder classes us (seen ++ (preorder classes ts seen).map ClassDecl.identity) := by
  induction ts generalizing seen with
  | nil => simp [preorder_nil]
  | cons t ts ih =>
    rw [List.cons_append, preorder]
    conv_rhs => rw [preorder]
    simp only [ih, List.append_assoc, List.map_append]

theorem preorder_cons_of_new (h : t.model? classes = some d) (hd : d.identity ∉ seen) :
    preorder classes (t :: rest) seen =
      d :: preorder classes (d.fieldTypes classes ++ rest) (seen ++ [d.identity]) := by
  rw [preorder, preorder_append]
  split
  next hn => cases h.symm.trans hn
  next e he =>
    cases h.symm.trans he
    simp [hd]

end

namespace Ty

/-- One type leads to another through parts, and through the fields of models of which none has one
of the barred identities. -/
inductive Leads (classes : Registry) (barred : List String) : Ty → Ty → Prop
  | here (t : Ty) : Leads classes barred t t
  | part {t u v : Ty} : t.Part classes.unions u → Leads classes barred u v →
      Leads classes barred t v
  | field {t u v : Ty} {d : ClassDecl} : t.model? classes = some d → d.identity ∉ barred →
      u ∈ d.fieldTypes classes → Leads classes barred u v → Leads classes barred t v

/-- A type reaches a model where all models on the way, and itself, have other identities than the
barred ones. -/
def Reaches (classes : Registry) (barred : List String) (t : Ty) (d : ClassDecl) : Prop :=
  ∃ u, t.Leads classes barred u ∧ u.model? classes = some d ∧ d.identity ∉ barred

section

variable {t u : Ty} {d : ClassDecl} {barred more : List String}

theorem Reaches.of_part (h : t.Part classes.unions u) (hu : u.Reaches classes barred d) :
    t.Reaches classes barred d := by
  obtain ⟨v, hv, hd⟩ := hu
  exact ⟨v, .part h hv, hd⟩

theorem Leads.of_subset (hsub : barred ⊆ more) (h : t.Leads classes more u) :
    t.Leads classes barred u := by
  induction h with
  | here t => exact .here t
  | part hp _ ih => exact .part hp ih
  | field hm hb hu _ ih => exact .field hm (fun hd => hb (hsub hd)) hu ih

theorem Reaches.of_subset (hsub : barred ⊆ more) (h : t.Reaches classes more d) :
    t.Reaches classes barred d := by
  obtain ⟨u, hu, hm, hd⟩ := h
  exact ⟨u, hu.of_subset hsub, hm, fun hb => hd (hsub hb)⟩

theorem Reaches.of_append (h : t.Reaches classes (barred ++ more) d) :
    t.Reaches classes barred d := h.of_subset (List.subset_append_left barred more)

theorem part_of_mem_parts (h : u ∈ t.parts classes.unions) : t.Part classes.unions u := by
  unfold parts at h
  split at h
  next ho =>
    split at h
    next v hv => exact List.mem_singleton.mp h ▸ .wrapped ho hv
    next => cases h
  next ho =>
    split at h
    next hl => exact .member (by simpa using ho) hl h
    next =>
      split at h
      next hc => exact List.mem_singleton.mp h ▸ .element hc
      next =>
        split at h
        next hm => exact List.mem_singleton.mp h ▸ .value hm
        next => cases h

/-- A container or a mapping is no union. -/
theorem not_union_of_shape {s : Shape} (h : t.shape? = some s) :
    t.isOptional = false ∧ t.members.length = 1 := by
  unfold shape? at h
  unfold isOptional members
  cases hc : t.core <;> simp [hc] at h ⊢

theorem mem_parts_of_part (h : t.Part classes.unions u) : u ∈ t.parts classes.unions := by
  unfold parts
  cases h with
  | wrapped ho hu => simp [ho, hu]
  | member ho hl hm => simpa [ho, hl] using hm
  | element hc =>
    have hshape : t.shape? = some .sequence ∨ t.shape? = some .unique := by
      simpa [isContainer] using hc
    obtain ⟨ho, hl⟩ : t.isOptional = false ∧ t.members.length = 1 :=
      hshape.elim not_union_of_shape not_union_of_shape
    simp [ho, hl, hc]
  | value hm =>
    have hshape : t.shape? = some .mapping := by simpa [isMapping] using hm
    obtain ⟨ho, hl⟩ := not_union_of_shape hshape
    have hc : t.isContainer = false := by simp [isContainer, hshape]
    simp [ho, hl, hc, hm]

/-- A model has no parts. -/
theorem parts_of_model? (h : t.model? classes = some d) : t.parts classes.unions = [] := by
  obtain ⟨-, k, hcore, -⟩ := exists_of_model? h
  simp [parts, isOptional, members, isContainer, isMapping, shape?, hcore]

/-- What is looked at in the place of a type are its parts. -/
theorem parts_of_demand {ts : List Ty} (h : t.demand classes .standard = .ok (.types ts)) :
    t.model? classes = none ∧ t.parts classes.unions = ts := by
  constructor
  · cases hm : t.model? classes with
    | none => rfl
    | some d => cases h.symm.trans (demand_of_model? hm)
  · rw [demand_standard] at h
    unfold parts
    split at h
    next ho =>
      obtain ⟨u, hu, hts⟩ := exists_of_map_ok h
      cases hts
      simp [ho, hu]
    next ho =>
      rw [if_neg ho]
      split at h
      next hl =>
        cases h
        exact if_pos hl
      next hl =>
        rw [if_neg hl]
        split at h
        next hc =>
          cases h
          exact if_pos hc
        next hc =>
          rw [if_neg hc]
          split at h
          next hm =>
            cases h
            exact if_pos hm
          next hm =>
            rw [if_neg hm]
            split at h
            next => cases h
            next =>
              cases h
              rfl

/-- Where the members of a union are compared, every type can be unwrapped. -/
theorem exists_unwrap_of_byComparing (t : Ty) : ∃ u, t.unwrap .byComparing = .ok u := by
  unfold unwrap
  split
  · split
    · exact ⟨_, rfl⟩
    · exact ⟨_, rfl⟩
  · exact ⟨_, rfl⟩

/-- A type that is refused is an optional one that cannot be unwrapped. -/
theorem unwrap_of_demand_error {e : Fault} (h : t.demand classes .standard = .error e) :
    t.isOptional = true ∧ t.unwrap classes.unions = .error e := by
  rw [demand_standard] at h
  split at h
  next ho =>
    refine ⟨ho, ?_⟩
    cases hu : t.unwrap classes.unions with
    | error f =>
      rw [hu] at h
      exact congrArg _ (Except.error.inj h)
    | ok u =>
      rw [hu] at h
      cases h
  next =>
    repeat' split at h
    all_goals cases h

end

/-- A type can be documented behind the barred models if every optional type that it leads to can be
unwrapped, and every model that it reaches has its fields and its schema. -/
structure Documentable (classes : Registry) (barred : List String) (t : Ty) : Prop where
  unwraps : ∀ u, t.Leads classes barred u → u.isOptional = true →
    ∃ v, u.unwrap classes.unions = .ok v
  describes : ∀ d, t.Reaches classes barred d → ∃ fields s,
    d.documented classes = .ok fields ∧ d.schema classes .standard fields = .ok s

theorem Documentable.of_part {t u : Ty} {barred : List String} (h : t.Documentable classes barred)
    (hu : t.Part classes.unions u) : u.Documentable classes barred :=
  ⟨fun v hv => h.unwraps v (.part hu hv), fun d hd => h.describes d (.of_part hu hd)⟩

theorem Documentable.of_field {t u : Ty} {d : ClassDecl} {barred : List String}
    (h : t.Documentable classes barred) (hm : t.model? classes = some d)
    (hd : d.identity ∉ barred) (hu : u ∈ d.fieldTypes classes) : u.Documentable classes barred :=
  ⟨fun v hv => h.unwraps v (.field hm hd hu hv),
    fun e ⟨v, hv, he⟩ => h.describes e ⟨v, .field hm hd hu hv, he⟩⟩

end Ty

/-- What a search meets has an identity of its own that had not been seen, and is reached by one of
the types. -/
theorem preorder_spec (classes : Registry) (ts : List Ty) (seen : List String) :
    ((preorder classes ts seen).map ClassDecl.identity).Nodup ∧
      ∀ d ∈ preorder classes ts seen, d.identity ∉ seen ∧ ∃ t ∈ ts, t.Reaches classes seen d := by
  fun_induction preorder classes ts seen with
  | case1 seen => exact ⟨List.nodup_nil, by simp⟩
  | case2 seen t rest met ihparts ihfields ihrest =>
    obtain ⟨hrest, hrests⟩ := ihrest
    have hmet : (met.map ClassDecl.identity).Nodup ∧
        ∀ d ∈ met, d.identity ∉ seen ∧ t.Reaches classes seen d := by
      simp only [met]
      split
      next =>
        refine ⟨ihparts.1, fun d hd => ?_⟩
        obtain ⟨hn, u, hu, hud⟩ := ihparts.2 d hd
        exact ⟨hn, .of_part (Ty.part_of_mem_parts hu) hud⟩
      next d hd =>
        split
        next => exact ⟨List.nodup_nil, by simp⟩
        next hn =>
          obtain ⟨hfields, hreached⟩ := ihfields d hd hn
          refine ⟨?_, List.forall_mem_cons.mpr ⟨⟨hn, t, .here t, hd, hn⟩, fun e he => ?_⟩⟩
          · rw [List.map_cons, List.nodup_cons]
            refine ⟨fun hmem => ?_, hfields⟩
            obtain ⟨e, he, hed⟩ := List.mem_map.mp hmem
            exact (hreached e he).1 (by simp [hed])
          · obtain ⟨hen, u, hu, hue⟩ := hreached e he
            obtain ⟨v, hv, hve⟩ := hue.of_append
            exact ⟨fun hs => hen (List.mem_append_left _ hs), v, .field hd hn hu hv, hve⟩
    refine ⟨?_, fun d hd => ?_⟩
    · rw [List.map_append, List.nodup_append]
      refine ⟨hmet.1, hrest, fun i hi j hj hij => ?_⟩
      obtain ⟨d, hd, rfl⟩ := List.mem_map.mp hj
      exact (hrests d hd).1 (List.mem_append_right _ (hij ▸ hi))
    · rcases List.mem_append.mp hd with hd | hd
      · exact ⟨(hmet.2 d hd).1, t, List.mem_cons_self, (hmet.2 d hd).2⟩
      · obtain ⟨hn, u, hu, hud⟩ := hrests d hd
        exact ⟨fun hs => hn (List.mem_append_left _ hs), u, List.mem_cons_of_mem _ hu,
          hud.of_append⟩

theorem ClassDecl.fieldTypes_of_documented {d : ClassDecl} {fields : List Field}
    (h : d.documented classes = .ok fields) : d.fieldTypes classes = fields.map (·.2) := by
  simp [fieldTypes, h]

/-- The walk over a stack of types brings a model for each class that the search meets, in order. -/
theorem exists_made_of_collectStack {stack : List Ty} {known ms : Models}
    (h : collectStack classes .standard stack known = .ok ms) :
    ∃ made, ms = known ++ made ∧
      List.Forall₂ (fun d m => ∃ fields, IsModelOf classes d fields m)
        (preorder classes stack (known.map (·.1))) made := by
  fun_induction collectStack classes .standard stack known with
  | case1 known =>
    cases Except.ok.inj h
    exact ⟨[], by simp, by rw [preorder_nil]; exact .nil⟩
  | case2 => cases h
  | case3 known t rest ts hd _ ih =>
    obtain ⟨hm, hparts⟩ := Ty.parts_of_demand hd
    obtain ⟨made, rfl, hmade⟩ := ih h
    refine ⟨made, rfl, ?_⟩
    rw [preorder_cons_of_none hm, hparts, ← preorder_append]
    exact hmade
  | case4 known t rest ss hd ih => exact absurd hd (Ty.demand_ne_models t ss)
  | case5 known t rest d hd hn ih =>
    obtain ⟨made, rfl, hmade⟩ := ih h
    refine ⟨made, rfl, ?_⟩
    rw [preorder_cons_of_seen (Ty.model?_of_demand hd)]
    · exact hmade
    · simpa [Models.has] using hn
  | case6 => cases h
  | case7 => cases h
  | case8 known t rest d hd hn fields hf s hs _ ih =>
    have hmodel := Ty.model?_of_demand hd
    obtain ⟨hm, k, -, hk⟩ := Ty.exists_of_model? hmodel
    obtain ⟨made, rfl, hmade⟩ := ih h
    refine ⟨(d.identity, s) :: made, by simp, ?_⟩
    rw [preorder_cons_of_new hmodel (by simpa [Models.has] using hn),
      ClassDecl.fieldTypes_of_documented hf]
    refine .cons ⟨fields, ⟨k, hk⟩, hm, rfl, hf, hs⟩ ?_
    simpa using hmade

/-- Each of these models but the known ones is that of a class, and they cover its fields. -/
def Models.SettledBehind (classes : Registry) (ms known : Models) : Prop :=
  ∀ m ∈ ms, m ∈ known ∨
    ∃ d fields, IsModelOf classes d fields m ∧ ∀ f ∈ fields, Covered classes ms f.2

/-- A class that is not among the known ones has a new model where its type is covered. -/
theorem Models.SettledBehind.exists_model (hc : classes.Identifies) {known ms : Models} {t : Ty}
    {d : ClassDecl} (hms : ms.SettledBehind classes known) (ht : Covered classes ms t)
    (hm : t.model? classes = some d) (hd : d.identity ∉ known.map (·.1)) :
    ∃ m ∈ ms, m ∉ known ∧ ∃ fields, IsModelOf classes d fields m ∧
      ∀ f ∈ fields, Covered classes ms f.2 := by
  obtain ⟨m, hmem, hmd⟩ := Models.has_iff.mp (ht.has_of_asks (.model (Ty.demand_of_model? hm)))
  have hnew : m ∉ known := fun hk => hd (hmd ▸ List.mem_map_of_mem hk)
  obtain ⟨e, fields, he, hcov⟩ := (hms m hmem).resolve_left hnew
  obtain ⟨-, k, -, hk⟩ := Ty.exists_of_model? hm
  obtain ⟨l, hl⟩ := he.declared
  obtain rfl : e = d := hc l k e d hl hk (by rw [← he.identity, hmd])
  exact ⟨m, hmem, hnew, fields, he, hcov⟩

/-- What a covered type leads to is covered. -/
theorem Models.SettledBehind.covered_of_leads (hc : classes.Identifies) {known ms : Models}
    {t u : Ty} (hms : ms.SettledBehind classes known) (ht : Covered classes ms t)
    (h : t.Leads classes (known.map (·.1)) u) : Covered classes ms u := by
  induction h with
  | here t => exact ht
  | @part t u v hp _ ih =>
    refine ih ?_
    have hmem := Ty.mem_parts_of_part hp
    cases ht with
    | parts hd hcov => exact hcov u ((Ty.parts_of_demand hd).2 ▸ hmem)
    | model hd _ =>
      rw [Ty.parts_of_model? (Ty.model?_of_demand hd)] at hmem
      cases hmem
  | @field t u v d hm hb hu _ ih =>
    refine ih ?_
    obtain ⟨m, -, -, fields, hd, hcov⟩ := hms.exists_model hc ht hm hb
    rw [ClassDecl.fieldTypes_of_documented hd.documented] at hu
    obtain ⟨f, hf, rfl⟩ := List.mem_map.mp hu
    exact hcov f hf

theorem Covered.unwraps {ms : Models} {t : Ty} (h : Covered classes ms t)
    (ho : t.isOptional = true) : ∃ u, t.unwrap classes.unions = .ok u := by
  have hd : t.demand classes .standard =
      (t.unwrap classes.unions).map fun u => .types [u] := by
    rw [Ty.demand_standard, if_pos ho]
  cases hu : t.unwrap classes.unions with
  | ok u => exact ⟨u, rfl⟩
  | error e =>
    rw [hu] at hd
    cases h with
    | parts hd' _ => cases hd.symm.trans hd'
    | model hd' _ => cases hd.symm.trans hd'

/-- The walk goes through where all that is on the stack can be documented. -/
theorem exists_collectStack_of_documentable {barred : List String} {stack : List Ty}
    {known : Models} (hb : ∀ i ∈ barred, known.has i = true)
    (h : ∀ t ∈ stack, t.Documentable classes barred) :
    ∃ ms, collectStack classes .standard stack known = .ok ms := by
  fun_induction collectStack classes .standard stack known with
  | case1 known => exact ⟨known, rfl⟩
  | case2 known t rest e hd =>
    obtain ⟨ho, hu⟩ := Ty.unwrap_of_demand_error hd
    obtain ⟨v, hv⟩ := (h t List.mem_cons_self).unwraps t (.here t) ho
    cases hu.symm.trans hv
  | case3 known t rest ts hd _ ih =>
    obtain ⟨ht, hrest⟩ := List.forall_mem_cons.mp h
    refine ih hb (List.forall_mem_append.mpr ⟨fun u hu => ?_, hrest⟩)
    rw [← (Ty.parts_of_demand hd).2] at hu
    exact ht.of_part (Ty.part_of_mem_parts hu)
  | case4 known t rest ss hd ih => exact absurd hd (Ty.demand_ne_models t ss)
  | case5 known t rest d hd hn ih => exact ih hb (List.forall_mem_cons.mp h).2
  | case6 known t rest d hd hn e hf =>
    have hreach : t.Reaches classes barred d :=
      ⟨t, .here t, Ty.model?_of_demand hd, fun hi => hn (hb _ hi)⟩
    obtain ⟨fields, s, hdoc, -⟩ := (h t List.mem_cons_self).describes d hreach
    cases hf.symm.trans hdoc
  | case7 known t rest d hd hn fields hf e hs =>
    have hreach : t.Reaches classes barred d :=
      ⟨t, .here t, Ty.model?_of_demand hd, fun hi => hn (hb _ hi)⟩
    obtain ⟨fields', s, hdoc, hschema⟩ := (h t List.mem_cons_self).describes d hreach
    cases hf.symm.trans hdoc
    cases hs.symm.trans hschema
  | case8 known t rest d hd hn fields hf s hs _ ih =>
    obtain ⟨ht, hrest⟩ := List.forall_mem_cons.mp h
    refine ih (fun i hi => ?_) (List.forall_mem_append.mpr ⟨fun u hu => ?_, hrest⟩)
    · rw [Models.has_append, hb i hi, Bool.true_or]
    · rw [← ClassDecl.fieldTypes_of_documented hf] at hu
      exact ht.of_field (Ty.model?_of_demand hd) (fun hi => hn (hb _ hi)) hu

/-- Books with chapters, which refer to the next one and to their book. -/
def books : Registry where
  decls := [
    ⟨"Book", .record false, "Book", "app", "Book", none,
      [("chapters", .applied ⟨.builtin, "list"⟩ [.declared "Chapter"]),
        ("author", .declared "Person")], []⟩,
    ⟨"Chapter", .record false, "Chapter", "app", "Chapter", none,
      [("next", .union [.declared "Chapter", .nothing]), ("book", .declared "Book"),
        ("sources", .applied ⟨.builtin, "dict"⟩ [.scalar .str, .declared "Source"])], []⟩,
    ⟨"Person", .record false, "Person", "app", "Person", none,
      [("home", .declared "Place")], []⟩,
    ⟨"Place", .record false, "Place", "app", "Place", none, [("name", .scalar .str)], []⟩,
    ⟨"Source", .record false, "Source", "app", "Source", none, [("found", .declared "Place")], []⟩]

/-- The schema of a person that is known already. -/
def knownPerson : Models :=
  [("app.Person", ⟨some "app.Person", "Person", "object", none, [], none⟩)]

/-- Albums with a row of these colours on each. -/
def albums (rule : UnionRule) (colours : Ty) : Registry where
  decls := [
    ⟨"Colour", .enumeration .plain [("RED", .str "red")], "Colour", "app", "Colour", none, [], []⟩,
    ⟨"Album", .validated, "Album", "app", "Album", none,
      [("colours", .applied ⟨.builtin, "list"⟩ [colours])], []⟩]
  unions := rule

/-- A colour with a note on it. -/
def notedColour : Ty := .annotated (.declared "Colour") [.str "of the cover"]

/-- Books in a list, with a note that cannot be a key. -/
def notedBooks : Ty :=
  .applied ⟨.builtin, "list"⟩ [.annotated (.declared "Book") [.list [.str "newest first"]]]

-- Where there may be nothing as well, a union is made of what is left.
example :
    collectModels books .standard (.bars [notedBooks, .scalar .str, .nothing]) [] =
        .error (.unhashable "list") ∧
      (collectModels { books with unions := .byComparing } .standard
        (.bars [notedBooks, .scalar .str, .nothing]) []).map (·.map (·.1)) =
          .ok ["app.Book", "app.Chapter", "app.Source", "app.Place", "app.Person"] :=
  ⟨by cbv, by cbv⟩

end RouteAtlas
