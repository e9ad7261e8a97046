import RouteAtlas.Proofs.Coverage
import RouteAtlas.Proofs.NamedEntries

/-!
Actions whose models do not fight over names. What each of them brings along by itself is among the
models gathered for all of them at once, and there a short name has one model.
-/

namespace RouteAtlas

variable {classes : Registry}

/-- The identity is among those that claim the name. -/
def Claims.Holds (cs : Claims) (name identity : String) : Prop :=
  ∃ ids, cs.lookup name = some ids ∧ identity ∈ ids

namespace Claims

theorem holds_add (cs : Claims) (n i : String) : (add n i cs).Holds n i := by
  induction cs with
  | nil => exact ⟨[i], by simp [add], List.mem_singleton_self i⟩
  | cons c cs ih =>
    obtain ⟨m, ids⟩ := c
    unfold add
    split
    next h =>
      subst h
      refine ⟨if ids.contains i then ids else ids ++ [i], List.lookup_cons_self, ?_⟩
      split
      next hi => exact List.contains_iff_mem.mp hi
      next => simp
    next h =>
      obtain ⟨ids', hl, hi⟩ := ih
      exact ⟨ids', by rw [lookup_cons_of_ne _ _ (Ne.symm h), hl], hi⟩

theorem Holds.add {cs : Claims} {m j : String} (h : cs.Holds m j) (n i : String) :
    (Claims.add n i cs).Holds m j := by
  obtain ⟨ids, hl, hj⟩ := h
  induction cs with
  | nil => cases hl
  | cons c cs ih =>
    obtain ⟨k, ids'⟩ := c
    unfold Claims.add
    by_cases hm : m = k
    · subst hm
      have hids : ids' = ids := by simpa using hl
      subst hids
      split
      next =>
        refine ⟨if ids'.contains i then ids' else ids' ++ [i], List.lookup_cons_self, ?_⟩
        split
        next => exact hj
        next => exact List.mem_append_left _ hj
      next => exact ⟨ids', by simp, hj⟩
    · rw [lookup_cons_of_ne _ _ hm] at hl
      split
      next => exact ⟨ids, by rw [lookup_cons_of_ne _ _ hm, hl], hj⟩
      next =>
        obtain ⟨ids'', hl', hj'⟩ := ih hl
        exact ⟨ids'', by rw [lookup_cons_of_ne _ _ hm, hl'], hj'⟩

theorem names_add (cs : Claims) (n i : String) :
    (add n i cs).map (·.1) = addName (cs.map (·.1)) n := by
  induction cs with
  | nil => rfl
  | cons c cs ih =>
    obtain ⟨m, ids⟩ := c
    unfold add
    split
    next h => subst h; simp [addName]
    next h =>
      simp only [List.map_cons, ih, addName, List.mem_cons, Ne.symm h, false_or]
      split <;> rfl

theorem mem_add {cs : Claims} {n i : String} {c : String × List String} (h : c ∈ add n i cs) :
    c ∈ cs ∨ c = (n, [i]) ∨
      ∃ ids, (n, ids) ∈ cs ∧ c = (n, if ids.contains i then ids else ids ++ [i]) := by
  induction cs with
  | nil => exact Or.inr (Or.inl (List.mem_singleton.mp h))
  | cons d cs ih =>
    obtain ⟨m, ids⟩ := d
    unfold add at h
    split at h
    next hm =>
      subst hm
      rcases List.mem_cons.mp h with rfl | h
      · exact Or.inr (Or.inr ⟨ids, List.mem_cons_self, rfl⟩)
      · exact Or.inl (List.mem_cons_of_mem _ h)
    next =>
      rcases List.mem_cons.mp h with rfl | h
      · exact Or.inl List.mem_cons_self
      · rcases ih h with h | h | ⟨ids', hids, h⟩
        · exact Or.inl (List.mem_cons_of_mem _ h)
        · exact Or.inr (Or.inl h)
        · exact Or.inr (Or.inr ⟨ids', List.mem_cons_of_mem _ hids, h⟩)

/-- What claims of models are: one for each name, with different identities of models that have
it. -/
structure Justified (ss : List Schema) (cs : Claims) : Prop where
  names : (cs.map (·.1)).Nodup
  different : ∀ c ∈ cs, c.2.Nodup
  made : ∀ c ∈ cs, ∀ i ∈ c.2, ∃ s ∈ ss, s.name = c.1 ∧ s.id = some i

theorem Justified.add {ss : List Schema} {cs : Claims} (h : Justified ss cs) {s : Schema}
    {i : String} (hs : s ∈ ss) (hi : s.id = some i) : Justified ss (cs.add s.name i) := by
  refine ⟨?_, fun c hc => ?_, fun c hc j hj => ?_⟩
  · rw [names_add]
    exact nodup_addName _ h.names
  · rcases mem_add hc with hc | rfl | ⟨ids, hids, rfl⟩
    · exact h.different c hc
    · simp
    · have hn := h.different _ hids
      split
      next => exact hn
      next hnew =>
        refine List.nodup_append.mpr ⟨hn, by simp, fun a ha b hb hab => hnew ?_⟩
        rw [List.mem_singleton.mp hb] at hab
        exact List.contains_iff_mem.mpr (hab ▸ ha)
  · rcases mem_add hc with hc | rfl | ⟨ids, hids, rfl⟩
    · exact h.made c hc j hj
    · rw [List.mem_singleton.mp hj]
      exact ⟨s, hs, rfl, hi⟩
    · have hj' : j ∈ ids ∨ j = i := by
        split at hj
        next => exact Or.inl hj
        next => exact (List.mem_append.mp hj).imp_right List.mem_singleton.mp
      rcases hj' with hj | rfl
      · exact h.made _ hids j hj
      · exact ⟨s, hs, rfl, hi⟩

end Claims

theorem holds_foldl {f : Claims → Schema → Claims} {s : Schema} {n i : String}
    (hadd : ∀ cs, (f cs s).Holds n i) (hkeep : ∀ cs t, cs.Holds n i → (f cs t).Holds n i)
    {ss : List Schema} {cs : Claims} (h : s ∈ ss ∨ cs.Holds n i) : (ss.foldl f cs).Holds n i := by
  induction ss generalizing cs with
  | nil => exact h.resolve_left (by simp)
  | cons t ss ih =>
    rw [List.foldl_cons]
    rcases h with h | h
    · rcases List.mem_cons.mp h with rfl | h
      · exact ih (Or.inr (hadd cs))
      · exact ih (Or.inl h)
    · exact ih (Or.inr (hkeep cs t h))

theorem holds_claims {ss : List Schema} {s : Schema} {i : String} (hs : s ∈ ss)
    (hi : s.id = some i) : (claims ss).Holds s.name i := by
  unfold claims
  refine holds_foldl (fun cs => ?_) (fun cs t h => ?_) (Or.inl hs)
  · rw [hi]
    exact Claims.holds_add cs s.name i
  · cases t.id with
    | none => exact h
    | some j => exact h.add t.name j

theorem justified_claims (ss : List Schema) : Claims.Justified ss (claims ss) := by
  unfold claims
  refine List.foldlRecOn ss _ ⟨List.nodup_nil, by simp, by simp⟩ fun cs h s hs => ?_
  cases hi : s.id with
  | none => exact h
  | some i => exact h.add hs hi

theorem mem_nameCollisions {ss : List Schema} {c : String × List String} :
    c ∈ nameCollisions ss ↔ c ∈ claims ss ∧ 1 < c.2.length := by
  rw [nameCollisions, List.mem_filter, decide_eq_true_iff]

/-- An identity is listed with a name that another has too. -/
theorem holds_nameCollisions {ss : List Schema} {s t : Schema} {i j : String} (hs : s ∈ ss)
    (ht : t ∈ ss) (hi : s.id = some i) (hj : t.id = some j) (hst : s.name = t.name) (hij : i ≠ j) :
    (nameCollisions ss).Holds s.name i := by
  obtain ⟨ids, hl, hmem⟩ := holds_claims hs hi
  obtain ⟨ids', hl', hmem'⟩ := holds_claims ht hj
  rw [← hst, hl] at hl'
  cases hl'
  have hlen : 1 < ids.length := by
    match ids with
    | [] => cases hmem
    | [k] =>
      exact absurd ((List.mem_singleton.mp hmem).trans (List.mem_singleton.mp hmem').symm) hij
    | _ :: _ :: _ => simp
  have hn : ((nameCollisions ss).map (·.1)).Nodup :=
    (justified_claims ss).names.sublist (List.filter_sublist.map _)
  exact ⟨ids, lookup_of_mem hn (mem_nameCollisions.mpr ⟨mem_of_lookup hl, hlen⟩), hmem⟩

/-- Where there are collisions, two models of one name have different identities. -/
theorem exists_of_nameCollisions {ss : List Schema} (h : nameCollisions ss ≠ []) :
    ∃ s ∈ ss, ∃ t ∈ ss, ∃ i j, s.id = some i ∧ t.id = some j ∧ s.name = t.name ∧ i ≠ j := by
  obtain ⟨⟨n, ids⟩, hc⟩ := List.exists_mem_of_ne_nil _ h
  obtain ⟨hc, hlen⟩ := mem_nameCollisions.mp hc
  have hj := justified_claims ss
  match ids, hlen with
  | i :: j :: ids, _ =>
    have hij : i ≠ j := fun heq => by simpa [heq] using hj.different _ hc
    obtain ⟨s, hs, hsn, hi⟩ := hj.made _ hc i (by simp)
    obtain ⟨t, ht, htn, hj⟩ := hj.made _ hc j (by simp)
    exact ⟨s, hs, t, ht, i, j, hi, hj, hsn.trans htn.symm, hij⟩

/-- Without collisions, models of one name have one identity. -/
theorem id_eq_of_nameCollisions {ss : List Schema} (h : nameCollisions ss = []) {s t : Schema}
    {i j : String} (hs : s ∈ ss) (ht : t ∈ ss) (hi : s.id = some i) (hj : t.id = some j)
    (hst : s.name = t.name) : i = j := by
  refine Decidable.byContradiction fun hij => ?_
  obtain ⟨ids, hl, -⟩ := holds_nameCollisions hs ht hi hj hst hij
  rw [h] at hl
  cases hl

/-- Models that hold, with each of them, all that its fields ask for. -/
def Models.Settled (classes : Registry) (ms : Models) : Prop :=
  ∀ m ∈ ms, ∃ d fields, IsModelOf classes d fields m ∧ ∀ f ∈ fields, Covered classes ms f.2

/-- A class that a covered type asks for has its model among settled ones. -/
theorem Models.Settled.exists_model (hc : classes.Identifies) {all : Models}
    (hall : all.Settled classes) {t : Ty} {d : ClassDecl} (ht : Covered classes all t)
    (hd : t.demand classes .standard = .ok (.model d)) :
    ∃ fields, ∃ m ∈ all, IsModelOf classes d fields m ∧ ∀ f ∈ fields, Covered classes all f.2 := by
  obtain ⟨m, hm, hmd⟩ := Models.has_iff.mp (ht.has_of_asks (.model hd))
  obtain ⟨e, fields, he, hcov⟩ := hall m hm
  obtain ⟨-, k, -, hk⟩ := Ty.exists_of_model? (Ty.model?_of_demand hd)
  obtain ⟨l, hl⟩ := he.declared
  obtain rfl : e = d := hc l k e d hl hk (by rw [← he.identity, hmd])
  exact ⟨fields, m, hm, he, hcov⟩

/-- A walk over types that settled models cover goes through, and finds none but these. -/
theorem exists_collectStack (hc : classes.Identifies) {all : Models} (hall : all.Settled classes)
    {stack : List Ty} {known : Models} (hstack : ∀ t ∈ stack, Covered classes all t)
    (hknown : ∀ m ∈ known, m ∈ all) :
    ∃ ms, collectStack classes .standard stack known = .ok ms ∧ ∀ m ∈ ms, m ∈ all := by
  fun_induction collectStack classes .standard stack known with
  | case1 known => exact ⟨known, rfl, hknown⟩
  | case2 known t rest e hd =>
    cases hstack t List.mem_cons_self with
    | parts hd' _ => cases hd.symm.trans hd'
    | model hd' _ => cases hd.symm.trans hd'
  | case3 known t rest ts hd _ ih =>
    obtain ⟨ht, hrest⟩ := List.forall_mem_cons.mp hstack
    refine ih (fun u hu => ?_) hknown
    rcases List.mem_append.mp hu with hu | hu
    · exact ht.of_types hd u hu
    · exact hrest u hu
  | case4 known t rest ss hd ih => exact absurd hd (Ty.demand_ne_models t ss)
  | case5 known t rest d hd hn ih => exact ih (List.forall_mem_cons.mp hstack).2 hknown
  | case6 known t rest d hd hn e hf =>
    obtain ⟨fields, m, -, hm, -⟩ := hall.exists_model hc (hstack t List.mem_cons_self) hd
    cases hf.symm.trans hm.documented
  | case7 known t rest d hd hn fields hf e hs =>
    obtain ⟨fields', m, -, hm, -⟩ := hall.exists_model hc (hstack t List.mem_cons_self) hd
    cases hf.symm.trans hm.documented
    cases hs.symm.trans hm.schema
  | case8 known t rest d hd hn fields hf s hs _ ih =>
    obtain ⟨ht, hrest⟩ := List.forall_mem_cons.mp hstack
    -- The class has its model among all of them, which is the new one.
    obtain ⟨fields', m, hmall, hm, hcov⟩ := hall.exists_model hc ht hd
    cases hf.symm.trans hm.documented
    obtain rfl : (d.identity, s) = m :=
      Prod.ext hm.identity.symm (Except.ok.inj (hs.symm.trans hm.schema))
    refine ih (fun u hu => ?_) fun n hn => ?_
    · rcases List.mem_append.mp hu with hu | hu
      · obtain ⟨f, hf, rfl⟩ := List.mem_map.mp hu
        exact hcov f hf
      · exact hrest u hu
    · rcases List.mem_append.mp hn with hn | hn
      · exact hknown n hn
      · rwa [List.mem_singleton.mp hn]

/-- Steps that each go through and stay within some models do so one after the other. -/
theorem exists_foldlM_within {α : Type} {f : Models → α → Except Fault Models} {all : Models}
    {as : List α} (hf : ∀ a ∈ as, ∀ known : Models, (∀ m ∈ known, m ∈ all) →
      ∃ ms, f known a = .ok ms ∧ ∀ m ∈ ms, m ∈ all)
    {known : Models} (hknown : ∀ m ∈ known, m ∈ all) :
    ∃ ms, as.foldlM f known = .ok ms ∧ ∀ m ∈ ms, m ∈ all := by
  induction as generalizing known with
  | nil => exact ⟨known, rfl, hknown⟩
  | cons a as ih =>
    obtain ⟨ha, hf⟩ := List.forall_mem_cons.mp hf
    obtain ⟨ns, hn, hns⟩ := ha known hknown
    obtain ⟨ms, hm, hms⟩ := ih hf hns
    exact ⟨ms, by rw [List.foldlM_cons, hn]; exact hm, hms⟩

/-- An action whose types are covered finds its models, and none but these. -/
theorem exists_collect (hc : classes.Identifies) {all : Models} (hall : all.Settled classes)
    {a : Action} (ha : ∀ t ∈ a.modelTypes, Covered classes all t) {known : Models}
    (hknown : ∀ m ∈ known, m ∈ all) :
    ∃ ms, a.collect classes .standard known = .ok ms ∧ ∀ m ∈ ms, m ∈ all := by
  refine exists_foldlM_within (fun t ht ns hns => ?_) hknown
  exact exists_collectStack hc hall (by simpa using ha t ht) hns

/-- What an action brings along is among the models of all actions. -/
theorem mem_of_contribution (hc : classes.Identifies) {actions : List Action} {all : Models}
    (hall : collectActions classes .standard actions = .ok all) {a : Action} (ha : a ∈ actions)
    {c : Contribution} (h : a.contribution classes .standard = .ok c) :
    ∀ m ∈ c.models, m ∈ all := by
  have hcol := collected_of_collectActions hall
  have hsettled : all.Settled classes := fun m hm => (hcol.described m hm).resolve_left (by simp)
  obtain ⟨_, _, _, _, _, hm⟩ := Action.exists_of_contribution h
  have hcov : ∀ t ∈ a.modelTypes, Covered classes all t := fun t ht =>
    hcol.covers t (List.mem_flatMap.mpr ⟨a, ha, ht⟩)
  have hnone : ∀ m ∈ ([] : Models), m ∈ all := by simp
  obtain ⟨ms, hms, hsub⟩ := exists_collect hc hsettled hcov hnone
  cases hms.symm.trans hm
  exact hsub

/-- The models gathered for all actions at once are those that the actions bring by themselves. -/
theorem exists_collectActions (hc : classes.Identifies) {actions : List Action}
    {cs : List Contribution}
    (hcs : actions.mapM (Action.contribution classes .standard) = .ok cs) :
    ∃ all, collectActions classes .standard actions = .ok all ∧
      ∀ m, m ∈ all ↔ ∃ c ∈ cs, m ∈ c.models := by
  let each : Models := cs.flatMap (·.models)
  have hmem : ∀ m, m ∈ each ↔ ∃ c ∈ cs, m ∈ c.models := fun m => List.mem_flatMap
  have hle : ∀ c ∈ cs, ∀ i, c.models.has i = true → each.has i = true := by
    intro c hc i hi
    obtain ⟨m, hm, rfl⟩ := Models.has_iff.mp hi
    exact Models.has_iff.mpr ⟨m, (hmem m).mpr ⟨c, hc, hm⟩, rfl⟩
  have hsettled : each.Settled classes := by
    intro m hm
    obtain ⟨c, hcm, hmc⟩ := (hmem m).mp hm
    obtain ⟨a, -, ha⟩ := exists_of_mem_mapM hcs hcm
    obtain ⟨d, fields, hd, hcov⟩ :=
      ((Action.collected_of_contribution ha).described m hmc).resolve_left (by simp)
    exact ⟨d, fields, hd, fun f hf => (hcov f hf).mono (hle c hcm)⟩
  obtain ⟨all, hall, hsub⟩ : ∃ all, collectActions classes .standard actions = .ok all ∧
      ∀ m ∈ all, m ∈ each := by
    refine exists_foldlM_within (fun a ha known hknown => ?_) (by simp)
    obtain ⟨c, hcm, hac⟩ := exists_mem_of_mapM hcs a ha
    refine exists_collect hc hsettled (fun t ht => ?_) hknown
    exact ((Action.collected_of_contribution hac).covers t ht).mono (hle c hcm)
  refine ⟨all, hall, fun m => ⟨fun hm => (hmem m).mp (hsub m hm), ?_⟩⟩
  rintro ⟨c, hcm, hm⟩
  obtain ⟨a, ha, hac⟩ := exists_of_mem_mapM hcs hcm
  exact mem_of_contribution hc hall ha hac m hm

/-- Where no names collide, a name has one model among those of all actions. -/
theorem eq_of_schemaCollisions (hc : classes.Identifies) {actions : List Action}
    (h : schemaCollisions classes .standard actions = .ok []) :
    ∃ all, collectActions classes .standard actions = .ok all ∧
      ∀ m ∈ all, ∀ n ∈ all, m.2.name = n.2.name → m = n := by
  obtain ⟨all, hall, hnone⟩ := exists_of_map_ok h
  have hcol := collected_of_collectActions hall
  refine ⟨all, hall, fun m hm n hn hmn => ?_⟩
  obtain ⟨d, fields, hd, -⟩ := (hcol.described m hm).resolve_left (by simp)
  obtain ⟨e, more, he, -⟩ := (hcol.described n hn).resolve_left (by simp)
  have hid : d.identity = e.identity :=
    id_eq_of_nameCollisions hnone (List.mem_map_of_mem hm) (List.mem_map_of_mem hn) hd.spec.2.1
      he.spec.2.1 hmn
  exact (hd.eq_of_identity hc he (by rw [hd.identity, he.identity, hid])).2.2

end RouteAtlas
