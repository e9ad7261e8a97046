import RouteAtlas.Proofs.Collisions
import RouteAtlas.Proofs.LastWriter

/-!
A strict build fails just where collisions are found without building. Until it fails it has never
replaced a model, so all models brought so far stand under their names; and what it fails at is a
pair of them.
-/

namespace RouteAtlas

variable {classes : Registry}

/-- Models that go by their identities, of which each has one model. -/
structure Models.Identified (all : Models) : Prop where
  id : ∀ m ∈ all, m.2.id = some m.1
  identity : ∀ m ∈ all, m.2.identity = m.1
  unique : ∀ m ∈ all, ∀ n ∈ all, m.1 = n.1 → m = n

theorem identified_of_collectActions (hc : classes.Identifies) {actions : List Action}
    {all : Models} (h : collectActions classes .standard actions = .ok all) : all.Identified := by
  have hmodel : ∀ m ∈ all, ∃ d fields, IsModelOf classes d fields m := by
    intro m hm
    obtain ⟨d, fields, hd, -⟩ :=
      ((collected_of_collectActions h).described m hm).resolve_left (by simp)
    exact ⟨d, fields, hd⟩
  refine ⟨fun m hm => ?_, fun m hm => ?_, fun m hm n hn hmn => ?_⟩
  · obtain ⟨d, fields, hd⟩ := hmodel m hm
    rw [hd.spec.2.1, hd.identity]
  · obtain ⟨d, fields, hd⟩ := hmodel m hm
    exact hd.schema_identity
  · obtain ⟨d, fields, hd⟩ := hmodel m hm
    obtain ⟨e, more, he⟩ := hmodel n hn
    exact (hd.eq_of_identity hc he hmn).2.2

theorem nameCollisions_pair {s t : Schema} {i j : String} (hi : s.id = some i) (hj : t.id = some j)
    (hst : s.name = t.name) : nameCollisions [s, t] = if i = j then [] else [(t.name, [i, j])] := by
  by_cases hij : i = j
  · simp [nameCollisions, claims, hi, hj, hst, Claims.add, hij]
  · simp [nameCollisions, claims, hi, hj, hst, Claims.add, hij, Ne.symm hij]

/-- The fault of two models of one name, the one that stands there first. -/
def Clash (all : Models) (f : Fault) : Prop :=
  ∃ n ∈ all, ∃ m ∈ all, n.2.name = m.2.name ∧ n.1 ≠ m.1 ∧
    f = .nameCollision [(m.2.name, [n.1, m.1])]

theorem Clash.holds {all : Models} (hall : all.Identified) {f : Fault} (h : Clash all f) :
    ∃ name i j, f = .nameCollision [(name, [i, j])] ∧ i ≠ j ∧
      (nameCollisions (all.map (·.2))).Holds name i ∧
      (nameCollisions (all.map (·.2))).Holds name j := by
  obtain ⟨n, hn, m, hm, hname, hne, rfl⟩ := h
  have hns : n.2 ∈ all.map (·.2) := List.mem_map_of_mem hn
  have hms : m.2 ∈ all.map (·.2) := List.mem_map_of_mem hm
  refine ⟨m.2.name, n.1, m.1, rfl, hne, ?_, ?_⟩
  · rw [← hname]
    exact holds_nameCollisions hns hms (hall.id n hn) (hall.id m hm) hname hne
  · exact holds_nameCollisions hms hns (hall.id m hm) (hall.id n hn) hname.symm hne.symm

namespace Document

/-- Definitions that are models of these, each under its own name. -/
structure Placed (all : Models) (defs : List (String × Schema)) : Prop where
  nodup : (defs.map (·.1)).Nodup
  models : ∀ e ∈ defs, ∃ m ∈ all, e = (m.2.name, m.2)

/-- Where all models stand under their names, no two of them have the same. -/
theorem Placed.nameCollisions_eq_nil {all : Models} {defs : List (String × Schema)}
    (h : Placed all defs) (hin : all.named ⊆ defs) : nameCollisions (all.map (·.2)) = [] := by
  refine Decidable.byContradiction fun hfound => ?_
  obtain ⟨s, hs, t, ht, i, j, hi, hj, hst, hij⟩ := exists_of_nameCollisions hfound
  have hput : ∀ u ∈ all.map (·.2), defs.lookup u.name = some u := by
    intro u hu
    obtain ⟨m, hm, rfl⟩ := List.mem_map.mp hu
    exact lookup_of_mem h.nodup (hin (Models.mem_named.mpr ⟨m, hm, rfl⟩))
  have hsame : some s = some t := by rw [← hput s hs, hst, hput t ht]
  cases Option.some.inj hsame
  exact hij (Option.some.inj (hi.symm.trans hj))

/-- The state of putting models in where none has been replaced. -/
structure Merging.Kept (all : Models) (m : Merging) : Prop where
  placed : Placed all m.definitions
  known : m.known = identities m.definitions

variable {all : Models}

theorem Merging.Kept.mem_of_known (hall : all.Identified) {m : Merging} (h : m.Kept all)
    {model : String × Schema} (hm : model ∈ all) (hk : model.1 ∈ m.known) :
    (model.2.name, model.2) ∈ m.definitions := by
  rw [h.known] at hk
  obtain ⟨e, he, hid⟩ := List.mem_map.mp hk
  obtain ⟨n, hn, rfl⟩ := h.placed.models e he
  obtain rfl := hall.unique n hn model hm ((hall.identity n hn).symm.trans hid)
  exact he

theorem Merging.Kept.put (hall : all.Identified) {m : Merging} (h : m.Kept all)
    {model : String × Schema} (hm : model ∈ all)
    (hnew : model.2.name ∉ m.definitions.map (·.1)) (takeovers : List Takeover) :
    Merging.Kept all ⟨m.definitions ++ [(model.2.name, model.2)], m.known ++ [model.1],
      takeovers⟩ := by
  refine ⟨⟨?_, fun e he => ?_⟩, ?_⟩
  · rw [List.map_append]
    refine List.nodup_append.mpr ⟨h.placed.nodup, by simp, fun a ha b hb hab => hnew ?_⟩
    obtain rfl : b = model.2.name := by simpa using hb
    exact hab ▸ ha
  · rcases List.mem_append.mp he with he | he
    · exact h.placed.models e he
    · exact ⟨model, hm, List.mem_singleton.mp he⟩
  · simp [identities, h.known, hall.identity model hm]

/-- Putting a model in keeps all that stand there, or finds another of its name. -/
theorem putModel_strict (hall : all.Identified) {m : Merging} (h : m.Kept all)
    {model : String × Schema} (hm : model ∈ all) :
    (∃ m', putModel true m model = .ok m' ∧ m'.Kept all ∧ m.definitions ⊆ m'.definitions ∧
        (model.2.name, model.2) ∈ m'.definitions) ∨
      ∃ f, putModel true m model = .error f ∧ Clash all f := by
  by_cases hk : model.1 ∈ m.known
  · refine Or.inl ⟨m, ?_, h, fun _ => id, h.mem_of_known hall hm hk⟩
    simp only [putModel, List.contains_iff_mem.mpr hk, if_true]
  cases hl : m.definitions.lookup model.2.name with
  | none =>
    have hnew : model.2.name ∉ m.definitions.map (·.1) := by
      rw [← lookup_isSome_iff, hl]
      simp
    refine Or.inl ⟨_, ?_, h.put hall hm hnew m.takeovers, List.subset_append_left _ _, by simp⟩
    simp [putModel, hk, hl, replaceOrAppend_of_new _ hnew]
  | some old =>
    -- What stands there is another model: this one would be known by its identity.
    obtain ⟨n, hn, heq⟩ := h.placed.models _ (mem_of_lookup hl)
    obtain ⟨hname, rfl⟩ := Prod.ext_iff.mp heq
    have hne : n.1 ≠ model.1 := fun hnm => hk (by
      rw [h.known]
      exact List.mem_map.mpr ⟨_, mem_of_lookup hl, (hall.identity n hn).trans hnm⟩)
    refine Or.inr ⟨_, ?_, n, hn, model, hm, hname.symm, hne, rfl⟩
    simp [putModel, hk, hl, nameCollisions_pair (hall.id n hn) (hall.id model hm) hname.symm, hne]

/-- Models that are put in one after the other all stand there, or two of them clash. -/
theorem foldlM_putModel_strict (hall : all.Identified) {m : Merging} (h : m.Kept all) {ms : Models}
    (hms : ∀ model ∈ ms, model ∈ all) :
    (∃ m', ms.foldlM (putModel true) m = .ok m' ∧ m'.Kept all ∧ m.definitions ⊆ m'.definitions ∧
        ms.named ⊆ m'.definitions) ∨
      ∃ f, ms.foldlM (putModel true) m = .error f ∧ Clash all f := by
  -- The state is general: what is known grows with every model that is put in.
  induction ms generalizing m with
  | nil => exact Or.inl ⟨m, rfl, h, fun _ => id, List.nil_subset _⟩
  | cons model ms ih =>
    obtain ⟨hmodel, hms⟩ := List.forall_mem_cons.mp hms
    rw [List.foldlM_cons]
    rcases putModel_strict hall h hmodel with ⟨m₁, h₁, hkept, hsub, hin⟩ | ⟨f, hf, hclash⟩
    · rw [h₁]
      rcases ih hkept hms with ⟨m₂, h₂, hkept', hsub', hin'⟩ | ⟨f, hf, hclash⟩
      · refine Or.inl ⟨m₂, h₂, hkept', List.Subset.trans hsub hsub', ?_⟩
        exact List.cons_subset.mpr ⟨hsub' hin, hin'⟩
      · exact Or.inr ⟨f, hf, hclash⟩
    · rw [hf]
      exact Or.inr ⟨f, rfl, hclash⟩

theorem apply_strict (hall : all.Identified) {d : Document} (hd : Placed all d.definitions)
    {c : Contribution} (hc : ∀ model ∈ c.models, model ∈ all) :
    (∃ e ts, d.apply true c = .ok (e, ts) ∧ Placed all e.definitions ∧
        d.definitions ⊆ e.definitions ∧ c.models.named ⊆ e.definitions) ∨
      ∃ f, d.apply true c = .error f ∧ Clash all f := by
  rw [apply, putModels]
  rcases foldlM_putModel_strict (m := ⟨d.definitions, identities d.definitions, []⟩) hall ⟨hd, rfl⟩
      hc with ⟨m, hm, hkept, hsub, hin⟩ | ⟨f, hf, hclash⟩
  · exact Or.inl ⟨_, _, by rw [← identities, hm]; rfl, hkept.placed, hsub, hin⟩
  · exact Or.inr ⟨f, by rw [← identities, hf]; rfl, hclash⟩

/-- A strict build goes through with the models of all its actions, or fails at two that clash. -/
theorem extend_strict {formats : Formats} (hall : all.Identified) {actions : List Action}
    {cs : List Contribution} (hcs : actions.mapM (Action.contribution classes formats) = .ok cs)
    (hmem : ∀ c ∈ cs, ∀ model ∈ c.models, model ∈ all) {d : Document}
    (hd : Placed all d.definitions) :
    (∃ e, (d.extend classes formats true actions).result = .ok e ∧ Placed all e.definitions ∧
        d.definitions ⊆ e.definitions ∧ ∀ c ∈ cs, c.models.named ⊆ e.definitions) ∨
      ∃ f, (d.extend classes formats true actions).result = .error f ∧ Clash all f := by
  induction actions generalizing cs d with
  | nil =>
    cases Except.ok.inj hcs
    exact Or.inl ⟨d, rfl, hd, fun _ => id, by simp⟩
  | cons a actions ih =>
    obtain ⟨c, rest, hc, hrest, rfl⟩ := exists_of_mapM_cons hcs
    obtain ⟨hcm, hmem⟩ := List.forall_mem_cons.mp hmem
    have hstep : d.merge classes formats true a = d.apply true c := by
      rw [merge, hc]
      rfl
    rcases apply_strict hall hd hcm with ⟨d', ts, hd', hplaced, hsub, hin⟩ | ⟨f, hf, hclash⟩
    · rw [extend, run_cons_of_step actions (hstep.trans hd')]
      rcases ih hrest hmem hplaced with ⟨e, he, hplaced', hsub', hin'⟩ | ⟨f, hf, hclash⟩
      · refine Or.inl ⟨e, he, hplaced', List.Subset.trans hsub hsub', ?_⟩
        exact List.forall_mem_cons.mpr ⟨List.Subset.trans hin hsub', hin'⟩
      · exact Or.inr ⟨f, hf, hclash⟩
    · exact Or.inr ⟨f, by simp only [extend, run, hstep.trans hf], hclash⟩

/-- Without a document before it, a strict build fails exactly where collisions are found, and then
at two identities that are found for one name. -/
theorem nameCollision_of_strict_build (hc : classes.Identifies) (info : Option Info)
    {actions : List Action} {cs : List Contribution}
    (hcs : actions.mapM (Action.contribution classes .standard) = .ok cs) :
    ∃ found, schemaCollisions classes .standard actions = .ok found ∧
      ((∃ clash, (build classes .standard true info none actions).result =
          .error (.nameCollision clash)) ↔ found ≠ []) ∧
      ∀ f, (build classes .standard true info none actions).result = .error f →
        ∃ name i j, f = .nameCollision [(name, [i, j])] ∧ i ≠ j ∧
          found.Holds name i ∧ found.Holds name j := by
  obtain ⟨all, hcollect, hmem⟩ := exists_collectActions hc hcs
  have hall := identified_of_collectActions hc hcollect
  refine ⟨nameCollisions (all.map (·.2)), by rw [schemaCollisions, hcollect]; rfl, ?_⟩
  have hstart : Placed all (start info none).definitions :=
    ⟨List.nodup_nil, by simp [start, ofInfo]⟩
  rcases extend_strict hall hcs (fun c hcm m hm => (hmem m).mpr ⟨c, hcm, hm⟩) hstart with
    ⟨e, he, hplaced, -, hin⟩ | ⟨f, hf, hclash⟩
  · have hnamed : all.named ⊆ e.definitions := by
      intro entry hentry
      obtain ⟨m, hm, rfl⟩ := Models.mem_named.mp hentry
      obtain ⟨c, hcm, hmc⟩ := (hmem m).mp hm
      exact hin c hcm (Models.mem_named.mpr ⟨m, hmc, rfl⟩)
    rw [build, he, hplaced.nameCollisions_eq_nil hnamed]
    simp
  · obtain ⟨name, i, j, rfl, hij, hi, hj⟩ := hclash.holds hall
    rw [build, hf]
    refine ⟨iff_of_true ⟨_, rfl⟩ fun hnone => ?_, ?_⟩
    · obtain ⟨ids, hids, -⟩ := hi
      rw [hnone] at hids
      cases hids
    · rintro _ ⟨⟩
      exact ⟨name, i, j, rfl, hij, hi, hj⟩

theorem nameCollision_of_strict_build_users :
    usersOfTwoKinds.Identifies ∧
      ∃ cs, answersWithUsers.mapM (Action.contribution usersOfTwoKinds .standard) = .ok cs ∧
        ∃ clash i j, (build usersOfTwoKinds .standard true none none answersWithUsers).result =
            .error (.nameCollision clash) ∧
          clash = [("User", [i, j])] ∧ i ≠ j ∧ i ∈ ["app.User", "app.Legacy.User"] ∧
          j ∈ ["app.User", "app.Legacy.User"] := by
  have hc : usersOfTwoKinds.Identifies := Registry.identifies_of_nodup (by decide +kernel)
  obtain ⟨cs, hcs, -⟩ := exists_contributions_with_users
  obtain ⟨found, hfound, hiff, hfault⟩ := nameCollision_of_strict_build hc none hcs
  have husers : schemaCollisions usersOfTwoKinds .standard answersWithUsers =
      .ok [("User", ["app.User", "app.Legacy.User"])] := by cbv
  cases hfound.symm.trans husers
  obtain ⟨clash, hclash⟩ := hiff.mpr (List.cons_ne_nil _ _)
  obtain ⟨name, i, j, hname, hij, ⟨ids, hids, hi⟩, ⟨ids', hids', hj⟩⟩ := hfault _ hclash
  cases hname
  have hentry := mem_of_lookup hids
  simp only [List.mem_singleton, Prod.mk.injEq] at hentry
  obtain ⟨rfl, rfl⟩ := hentry
  cases hids.symm.trans hids'
  exact ⟨hc, cs, hcs, _, i, j, hclash, rfl, hij, hi, hj⟩

end Document

end RouteAtlas
