import Mathlib
import RouteAtlas.Proofs.PathFold
import RouteAtlas.Proofs.StrictBuild

/-!
The order of actions. Where no two actions write at the same place and no names collide, actions in
any order lead to the same paths and definitions, up to the order of these. At each place at most
one action writes, and nothing is replaced among the definitions: the build does what a strict one
does, which keeps all models.
-/

namespace RouteAtlas

variable {classes : Registry} {formats : Formats}

/-- The actions document no template under the same verb. -/
def Action.Apart (a b : Action) : Prop := ∀ t v, ¬(a.writes t v = true ∧ b.writes t v = true)

instance Action.instSymmApart : Std.Symm Action.Apart where
  symm _ _ h t v hw := h t v hw.symm

/-- Where no two actions are found, it does not matter in which order they are searched. -/
theorem find?_reverse_of_perm {α : Type} {p : α → Bool} {xs ys : List α} (hp : xs.Perm ys)
    (h : ∀ a ∈ xs, ∀ b ∈ xs, p a = true → p b = true → a = b) :
    ys.reverse.find? p = xs.reverse.find? p := by
  cases hx : xs.reverse.find? p with
  | none =>
    rw [List.find?_eq_none] at hx ⊢
    exact fun a ha => hx a (List.mem_reverse.mpr (hp.mem_iff.mpr (List.mem_reverse.mp ha)))
  | some a =>
    have hax : a ∈ xs := List.mem_reverse.mp (List.mem_of_find?_eq_some hx)
    have hpa := List.find?_some hx
    cases hy : ys.reverse.find? p with
    | none =>
      rw [List.find?_eq_none] at hy
      exact absurd hpa (hy a (List.mem_reverse.mpr (hp.mem_iff.mp hax)))
    | some b =>
      have hbx : b ∈ xs := hp.mem_iff.mpr (List.mem_reverse.mp (List.mem_of_find?_eq_some hy))
      rw [h b hbx a hax (List.find?_some hy) hpa]

theorem PathItem.eq_of_slots {i j : PathItem} (h : ∀ v, i.slot v = j.slot v)
    (hp : i.parameters = j.parameters) : i = j := by
  obtain ⟨_, _, _, _, _, _, _⟩ := i
  obtain ⟨_, _, _, _, _, _, _⟩ := j
  have hget := h .get
  have hput := h .put
  have hpost := h .post
  have hdelete := h .delete
  have hpatch := h .patch
  have hoptions := h .options
  simp only [slot] at hget hput hpost hdelete hpatch hoptions hp
  simp only [hget, hput, hpost, hdelete, hpatch, hoptions, hp]

namespace Document

/-- Paths are the same where they have the same templates, operations and parameters. -/
theorem lookup_paths_eq {paths paths' : List (String × PathItem)} {t : String}
    (hnames : t ∈ paths.map (·.1) ↔ t ∈ paths'.map (·.1))
    (hops : ∀ v, operationAt paths t v = operationAt paths' t v)
    (hpars : (itemAt paths t).parameters = (itemAt paths' t).parameters) :
    paths.lookup t = paths'.lookup t := by
  by_cases ht : t ∈ paths.map (·.1)
  · obtain ⟨i, hi⟩ := exists_lookup ht
    obtain ⟨j, hj⟩ := exists_lookup (hnames.mp ht)
    simp only [operationAt, itemAt, hi, hj, Option.bind_some, Option.getD_some] at hops hpars
    rw [hi, hj, PathItem.eq_of_slots hops hpars]
  · have ht' : t ∉ paths'.map (·.1) := fun h => ht (hnames.mpr h)
    rw [← lookup_isSome_iff, Option.not_isSome_iff_eq_none] at ht ht'
    rw [ht, ht']

theorem lookup_paths_of_perm {strict : Bool} {xs ys : List Action} {d d' e e' : Document}
    (hp : xs.Perm ys) (hapart : xs.Pairwise Action.Apart) (hpaths : d'.paths = d.paths)
    (h : (d.extend classes formats strict xs).result = .ok e)
    (h' : (d'.extend classes formats strict ys).result = .ok e') (t : String) :
    e'.paths.lookup t = e.paths.lookup t := by
  obtain ⟨hop, hpar, hnames⟩ := paths_of_extend h
  obtain ⟨hop', hpar', hnames'⟩ := paths_of_extend h'
  rw [hpaths] at hop' hpar' hnames'
  have hone : ∀ v, ∀ a ∈ xs, ∀ b ∈ xs, a.writes t v = true → b.writes t v = true → a = b := by
    intro v a ha b hb hwa hwb
    refine Classical.byContradiction fun hne => ?_
    have hab : a.Apart b := hapart.forall ha hb hne
    exact hab t v ⟨hwa, hwb⟩
  refine lookup_paths_eq ?_ (fun v => ?_) ((hpar' t).trans (hpar t).symm)
  · rw [hnames', hnames, foldl_addName, foldl_addName]
    simp [hp.mem_iff]
  · have hfind := find?_reverse_of_perm hp (hone v)
    have hv := hop t v
    have hv' := hop' t v
    rw [hfind] at hv'
    cases hf : xs.reverse.find? (·.writes t v) with
    | none =>
      rw [hf] at hv hv'
      exact hv'.trans hv.symm
    | some a =>
      rw [hf] at hv hv'
      obtain ⟨op, ho, hs⟩ := hv
      obtain ⟨op', ho', hs'⟩ := hv'
      cases Except.ok.inj (ho.symm.trans ho')
      exact hs'.trans hs.symm

theorem putModel_of_strict {m m' : Merging} {model : String × Schema}
    (h : putModel true m model = .ok m') : putModel false m model = .ok m' := by
  by_cases hk : m.known.contains model.1 = true
  · simpa only [putModel, hk, if_true] using h
  · cases hl : m.definitions.lookup model.2.name with
    | none => simpa only [putModel, hk, hl] using h
    | some old =>
      by_cases hc : (nameCollisions [old, model.2]).isEmpty = true
      · simpa only [putModel, hk, hl, hc, if_true] using h
      · simp only [putModel, hk, hl, hc, if_true] at h
        cases h

theorem foldlM_putModel_of_strict {m m' : Merging} {ms : Models}
    (h : ms.foldlM (putModel true) m = .ok m') : ms.foldlM (putModel false) m = .ok m' := by
  induction ms generalizing m with
  | nil => exact h
  | cons model ms ih =>
    obtain ⟨m₁, hstep, hrest⟩ := exists_of_foldlM_cons h
    rw [List.foldlM_cons, putModel_of_strict hstep]
    exact ih hrest

theorem merge_of_strict {d : Document} {a : Action} {r : Document × List Takeover}
    (h : d.merge classes formats true a = .ok r) : d.merge classes formats false a = .ok r := by
  obtain ⟨c, hc, h⟩ := exists_of_bind_ok h
  obtain ⟨m, hm, h⟩ := exists_of_bind_ok h
  have hm' : putModels false d.definitions c.models = .ok m := foldlM_putModel_of_strict hm
  rw [merge, hc]
  show (putModels false d.definitions c.models).bind _ = _
  rw [hm']
  exact h

theorem Placed.lookup_of_lookup {all : Models} {defs defs' : List (String × Schema)}
    (h : Placed all defs) (h' : Placed all defs') (hin : all.named ⊆ defs') {n : String}
    {s : Schema} (hs : defs.lookup n = some s) : defs'.lookup n = some s := by
  obtain ⟨m, hm, heq⟩ := h.models _ (mem_of_lookup hs)
  exact lookup_of_mem h'.nodup (hin (Models.mem_named.mpr ⟨m, hm, heq⟩))

/-- Where no two models have one name, a build that is not strict keeps them all too. -/
theorem exists_extend_of_unique {all : Models} (hall : all.Identified)
    (hunique : ∀ m ∈ all, ∀ n ∈ all, m.2.name = n.2.name → m = n) {actions : List Action}
    {cs : List Contribution} (hcs : actions.mapM (Action.contribution classes formats) = .ok cs)
    (hmem : ∀ m, m ∈ all ↔ ∃ c ∈ cs, m ∈ c.models) {d : Document}
    (hd : Placed all d.definitions) :
    ∃ e, (d.extend classes formats false actions).result = .ok e ∧ Placed all e.definitions ∧
      all.named ⊆ e.definitions := by
  rcases extend_strict hall hcs (fun c hc m hm => (hmem m).mpr ⟨c, hc, hm⟩) hd with
    ⟨e, he, hplaced, -, hin⟩ | ⟨f, -, n, hn, m, hm, hname, hne, -⟩
  · refine ⟨e, run_of_steps (fun _ _ _ => merge_of_strict) he, hplaced, fun entry hentry => ?_⟩
    obtain ⟨m, hm, rfl⟩ := Models.mem_named.mp hentry
    obtain ⟨c, hc, hmc⟩ := (hmem m).mp hm
    exact hin c hc (Models.mem_named.mpr ⟨m, hmc, rfl⟩)
  · exact absurd (congrArg Prod.fst (hunique n hn m hm hname)) hne

/-- Actions in another order, of which no two write at the same place and no names collide, are
built just as well, and lead to the same paths and the same definitions. -/
theorem lookup_of_permuted_build (hc : classes.Identifies) {info : Option Info}
    {xs ys : List Action} {d : Document} (hp : xs.Perm ys) (hapart : xs.Pairwise Action.Apart)
    (hnone : schemaCollisions classes .standard xs = .ok [])
    (h : (build classes .standard false info none xs).result = .ok d) :
    ∃ e, (build classes .standard false info none ys).result = .ok e ∧
      (∀ t, e.paths.lookup t = d.paths.lookup t) ∧
      ∀ n, e.definitions.lookup n = d.definitions.lookup n := by
  obtain ⟨cs, hcs⟩ := exists_contributions h
  obtain ⟨cs', hcs'⟩ : ∃ cs', ys.mapM (Action.contribution classes .standard) = .ok cs' := by
    refine exists_mapM fun a ha => ?_
    obtain ⟨c, -, hac⟩ := exists_mem_of_mapM hcs a (hp.mem_iff.mpr ha)
    exact ⟨c, hac⟩
  obtain ⟨all, hall, hunique⟩ := eq_of_schemaCollisions hc hnone
  obtain ⟨all', hall', hmem⟩ := exists_collectActions hc hcs
  cases hall.symm.trans hall'
  -- The actions bring the same models in any order.
  have hmem' : ∀ m, m ∈ all ↔ ∃ c ∈ cs', m ∈ c.models := by
    have hcontrib : ∀ c, c ∈ cs' ↔ c ∈ cs := fun c => by
      rw [mem_iff_of_mapM hcs', mem_iff_of_mapM hcs]
      simp only [hp.mem_iff]
    simpa only [hcontrib] using hmem
  have hid := identified_of_collectActions hc hall
  have hstart : Placed all (start info none).definitions :=
    ⟨List.nodup_nil, by simp [start, ofInfo]⟩
  obtain ⟨d', hd', hplaced, hin⟩ := exists_extend_of_unique hid hunique hcs hmem hstart
  obtain ⟨e, he, hplaced', hin'⟩ := exists_extend_of_unique hid hunique hcs' hmem' hstart
  obtain rfl : d = d' := Except.ok.inj (h.symm.trans hd')
  refine ⟨e, he, lookup_paths_of_perm hp hapart rfl h he, fun n => Option.ext fun s => ?_⟩
  exact ⟨hplaced'.lookup_of_lookup hplaced hin, hplaced.lookup_of_lookup hplaced' hin'⟩

/-- Users have a team, and a team is led by a user. -/
def teams : Registry where
  decls := [
    ⟨"User", .record false, "User", "app", "User", none, [("team", .declared "Team")], []⟩,
    ⟨"Team", .record false, "Team", "app", "Team", none, [("lead", .declared "User")], []⟩]

/-- Each of the two kinds is come upon from the other. -/
def teamActions : List Action :=
  [answering "users" [.ofType (.declared "User")], answering "teams" [.ofType (.declared "Team")]]

theorem lookup_of_permuted_build_teams :
    ∃ d e, (build teams .standard false none none teamActions).result = .ok d ∧
      (build teams .standard false none none teamActions.reverse).result = .ok e ∧
      (∀ t, e.paths.lookup t = d.paths.lookup t) ∧
      ∀ n, e.definitions.lookup n = d.definitions.lookup n := by
  have hc : teams.Identifies := Registry.identifies_of_nodup (by decide +kernel)
  have husers : (answering "users" [.ofType (.declared "User")]).templates = ["/users"] := by cbv
  have hteams : (answering "teams" [.ofType (.declared "Team")]).templates = ["/teams"] := by cbv
  have hapart : teamActions.Pairwise Action.Apart := by
    refine List.pairwise_pair.mpr ?_
    rintro t v ⟨hu, ht⟩
    have hut : t = "/users" := by
      unfold Action.writes at hu
      split at hu
      · simpa [husers] using (Bool.and_eq_true_iff.mp hu).2
      · cases hu
    subst hut
    unfold Action.writes at ht
    split at ht
    · simp [hteams] at ht
    · cases ht
  have hnone : schemaCollisions teams .standard teamActions = .ok [] := by cbv
  have hok : (teamActions.mapM (Action.contribution teams .standard)).isOk = true := by cbv
  obtain ⟨cs, hcs⟩ := exists_of_isOk hok
  have hall : ∀ a ∈ teamActions, ∃ c, a.contribution teams .standard = .ok c := fun a ha => by
    obtain ⟨c, -, hac⟩ := exists_mem_of_mapM hcs a ha
    exact ⟨c, hac⟩
  obtain ⟨d, hd⟩ := exists_extend hall (start none none)
  obtain ⟨e, he, hpaths, hdefs⟩ :=
    lookup_of_permuted_build hc (List.reverse_perm teamActions).symm hapart hnone hd
  exact ⟨d, e, hd, he, hpaths, hdefs⟩

end Document

end RouteAtlas
