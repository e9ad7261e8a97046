import RouteAtlas.Proofs.BuildSteps
import RouteAtlas.Proofs.NamedEntries

/-!
The definitions of a document when models are put in: those of known identity are left out, and the
others take the places of their short names one after the other.
-/

namespace RouteAtlas

namespace Models

/-- The models by short name. -/
def named (ms : Models) : List (String × Schema) := ms.map fun m => (m.2.name, m.2)

/-- The models whose identities are not among these. -/
def unknown (ms : Models) (known : List String) : Models :=
  ms.filter fun m => !known.contains m.1

theorem mem_unknown {ms : Models} {known : List String} {m : String × Schema} :
    m ∈ ms.unknown known ↔ m ∈ ms ∧ m.1 ∉ known := by
  simp [unknown]

theorem mem_named {ms : Models} {e : String × Schema} :
    e ∈ ms.named ↔ ∃ m ∈ ms, e = (m.2.name, m.2) := by
  unfold named
  rw [List.mem_map]
  exact ⟨fun ⟨m, hm, he⟩ => ⟨m, hm, he.symm⟩, fun ⟨m, hm, he⟩ => ⟨m, hm, he.symm⟩⟩

theorem mem_names_named {ms : Models} {n : String} :
    n ∈ ms.named.map (·.1) ↔ ∃ m ∈ ms, m.2.name = n := by
  simp [named]

theorem unknown_append_of_new {ms : Models} {known : List String} {i : String}
    (h : i ∉ ms.map (·.1)) : ms.unknown (known ++ [i]) = ms.unknown known := by
  refine List.filter_congr fun m hm => ?_
  have hne : m.1 ≠ i := fun he => h (he ▸ List.mem_map_of_mem hm)
  simp [hne]

end Models

namespace Document

variable {strict : Bool}

/-- The identities that stand in definitions. -/
def identities (definitions : List (String × Schema)) : List String :=
  definitions.map fun d => d.2.identity

/-- A model is left out if its identity is known, and else it takes the place of its name. -/
theorem putModel_cases {m m' : Merging} {model : String × Schema}
    (h : putModel strict m model = .ok m') :
    (model.1 ∈ m.known ∧ m' = m) ∨
      (model.1 ∉ m.known ∧ m'.known = m.known ++ [model.1] ∧
        m'.definitions = replaceOrAppend model.2.name model.2 m.definitions) := by
  unfold putModel at h
  by_cases hk : model.1 ∈ m.known
  · simp only [List.contains_iff_mem.mpr hk, if_true] at h
    exact Or.inl ⟨hk, (Except.ok.inj h).symm⟩
  · simp only [List.contains_iff_mem, hk, if_false] at h
    refine Or.inr ⟨hk, ?_⟩
    split at h
    next =>
      cases Except.ok.inj h
      exact ⟨rfl, rfl⟩
    next =>
      split at h
      next =>
        cases Except.ok.inj h
        exact ⟨rfl, rfl⟩
      next =>
        split at h
        next => cases h
        next =>
          cases Except.ok.inj h
          exact ⟨rfl, rfl⟩

theorem exists_putModel (m : Merging) (model : String × Schema) :
    ∃ m', putModel false m model = .ok m' := by
  by_cases hk : m.known.contains model.1 = true
  · exact ⟨m, by simp only [putModel, hk, if_true]⟩
  · cases hl : m.definitions.lookup model.2.name with
    | none =>
      simp only [putModel, hk, hl]
      exact ⟨_, rfl⟩
    | some old =>
      simp only [putModel, hk, hl]
      by_cases hc : (nameCollisions [old, model.2]).isEmpty = true
      · exact ⟨_, by simp only [hc, if_true]; rfl⟩
      · exact ⟨_, by simp only [hc]; rfl⟩

theorem definitions_of_foldlM_putModel {m m' : Merging} {ms : Models}
    (hn : (ms.map (·.1)).Nodup) (h : ms.foldlM (putModel strict) m = .ok m') :
    m'.definitions = putAll (ms.unknown m.known).named m.definitions := by
  induction ms generalizing m with
  | nil =>
    cases Except.ok.inj h
    rfl
  | cons model ms ih =>
    obtain ⟨hnew, hn⟩ := List.nodup_cons.mp hn
    obtain ⟨m₁, hstep, hrest⟩ := exists_of_foldlM_cons h
    have hr := ih hn hrest
    rcases putModel_cases hstep with ⟨hk, rfl⟩ | ⟨hk, hknown, hdefs⟩
    · rw [hr]
      simp [Models.unknown, hk]
    · rw [hr, hknown, hdefs, Models.unknown_append_of_new hnew]
      simp [Models.unknown, Models.named, hk, putAll_cons]

/-- Putting models in is putting in, by name, those of unknown identity. -/
theorem definitions_of_putModels {defs : List (String × Schema)} {ms : Models} {m : Merging}
    (hn : (ms.map (·.1)).Nodup) (h : putModels strict defs ms = .ok m) :
    m.definitions = putAll (ms.unknown (identities defs)).named defs :=
  definitions_of_foldlM_putModel hn h

/-- What a contribution puts into the definitions. -/
theorem definitions_of_apply {d e : Document} {c : Contribution} {ts : List Takeover}
    (hn : (c.models.map (·.1)).Nodup) (h : d.apply strict c = .ok (e, ts)) :
    e.definitions = putAll (c.models.unknown (identities d.definitions)).named d.definitions := by
  obtain ⟨m, hm, rfl⟩ := exists_of_apply h
  exact definitions_of_putModels hn hm

/-- A definition is a model that has been put in, or stood there before. -/
theorem mem_definitions_of_apply {d e : Document} {c : Contribution} {ts : List Takeover}
    (hn : (c.models.map (·.1)).Nodup) (h : d.apply strict c = .ok (e, ts)) {s : String × Schema}
    (hs : s ∈ e.definitions) :
    (∃ m ∈ c.models, s = (m.2.name, m.2)) ∨ s ∈ d.definitions := by
  rw [definitions_of_apply hn h] at hs
  refine (mem_putAll hs).imp_left fun hs => ?_
  obtain ⟨m, hm, rfl⟩ := Models.mem_named.mp hs
  exact ⟨m, (Models.mem_unknown.mp hm).1, rfl⟩

theorem exists_foldlM_putModel (m : Merging) (ms : Models) :
    ∃ m', ms.foldlM (putModel false) m = .ok m' := by
  induction ms generalizing m with
  | nil => exact ⟨m, rfl⟩
  | cons model ms ih =>
    obtain ⟨m₁, h₁⟩ := exists_putModel m model
    obtain ⟨m₂, h₂⟩ := ih m₁
    exact ⟨m₂, by rw [List.foldlM_cons, h₁]; exact h₂⟩

/-- Without strictness nothing stands in the way of a contribution. -/
theorem exists_apply (d : Document) (c : Contribution) : ∃ r, d.apply false c = .ok r := by
  obtain ⟨m, hm⟩ := exists_foldlM_putModel ⟨d.definitions, identities d.definitions, []⟩ c.models
  have hp : putModels false d.definitions c.models = .ok m := hm
  simp only [apply, hp]
  exact ⟨_, rfl⟩

/-- Where every action has its contribution, a build that is not strict succeeds. -/
theorem exists_extend {classes : Registry} {formats : Formats} {actions : List Action}
    (h : ∀ a ∈ actions, ∃ c, a.contribution classes formats = .ok c) (d : Document) :
    ∃ e, (d.extend classes formats false actions).result = .ok e := by
  refine exists_run (fun a ha d => ?_) d
  obtain ⟨c, hc⟩ := h a ha
  obtain ⟨r, hr⟩ := exists_apply d c
  refine ⟨r, ?_⟩
  rw [merge, hc]
  exact hr

theorem exists_fold (cs : List Contribution) (d : Document) :
    ∃ e, (fold false d cs).result = .ok e :=
  exists_run (fun c _ d => exists_apply d c) d

end Document

end RouteAtlas
