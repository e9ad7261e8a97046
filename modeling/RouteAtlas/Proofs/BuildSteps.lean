import RouteAtlas.Document.Build

/-! What a build that succeeds has done: its steps, and what each of them put in. -/

namespace RouteAtlas

section

variable {ε α β : Type}

theorem exists_of_bind_ok {x : Except ε α} {f : α → Except ε β} {b : β}
    (h : x.bind f = .ok b) : ∃ a, x = .ok a ∧ f a = .ok b := by
  cases x with
  | error e => cases h
  | ok a => exact ⟨a, rfl, h⟩

theorem cases_of_bind_error {x : Except ε α} {f : α → Except ε β} {e : ε}
    (h : x.bind f = .error e) : x = .error e ∨ ∃ a, x = .ok a ∧ f a = .error e := by
  cases x with
  | error e' => exact Or.inl (congrArg _ (Except.error.inj h))
  | ok a => exact Or.inr ⟨a, rfl, h⟩

theorem exists_of_map_ok {x : Except ε α} {f : α → β} {b : β} (h : x.map f = .ok b) :
    ∃ a, x = .ok a ∧ f a = b := by
  cases x with
  | error e => cases h
  | ok a => exact ⟨a, rfl, Except.ok.inj h⟩

theorem exists_of_isOk {x : Except ε α} (h : x.isOk = true) : ∃ a, x = .ok a := by
  cases x with
  | error e => cases h
  | ok a => exact ⟨a, rfl⟩

theorem exists_of_foldlM_cons {f : β → α → Except ε β} {a : α} {as : List α} {b d : β}
    (h : (a :: as).foldlM f b = .ok d) : ∃ c, f b a = .ok c ∧ as.foldlM f c = .ok d := by
  rw [List.foldlM_cons] at h
  exact exists_of_bind_ok h

theorem exists_of_mapM_cons {f : α → Except ε β} {a : α} {as : List α} {bs : List β}
    (h : (a :: as).mapM f = .ok bs) :
    ∃ b cs, f a = .ok b ∧ as.mapM f = .ok cs ∧ bs = b :: cs := by
  rw [List.mapM_cons] at h
  obtain ⟨b, hb, h⟩ := exists_of_bind_ok h
  obtain ⟨cs, hcs, h⟩ := exists_of_bind_ok h
  exact ⟨b, cs, hb, hcs, (Except.ok.inj h).symm⟩

theorem exists_of_mem_mapM {f : α → Except ε β} {as : List α} {bs : List β}
    (h : as.mapM f = .ok bs) {b : β} (hb : b ∈ bs) : ∃ a ∈ as, f a = .ok b := by
  induction as generalizing bs with
  | nil =>
    cases Except.ok.inj h
    cases hb
  | cons a as ih =>
    obtain ⟨c, cs, hc, hcs, rfl⟩ := exists_of_mapM_cons h
    rcases List.mem_cons.mp hb with rfl | hb
    · exact ⟨a, List.mem_cons_self, hc⟩
    · obtain ⟨a', ha', hf⟩ := ih hcs hb
      exact ⟨a', List.mem_cons_of_mem _ ha', hf⟩

theorem exists_mem_of_mapM {f : α → Except ε β} {as : List α} {bs : List β}
    (h : as.mapM f = .ok bs) : ∀ a ∈ as, ∃ b ∈ bs, f a = .ok b := by
  induction as generalizing bs with
  | nil => simp
  | cons a as ih =>
    obtain ⟨b, cs, hb, hcs, rfl⟩ := exists_of_mapM_cons h
    refine List.forall_mem_cons.mpr ⟨⟨b, List.mem_cons_self, hb⟩, fun a' ha' => ?_⟩
    obtain ⟨b', hb', hf⟩ := ih hcs a' ha'
    exact ⟨b', List.mem_cons_of_mem _ hb', hf⟩

theorem mem_iff_of_mapM {f : α → Except ε β} {as : List α} {bs : List β}
    (h : as.mapM f = .ok bs) {b : β} : b ∈ bs ↔ ∃ a ∈ as, f a = .ok b := by
  refine ⟨exists_of_mem_mapM h, ?_⟩
  rintro ⟨a, ha, hab⟩
  obtain ⟨c, hc, hac⟩ := exists_mem_of_mapM h a ha
  cases hab.symm.trans hac
  exact hc

theorem exists_mapM {f : α → Except ε β} {as : List α} (h : ∀ a ∈ as, ∃ b, f a = .ok b) :
    ∃ bs, as.mapM f = .ok bs := by
  induction as with
  | nil => exact ⟨[], rfl⟩
  | cons a as ih =>
    obtain ⟨⟨b, hb⟩, has⟩ := List.forall_mem_cons.mp h
    obtain ⟨bs, hbs⟩ := ih has
    exact ⟨b :: bs, by rw [List.mapM_cons, hb, hbs]; rfl⟩

theorem eq_map_of_mapM {f : α → Except ε β} {v : α → β} {as : List α} {bs : List β}
    (h : as.mapM f = .ok bs) (hv : ∀ a ∈ as, ∀ b, f a = .ok b → v a = b) : bs = as.map v := by
  induction as generalizing bs with
  | nil => exact (Except.ok.inj h).symm
  | cons a as ih =>
    obtain ⟨b, cs, hb, hcs, rfl⟩ := exists_of_mapM_cons h
    obtain ⟨ha, has⟩ := List.forall_mem_cons.mp hv
    rw [List.map_cons, ha b hb, ih hcs has]

theorem exists_values_of_mapM {γ : Type} [Inhabited β] {key : α → γ} {f : α → Except ε β}
    {as : List α} {bs : List (γ × β)} (h : (as.mapM fun a => do return (key a, ← f a)) = .ok bs) :
    ∃ v : α → β, (∀ a ∈ as, f a = .ok (v a)) ∧ bs = as.map fun a => (key a, v a) := by
  let v (a : α) : β := (f a).toOption.getD default
  have hv : ∀ a ∈ as, f a = .ok (v a) := by
    intro a ha
    obtain ⟨_, -, hb⟩ := exists_mem_of_mapM h a ha
    obtain ⟨b, hb, -⟩ := exists_of_bind_ok hb
    simp only [v, hb, Except.toOption, Option.getD_some]
  refine ⟨v, hv, eq_map_of_mapM h fun a ha e he => ?_⟩
  obtain ⟨b, hb, he⟩ := exists_of_bind_ok he
  cases hb.symm.trans (hv a ha)
  exact Except.ok.inj he

theorem exists_of_mapM_error {f : α → Except ε β} {as : List α} {e : ε}
    (h : as.mapM f = .error e) : ∃ a ∈ as, f a = .error e := by
  induction as with
  | nil => cases h
  | cons a as ih =>
    rw [List.mapM_cons] at h
    rcases cases_of_bind_error h with ha | ⟨b, -, h⟩
    · exact ⟨a, List.mem_cons_self, ha⟩
    · rcases cases_of_bind_error h with has | ⟨bs, -, h⟩
      · obtain ⟨a', ha', hf⟩ := ih has
        exact ⟨a', List.mem_cons_of_mem _ ha', hf⟩
      · cases h

end

namespace Checked

variable {α β : Type}

theorem exists_of_map_ok {f : α → β} {x : Checked α} {b : β} (h : f <$> x = .ok b) :
    ∃ a, x = .ok a ∧ f a = b := by
  cases x with
  | ok a => exact ⟨a, rfl, Checked.ok.inj h⟩
  | bad => cases h

theorem exists_of_seq_ok {f : Checked (α → β)} {x : Checked α} {b : β} (h : f <*> x = .ok b) :
    ∃ g a, f = .ok g ∧ x = .ok a ∧ g a = b := by
  cases f <;> cases x <;> cases h
  exact ⟨_, _, rfl, rfl, rfl⟩

theorem of_at {key : String} {x : Checked α} {a : α} (h : at_ key x = .ok a) : x = .ok a := by
  cases x with
  | ok b => exact h
  | bad => cases h

theorem exists_of_toExcept_ok {x : Checked α} {a : α} (h : x.toExcept = .ok a) : x = .ok a := by
  cases x with
  | ok b => rw [Except.ok.inj h]
  | bad => cases h

end Checked

namespace Action

variable {classes : Registry} {formats : Formats}

theorem exists_of_operation {a : Action} {t : String} {op : Operation}
    (h : a.operation classes formats t = .ok op) :
    a.parameters classes formats (some t) = .ok op.parameters ∧
      a.responses classes formats = .ok op.responses := by
  obtain ⟨summary, _, h⟩ := exists_of_bind_ok h
  obtain ⟨ps, hps, h⟩ := exists_of_bind_ok h
  obtain ⟨rs, hrs, h⟩ := exists_of_bind_ok h
  obtain ⟨_, _, h₁, _, rfl⟩ := Checked.exists_of_seq_ok (Checked.exists_of_toExcept_ok h)
  obtain ⟨_, _, h₂, _, rfl⟩ := Checked.exists_of_seq_ok h₁
  obtain ⟨_, _, rfl⟩ := Checked.exists_of_map_ok h₂
  exact ⟨hps, hrs⟩

theorem exists_of_contribution {a : Action} {c : Contribution}
    (h : a.contribution classes formats = .ok c) :
    ∃ v ts, Verb.ofMethod a.method = .ok v ∧ a.path.templates = .ok ts ∧
      a.operations classes formats v ts = .ok c.operations ∧
      a.collect classes formats [] = .ok c.models := by
  obtain ⟨v, hv, h⟩ := exists_of_bind_ok h
  obtain ⟨ts, ht, h⟩ := exists_of_bind_ok h
  obtain ⟨ops, ho, h⟩ := exists_of_bind_ok h
  obtain ⟨ms, hm, h⟩ := exists_of_bind_ok h
  cases Except.ok.inj h
  exact ⟨v, ts, hv, ht, ho, hm⟩

/-- Each template in order has its operation, under the verb of the action. -/
theorem operations_spec {a : Action} {v : Verb} {ts : List String}
    {ops : List (String × Verb × Operation)} (h : a.operations classes formats v ts = .ok ops) :
    ops.map (·.1) = ts ∧
      ∀ o ∈ ops, o.2.1 = v ∧ a.operation classes formats o.1 = .ok o.2.2 := by
  induction ts generalizing ops with
  | nil =>
    cases Except.ok.inj h
    exact ⟨rfl, by simp⟩
  | cons t ts ih =>
    obtain ⟨op, ho, h⟩ := exists_of_bind_ok h
    obtain ⟨rest, hr, h⟩ := exists_of_bind_ok h
    cases Except.ok.inj h
    obtain ⟨hk, hs⟩ := ih hr
    refine ⟨by rw [List.map_cons, hk], ?_⟩
    intro o hm
    rcases List.mem_cons.mp hm with rfl | hm
    · exact ⟨rfl, ho⟩
    · exact hs o hm

end Action

namespace Document

variable {classes : Registry} {formats : Formats} {strict : Bool}

theorem exists_of_apply {d e : Document} {c : Contribution} {ts : List Takeover}
    (h : d.apply strict c = .ok (e, ts)) :
    ∃ m, putModels strict d.definitions c.models = .ok m ∧
      e = { d with
        paths := putOperations d.paths c.operations
        definitions := m.definitions } := by
  obtain ⟨m, hm, h⟩ := exists_of_bind_ok h
  exact ⟨m, hm, (congrArg Prod.fst (Except.ok.inj h)).symm⟩

theorem paths_of_apply {d e : Document} {c : Contribution} {ts : List Takeover}
    (h : d.apply strict c = .ok (e, ts)) : e.paths = putOperations d.paths c.operations := by
  obtain ⟨m, -, rfl⟩ := exists_of_apply h
  rfl

theorem exists_of_merge {d e : Document} {a : Action} {ts : List Takeover}
    (h : d.merge classes formats strict a = .ok (e, ts)) :
    ∃ c, a.contribution classes formats = .ok c ∧ d.apply strict c = .ok (e, ts) :=
  exists_of_bind_ok h

section

variable {α : Type} {step : Document → α → Except Fault (Document × List Takeover)}

theorem exists_of_run_cons {d e : Document} {a : α} {as : List α}
    (h : (run step d (a :: as)).result = .ok e) :
    ∃ d' ts, step d a = .ok (d', ts) ∧ (run step d' as).result = .ok e := by
  unfold run at h
  split at h
  next => cases h
  next d' ts hs => exact ⟨d', ts, hs, h⟩

theorem run_cons_of_step {d d' : Document} {a : α} {ts : List Takeover} (as : List α)
    (h : step d a = .ok (d', ts)) :
    (run step d (a :: as)).result = (run step d' as).result := by
  simp only [run, h]

/-- In a run that succeeds every step does, wherever it starts. -/
theorem exists_step_of_run {d e : Document} {as : List α} (h : (run step d as).result = .ok e) :
    ∀ a ∈ as, ∃ d₁ r, step d₁ a = .ok r := by
  induction as generalizing d with
  | nil => simp
  | cons a as ih =>
    obtain ⟨d', ts, hstep, hrest⟩ := exists_of_run_cons h
    exact List.forall_mem_cons.mpr ⟨⟨d, (d', ts), hstep⟩, ih hrest⟩

/-- A run ends as one of other steps does that go where its own go. -/
theorem run_of_steps {step' : Document → α → Except Fault (Document × List Takeover)}
    (hs : ∀ d a r, step d a = .ok r → step' d a = .ok r) {d e : Document} {as : List α}
    (h : (run step d as).result = .ok e) : (run step' d as).result = .ok e := by
  induction as generalizing d with
  | nil => exact h
  | cons a as ih =>
    obtain ⟨d', ts, hstep, hrest⟩ := exists_of_run_cons h
    rw [run_cons_of_step as (hs d a _ hstep)]
    exact ih hrest

/-- A run whose steps never fail succeeds. -/
theorem exists_run {as : List α} (h : ∀ a ∈ as, ∀ d, ∃ r, step d a = .ok r) (d : Document) :
    ∃ e, (run step d as).result = .ok e := by
  induction as generalizing d with
  | nil => exact ⟨d, rfl⟩
  | cons a as ih =>
    obtain ⟨⟨d', ts⟩, hstep⟩ := h a List.mem_cons_self d
    obtain ⟨e, he⟩ := ih (fun b hb => h b (List.mem_cons_of_mem _ hb)) d'
    exact ⟨e, by rw [run_cons_of_step as hstep, he]⟩

/-- What every step preserves, a run preserves. -/
theorem run_invariant {P : Document → Prop} {d e : Document} {as : List α} (hd : P d)
    (hs : ∀ a ∈ as, ∀ d d' ts, P d → step d a = .ok (d', ts) → P d')
    (h : (run step d as).result = .ok e) : P e := by
  induction as generalizing d with
  | nil =>
    cases Except.ok.inj h
    exact hd
  | cons a as ih =>
    obtain ⟨d', ts, hstep, hrest⟩ := exists_of_run_cons h
    exact ih (hs a List.mem_cons_self d d' ts hd hstep)
      (fun b hb => hs b (List.mem_cons_of_mem _ hb)) hrest

theorem run_append {d : Document} {as bs : List α} {e : Document}
    (h : (run step d (as ++ bs)).result = .ok e) :
    ∃ d', (run step d as).result = .ok d' ∧ (run step d' bs).result = .ok e := by
  induction as generalizing d with
  | nil => exact ⟨d, rfl, h⟩
  | cons a as ih =>
    obtain ⟨d', ts, hstep, hrest⟩ := exists_of_run_cons h
    obtain ⟨d'', hd, he⟩ := ih hrest
    exact ⟨d'', by rw [run_cons_of_step as hstep, hd], he⟩

end

theorem exists_contributions {d e : Document} {actions : List Action}
    (h : (d.extend classes formats strict actions).result = .ok e) :
    ∃ cs, actions.mapM (Action.contribution classes formats) = .ok cs := by
  refine exists_mapM fun a ha => ?_
  obtain ⟨d₁, ⟨e₁, ts⟩, hstep⟩ := exists_step_of_run h a ha
  obtain ⟨c, hc, -⟩ := exists_of_merge hstep
  exact ⟨c, hc⟩

end Document

end RouteAtlas
