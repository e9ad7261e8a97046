import Mathlib
import RouteAtlas.Proofs.Coverage
import RouteAtlas.Proofs.DefinitionFold

/-!
Which model keeps a short name that several claim. A model takes the name from the one before it
only if its identity is not among the definitions when its contribution begins: one that stood there
then does not come back, even where another takes its place in between.
-/

namespace RouteAtlas

variable {classes : Registry}

/-- The last model of a short name. -/
def Models.last? (ms : Models) (n : String) : Option (String × Schema) :=
  ms.reverse.find? fun m => m.2.name = n

namespace Models

theorem last?_append (ms ns : Models) (n : String) :
    last? (ms ++ ns) n = (last? ns n).or (last? ms n) := by
  simp [last?, List.find?_append]

theorem last?_eq_none {ms : Models} {n : String} :
    ms.last? n = none ↔ ∀ m ∈ ms, m.2.name ≠ n := by
  simp [last?]

theorem mem_of_last? {ms : Models} {n : String} {m : String × Schema}
    (h : ms.last? n = some m) : m ∈ ms ∧ m.2.name = n :=
  ⟨List.mem_reverse.mp (List.mem_of_find?_eq_some h), by simpa using List.find?_some h⟩

theorem find?_named (ms : Models) (n : String) :
    (ms.named.reverse.find? fun e => e.1 = n).map (·.2) = (ms.last? n).map (·.2) := by
  simp only [named, last?, ← List.map_reverse, List.find?_map, Option.map_map]
  rfl

theorem exists_of_last? {ms : Models} {n : String} {m : String × Schema}
    (h : ms.last? n = some m) :
    ∃ pre post, ms = pre ++ m :: post ∧ ∀ k ∈ post, k.2.name ≠ n := by
  obtain ⟨-, as, bs, hms, hne⟩ := List.find?_eq_some_iff_append.mp h
  refine ⟨bs.reverse, as.reverse, ?_, fun k hk => ?_⟩
  · have hr := congrArg List.reverse hms
    simpa using hr
  · simpa using hne k (List.mem_reverse.mp hk)

theorem last?_of_split {pre post : Models} {n : String} {m : String × Schema} (hm : m.2.name = n)
    (h : ∀ k ∈ post, k.2.name ≠ n) : last? (pre ++ m :: post) n = some m := by
  have hpost := last?_eq_none.mpr h
  rw [last?_append, show m :: post = [m] ++ post from rfl, last?_append, hpost]
  simp [last?, hm]

/-- A last model that is unknown is the last one of those that are. -/
theorem last?_unknown_of_new {ms : Models} {known : List String} {n : String}
    {m : String × Schema} (h : ms.last? n = some m) (hm : m.1 ∉ known) :
    (ms.unknown known).last? n = some m := by
  obtain ⟨pre, post, rfl, hpost⟩ := exists_of_last? h
  have hsplit : unknown (pre ++ m :: post) known =
      unknown pre known ++ m :: unknown post known := by
    simp [unknown, hm]
  rw [hsplit]
  exact last?_of_split (mem_of_last? h).2 fun k hk => hpost k (mem_unknown.mp hk).1

end Models

/-- The contribution that brings the last model of a name. -/
theorem exists_carrier {cs : List Contribution} {n : String} {m : String × Schema}
    (h : Models.last? (cs.flatMap (·.models)) n = some m) :
    ∃ pre c post, cs = pre ++ c :: post ∧ c.models.last? n = some m ∧
      ∀ b ∈ post, ∀ k ∈ b.models, k.2.name ≠ n := by
  induction cs with
  | nil => cases h
  | cons c cs ih =>
    rw [List.flatMap_cons, Models.last?_append] at h
    cases hrest : Models.last? (cs.flatMap (·.models)) n with
    | some k =>
      rw [hrest, Option.some_or] at h
      obtain ⟨pre, b, post, rfl, hb, hpost⟩ := ih (hrest.trans h)
      exact ⟨c :: pre, b, post, rfl, hb, hpost⟩
    | none =>
      rw [hrest, Option.none_or] at h
      refine ⟨[], c, cs, rfl, h, fun b hb k hk => ?_⟩
      exact Models.last?_eq_none.mp hrest k (List.mem_flatMap.mpr ⟨b, hb, hk⟩)

/-- What contributions bring: each identity once, and it is that of the model. -/
theorem Action.identity_of_contribution {a : Action} {c : Contribution}
    (h : a.contribution classes .standard = .ok c) :
    (c.models.map (·.1)).Nodup ∧ ∀ m ∈ c.models, m.2.identity = m.1 := by
  have hcol := collected_of_contribution h
  refine ⟨hcol.nodup (by simp), fun m hm => ?_⟩
  obtain ⟨d, fields, hd, -⟩ := (hcol.described m hm).resolve_left (by simp)
  exact hd.schema_identity

namespace Document

variable {strict : Bool}

theorem lookup_of_apply {d e : Document} {c : Contribution} {ts : List Takeover} {n : String}
    (hc : (c.models.map (·.1)).Nodup) (h : d.apply strict c = .ok (e, ts)) :
    e.definitions.lookup n =
      (((c.models.unknown (identities d.definitions)).last? n).map (·.2)).or
        (d.definitions.lookup n) := by
  rw [definitions_of_apply hc h, lookup_putAll, Models.find?_named]

/-- Contributions without a model of the name leave it alone. -/
theorem lookup_of_fold {d e : Document} {cs : List Contribution} {n : String}
    (hcs : ∀ c ∈ cs, (c.models.map (·.1)).Nodup) (hn : ∀ c ∈ cs, ∀ k ∈ c.models, k.2.name ≠ n)
    (h : (fold strict d cs).result = .ok e) : e.definitions.lookup n = d.definitions.lookup n := by
  refine run_invariant (P := fun e => e.definitions.lookup n = d.definitions.lookup n) rfl ?_ h
  intro c hc d₁ d₂ ts hd hstep
  have hnone : (c.models.unknown (identities d₁.definitions)).last? n = none :=
    Models.last?_eq_none.mpr fun k hk => hn c hc k (Models.mem_unknown.mp hk).1
  rw [lookup_of_apply (hcs c hc) hstep, hnone]
  exact hd

/-- The last model of a name in a contribution stays if it is not known, and else only where none of
its name is put in and it stood there before. -/
theorem winner_of_apply {d e : Document} {c : Contribution} {ts : List Takeover} {n : String}
    {m : String × Schema} (hc : (c.models.map (·.1)).Nodup)
    (hid : ∀ k ∈ c.models, k.2.identity = k.1) (hm : c.models.last? n = some m)
    (h : d.apply strict c = .ok (e, ts)) :
    (e.definitions.lookup n).map Schema.identity = some m.1 ↔
      m.1 ∉ identities d.definitions ∨
        (∀ k ∈ c.models, k.2.name = n → k.1 ∈ identities d.definitions) ∧
          (d.definitions.lookup n).map Schema.identity = some m.1 := by
  have hl := lookup_of_apply (n := n) hc h
  by_cases hknown : m.1 ∈ identities d.definitions
  · cases hlast : (c.models.unknown (identities d.definitions)).last? n with
    | some k =>
      -- Another model of the name is put in, and it is unknown as the last one is not.
      obtain ⟨hk, hkn⟩ := Models.mem_of_last? hlast
      obtain ⟨hkc, hkd⟩ := Models.mem_unknown.mp hk
      rw [hlast] at hl
      have hne : k.1 ≠ m.1 := fun he => hkd (he ▸ hknown)
      simp only [hl, Option.map_some, Option.some_or, hid k hkc, Option.some.injEq, hne, hknown,
        not_true_eq_false, false_or, false_iff, not_and]
      exact fun hall => absurd (hall k hkc hkn) hkd
    | none =>
      rw [hlast, Option.map_none, Option.none_or] at hl
      have hall : ∀ k ∈ c.models, k.2.name = n → k.1 ∈ identities d.definitions := by
        intro k hk hkn
        refine Decidable.byContradiction fun hkd => ?_
        exact Models.last?_eq_none.mp hlast k (Models.mem_unknown.mpr ⟨hk, hkd⟩) hkn
      rw [hl]
      exact ⟨fun hw => Or.inr ⟨hall, hw⟩, fun hw => (hw.resolve_left (not_not_intro hknown)).2⟩
  · rw [Models.last?_unknown_of_new hm hknown] at hl
    rw [hl]
    simp [hid m (Models.mem_of_last? hm).1, hknown]

/-- Who keeps a short name when contributions are put in one after the other: the last model of the
name does exactly if its identity is not among the definitions when its contribution begins, or if
it holds the name then and no model that comes with it is a new one of the name. -/
theorem winner_of_fold {actions : List Action} {cs : List Contribution} {d : Document} {n : String}
    {m : String × Schema}
    (hcs : actions.mapM (Action.contribution classes .standard) = .ok cs)
    (hm : Models.last? (cs.flatMap (·.models)) n = some m) :
    ∃ e pre c post d', (fold false d cs).result = .ok e ∧ cs = pre ++ c :: post ∧
      c.models.last? n = some m ∧ (∀ b ∈ post, ∀ k ∈ b.models, k.2.name ≠ n) ∧
      (fold false d pre).result = .ok d' ∧
      ((e.definitions.lookup n).map Schema.identity = some m.1 ↔
        m.1 ∉ identities d'.definitions ∨
          (∀ k ∈ c.models, k.2.name = n → k.1 ∈ identities d'.definitions) ∧
            (d'.definitions.lookup n).map Schema.identity = some m.1) := by
  have hid : ∀ c ∈ cs, (c.models.map (·.1)).Nodup ∧ ∀ k ∈ c.models, k.2.identity = k.1 := by
    intro c hc
    obtain ⟨a, -, ha⟩ := exists_of_mem_mapM hcs hc
    exact Action.identity_of_contribution ha
  obtain ⟨pre, c, post, rfl, hlast, hpost⟩ := exists_carrier hm
  obtain ⟨e, he⟩ := exists_fold (pre ++ c :: post) d
  obtain ⟨d', hd', hrest⟩ := run_append he
  obtain ⟨d'', ts, hstep, hend⟩ := exists_of_run_cons hrest
  obtain ⟨hnodup, hself⟩ := hid c (by simp)
  have hframe := lookup_of_fold (fun b hb => (hid b (by simp [hb])).1) hpost hend
  refine ⟨e, pre, c, post, d', he, rfl, hlast, hpost, hd', ?_⟩
  rw [hframe]
  exact winner_of_apply hnodup hself hlast hstep

/-- The definitions depend on the models of the contributions alone. -/
theorem definitions_of_fold (strict : Bool) (cs : List Contribution) (d : Document) :
    (fold strict d cs).result.map (·.definitions) =
      (cs.map (·.models)).foldlM (fun defs ms => (putModels strict defs ms).map (·.definitions))
        d.definitions := by
  induction cs generalizing d with
  | nil => rfl
  | cons c cs ih =>
    rw [List.map_cons, List.foldlM_cons]
    cases hm : putModels strict d.definitions c.models with
    | error f =>
      have hstep : d.apply strict c = .error f := by
        rw [apply, hm]
        rfl
      simp only [fold, run, hstep]
      rfl
    | ok m =>
      have hstep : d.apply strict c =
          .ok ({ d with
            paths := putOperations d.paths c.operations
            definitions := m.definitions }, m.takeovers) := by
        rw [apply, hm]
        rfl
      rw [fold, run_cons_of_step cs hstep]
      exact ih _

/-- Users, and those of an older kind under the same name. -/
def usersOfTwoKinds : Registry where
  decls := [
    ⟨"User", .record false, "User", "app", "User", none, [], []⟩,
    ⟨"Legacy", .record false, "User", "app", "Legacy.User", none, [], []⟩]

def answering (path : String) (results : List ResultInfo) : Action where
  method := "GET"
  path := .literal (.str path)
  query := .empty
  headers := .empty
  results := results
  body := .absent
  consumes := []
  produces := []

/-- First the newer users, and then the older before the newer. -/
def answersWithUsers : List Action :=
  [answering "new" [.ofType (.declared "User")],
    answering "all" [.ofType (.declared "Legacy"), .statusOfType (.int 201) (.declared "User")]]

def newUser : String × Schema :=
  ("app.User", ⟨some "app.User", "User", "object", none, [], none⟩)

def oldUser : String × Schema :=
  ("app.Legacy.User", ⟨some "app.Legacy.User", "User", "object", none, [], none⟩)

theorem exists_contributions_with_users :
    ∃ cs, answersWithUsers.mapM (Action.contribution usersOfTwoKinds .standard) = .ok cs ∧
      cs.map (·.models) = [[newUser], [oldUser, newUser]] := by
  refine exists_of_map_ok ?_
  cbv

theorem last_of_users {cs : List Contribution}
    (h : cs.map (·.models) = [[newUser], [oldUser, newUser]]) :
    Models.last? (cs.flatMap (·.models)) "User" = some newUser := by
  rw [List.flatMap_def, h]
  rfl

theorem winner_of_fold_users :
    ∃ cs e pre c post d', answersWithUsers.mapM (Action.contribution usersOfTwoKinds .standard) =
        .ok cs ∧
      (fold false (ofInfo ⟨"API", "1.0.0", none⟩) cs).result = .ok e ∧ cs = pre ++ c :: post ∧
      (fold false (ofInfo ⟨"API", "1.0.0", none⟩) pre).result = .ok d' ∧
      ((e.definitions.lookup "User").map Schema.identity = some newUser.1 ↔
        newUser.1 ∉ identities d'.definitions ∨
          (∀ k ∈ c.models, k.2.name = "User" → k.1 ∈ identities d'.definitions) ∧
            (d'.definitions.lookup "User").map Schema.identity = some newUser.1) := by
  obtain ⟨cs, hcs, hmodels⟩ := exists_contributions_with_users
  obtain ⟨e, pre, c, post, d', he, hsplit, -, -, hd', hiff⟩ :=
    winner_of_fold (d := ofInfo ⟨"API", "1.0.0", none⟩) hcs (last_of_users hmodels)
  exact ⟨cs, e, pre, c, post, d', hcs, he, hsplit, hd', hiff⟩

/-- The newer user comes last, and the older one stays. -/
theorem exists_lost_last_writer :
    ∃ cs e, answersWithUsers.mapM (Action.contribution usersOfTwoKinds .standard) = .ok cs ∧
      (fold false (ofInfo ⟨"API", "1.0.0", none⟩) cs).result = .ok e ∧
      Models.last? (cs.flatMap (·.models)) "User" = some newUser ∧
      (e.definitions.lookup "User").map Schema.identity ≠ some newUser.1 := by
  obtain ⟨cs, hcs, hmodels⟩ := exists_contributions_with_users
  have hdefs := definitions_of_fold false cs (ofInfo ⟨"API", "1.0.0", none⟩)
  rw [hmodels] at hdefs
  have hold : [[newUser], [oldUser, newUser]].foldlM
      (fun defs ms => (putModels false defs ms).map (·.definitions)) [] =
      .ok [("User", oldUser.2)] := rfl
  obtain ⟨e, he, hed⟩ := exists_of_map_ok (hdefs.trans hold)
  refine ⟨cs, e, hcs, he, last_of_users hmodels, ?_⟩
  rw [hed]
  decide +kernel

end Document

end RouteAtlas
