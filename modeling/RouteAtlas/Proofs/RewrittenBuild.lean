import RouteAtlas.Proofs.PathFold
import RouteAtlas.Proofs.RuleRewriting

/-!
What is built of actions does not depend on how their path rules are written. Templates, summary and
parameters of a path come from the steps of its sequences that a document shows, and a sequence that
comes twice in a row brings nothing new: neither a parameter, nor an operation.
-/

namespace RouteAtlas

/-- Both fail alike, or both succeed with results that are so related. -/
inductive Alike {ε α β : Type} (R : α → β → Prop) : Except ε α → Except ε β → Prop
  | ok {a : α} {b : β} : R a b → Alike R (.ok a) (.ok b)
  | error (e : ε) : Alike R (.error e) (.error e)

namespace Alike

variable {ε α β γ δ : Type} {R : α → β → Prop} {S : γ → δ → Prop}

theorem bind {x : Except ε α} {y : Except ε β} (h : Alike R x y) {f : α → Except ε γ}
    {g : β → Except ε δ} (hfg : ∀ a b, R a b → Alike S (f a) (g b)) :
    Alike S (x.bind f) (y.bind g) := by
  cases h with
  | ok hab => exact hfg _ _ hab
  | error e => exact .error e

theorem of_map {x : Except ε α} {y : Except ε β} {f : α → γ} {g : β → δ}
    (h : Alike S (x.map f) (y.map g)) : Alike (fun a b => S (f a) (g b)) x y := by
  cases x with
  | ok a =>
    cases y with
    | ok b =>
      cases h with
      | ok hab => exact .ok hab
    | error e => cases h
  | error e =>
    cases y with
    | ok b => cases h
    | error e' => cases h; exact .error e

theorem of_eq {x y : Except ε α} (h : x = y) : Alike Eq x y := by
  subst h
  cases x with
  | ok a => exact .ok rfl
  | error e => exact .error e

theorem eq {x y : Except ε α} (h : Alike Eq x y) : x = y := by
  cases h with
  | ok hab => rw [hab]
  | error e => rfl

end Alike

namespace Doubled

variable {ε α β : Type} {p : α → Prop} {xs ys : List α}

theorem alike_mapM (h : Doubled p xs ys) (f : α → Except ε β) :
    Alike (Doubled fun _ => True) (xs.mapM f) (ys.mapM f) := by
  induction h with
  | nil => exact .ok .nil
  | once a _ ih =>
    rw [List.mapM_cons, List.mapM_cons]
    cases f a with
    | error e => exact .error e
    | ok b => exact ih.bind fun bs cs hbc => .ok (.once b hbc)
  | @twice xs ys a _ _ ih =>
    rw [List.mapM_cons, List.mapM_cons, List.mapM_cons]
    cases f a with
    | error e => exact .error e
    | ok b =>
      show Alike _ ((xs.mapM f).bind fun bs => .ok (b :: bs))
        (((ys.mapM f).bind fun bs => .ok (b :: bs)).bind fun bs => .ok (b :: bs))
      generalize xs.mapM f = bs, ys.mapM f = cs at ih
      cases ih with
      | ok hbc => exact .ok (.twice trivial hbc)
      | error e => exact .error e

/-- A step that does nothing the second time makes the same of elements that come twice. -/
theorem foldlM_eq {f : β → α → Except ε β} (h : Doubled p xs ys)
    (hf : ∀ b a c, f b a = .ok c → f c a = .ok c) (b : β) : xs.foldlM f b = ys.foldlM f b := by
  induction h generalizing b with
  | nil => rfl
  | once a _ ih => simp only [List.foldlM_cons, ih]
  | @twice xs ys a _ _ ih =>
    simp only [List.foldlM_cons, ih]
    cases ha : f b a with
    | error e => rfl
    | ok c =>
      show ys.foldlM f c = (f c a).bind fun c => ys.foldlM f c
      rw [hf b a c ha]
      rfl

theorem foldl_eq {f : β → α → β} (h : Doubled p xs ys) (hf : ∀ b a, f (f b a) a = f b a) (b : β) :
    xs.foldl f b = ys.foldl f b := by
  induction h generalizing b with
  | nil => rfl
  | once a _ ih => exact ih (f b a)
  | twice _ _ ih =>
    simp only [List.foldl_cons, hf]
    exact ih _

theorem findSome?_eq {f : α → Option β} (h : Doubled p xs ys) :
    xs.findSome? f = ys.findSome? f := by
  induction h with
  | nil => rfl
  | once a _ ih => simp only [List.findSome?_cons, ih]
  | @twice xs ys a _ _ ih =>
    simp only [List.findSome?_cons, ih]
    cases f a <;> rfl

end Doubled

theorem addNewNames_of_names {acc ps : List SimpleParameter}
    (h : ∀ p ∈ ps, ∃ q ∈ acc, q.name = p.name) : addNewNames acc ps = acc := by
  induction ps with
  | nil => rfl
  | cons p ps ih =>
    obtain ⟨⟨q, hq, hqp⟩, hps⟩ := List.forall_mem_cons.mp h
    have hany : (acc.any fun r => decide (r.name = p.name)) = true :=
      List.any_eq_true.mpr ⟨q, hq, by simpa using hqp⟩
    rw [addNewNames, List.foldl_cons, if_pos hany]
    exact ih hps

theorem exists_name_addNewNames (ps acc : List SimpleParameter) :
    (∀ q ∈ acc, q ∈ addNewNames acc ps) ∧ ∀ p ∈ ps, ∃ q ∈ addNewNames acc ps, q.name = p.name := by
  induction ps generalizing acc with
  | nil => exact ⟨fun _ => id, by simp⟩
  | cons p ps ih =>
    rw [addNewNames, List.foldl_cons]
    split
    next hany =>
      obtain ⟨q, hq, hqp⟩ := List.any_eq_true.mp hany
      obtain ⟨hkeep, hnew⟩ := ih acc
      exact ⟨hkeep, List.forall_mem_cons.mpr ⟨⟨q, hkeep q hq, by simpa using hqp⟩, hnew⟩⟩
    next =>
      obtain ⟨hkeep, hnew⟩ := ih (acc ++ [p])
      exact ⟨fun q hq => hkeep q (by simp [hq]),
        List.forall_mem_cons.mpr ⟨⟨p, hkeep p (by simp), rfl⟩, hnew⟩⟩

theorem addNewNames_twice (acc ps : List SimpleParameter) :
    addNewNames (addNewNames acc ps) ps = addNewNames acc ps :=
  addNewNames_of_names (exists_name_addNewNames ps acc).2

namespace PathRule

variable {classes : Registry} {formats : Formats} {r s : PathRule}

theorem alike_linearize (h : Rewrites r s) :
    Alike (fun l m => Doubled (fun _ => True) (l.sequences.map Step.shown)
      (m.sequences.map Step.shown)) r.linearize s.linearize := by
  have hbranches : Alike (Doubled fun _ => True) (Branch.results r.shownBranches)
      (Branch.results s.shownBranches) := (doubled_of_rewrites h).alike_mapM Branch.result
  rw [shownBranches, shownBranches, Branch.results_shown, Branch.results_shown,
    ← sequences_of_linearize, ← sequences_of_linearize] at hbranches
  exact hbranches.of_map.of_map

theorem alike_templates (h : Rewrites r s) :
    Alike (Doubled fun _ => True) r.templates s.templates := by
  refine (alike_linearize h).bind fun l m hlm => ?_
  have hshown := hlm.alike_mapM Step.rendered
  simpa only [List.mapM_map, Function.comp_def, Step.rendered_shown] using hshown

theorem summary_of_rewrites (h : Rewrites r s) : s.summary = r.summary := by
  have hfind : Alike Eq r.summary s.summary := by
    refine (alike_linearize h).bind fun l m hlm => ?_
    have hshown := hlm.findSome?_eq (f := summaryOf)
    simp only [List.findSome?_map, Function.comp_def, summaryOf, Step.summary_shown] at hshown
    exact .ok hshown
  exact hfind.eq.symm

/-- Does a sequence have the template? Without one all do. -/
def isChosen (template : Option String) (steps : List Step) : Except Fault Bool :=
  match template with
  | some t => (Step.rendered steps).map fun u => decide (u = t)
  | none => .ok true

/-- Adds the parameters of a sequence that has the template. -/
def addParameters (classes : Registry) (template : Option String) (acc : List SimpleParameter)
    (steps : List Step) : Except Fault (List SimpleParameter) :=
  (isChosen template steps).bind fun chosen =>
    if chosen then (Step.parameters classes steps).bind fun ps => .ok (addNewNames acc ps)
    else .ok acc

theorem parameters_eq (classes : Registry) (r : PathRule) (template : Option String) :
    r.parameters classes template =
      r.linearize.bind fun l => l.sequences.foldlM (addParameters classes template) [] := by
  cases template <;> rfl

theorem addParameters_shown (template : Option String) (acc : List SimpleParameter)
    (steps : List Step) : addParameters classes template acc (Step.shown steps) =
      addParameters classes template acc steps := by
  cases template <;>
    simp only [addParameters, isChosen, Step.rendered_shown, Step.parameters_shown]

theorem addParameters_twice {template : Option String} {acc out : List SimpleParameter}
    {steps : List Step} (h : addParameters classes template acc steps = .ok out) :
    addParameters classes template out steps = .ok out := by
  obtain ⟨chosen, hchosen, h⟩ := exists_of_bind_ok h
  rw [addParameters, hchosen]
  cases chosen with
  | false => rfl
  | true =>
    obtain ⟨ps, hps, h⟩ := exists_of_bind_ok h
    cases Except.ok.inj h
    show (Step.parameters classes steps).bind _ = _
    rw [hps]
    exact congrArg Except.ok (addNewNames_twice acc ps)

theorem parameters_of_rewrites (h : Rewrites r s) (template : Option String) :
    s.parameters classes template = r.parameters classes template := by
  have hfold : Alike Eq (r.parameters classes template) (s.parameters classes template) := by
    rw [parameters_eq, parameters_eq]
    refine (alike_linearize h).bind fun l m hlm => ?_
    have hshown := hlm.foldlM_eq (f := addParameters classes template)
      (fun _ _ _ => addParameters_twice) []
    simp only [List.foldlM_map, addParameters_shown] at hshown
    exact .of_eq hshown
  exact hfold.eq.symm

end PathRule

namespace Action

variable {classes : Registry} {formats : Formats}

theorem operations_eq_mapM (a : Action) (v : Verb) (ts : List String) :
    a.operations classes formats v ts =
      ts.mapM fun t => (a.operation classes formats t).bind fun op => .ok (t, v, op) := by
  induction ts with
  | nil => rfl
  | cons t ts ih =>
    rw [List.mapM_cons, ← ih]
    show (a.operation classes formats t).bind _ = _
    cases a.operation classes formats t <;> rfl

theorem operation_of_rewrites {a : Action} {s : PathRule} (h : a.path.Rewrites s) (t : String) :
    { a with path := s }.operation classes formats t = a.operation classes formats t := by
  simp only [operation, parameters, PathRule.summary_of_rewrites h,
    PathRule.parameters_of_rewrites h]
  rfl

/-- An action with a rewritten path contributes the same, but that some operations come twice. -/
theorem alike_contribution {a : Action} {s : PathRule} (h : a.path.Rewrites s) :
    Alike (fun c c' => Doubled (fun _ => True) c.operations c'.operations ∧ c'.models = c.models)
      (a.contribution classes formats) ({ a with path := s }.contribution classes formats) := by
  refine (Alike.of_eq (x := Verb.ofMethod a.method) rfl).bind fun v w hvw => ?_
  subst hvw
  refine (PathRule.alike_templates h).bind fun ts us hts => ?_
  have hops : Alike (Doubled fun _ => True) (a.operations classes formats v ts)
      ({ a with path := s }.operations classes formats v us) := by
    simp only [operations_eq_mapM, operation_of_rewrites h]
    exact hts.alike_mapM _
  refine hops.bind fun ops ops' hops => ?_
  refine (Alike.of_eq (x := a.collect classes formats []) rfl).bind fun ms ns hms => ?_
  exact .ok ⟨hops, hms.symm⟩

/-- The second action is the first with its path rule rewritten, any number of times and either
way. -/
def Rewritten (a b : Action) : Prop :=
  b = { a with path := b.path } ∧ Relation.EqvGen PathRule.Rewrites a.path b.path

end Action

namespace Document

variable {classes : Registry} {formats : Formats} {strict : Bool}

theorem putOperations_of_doubled {ops ops' : List (String × Verb × Operation)}
    (h : Doubled (fun _ => True) ops ops') (paths : List (String × PathItem)) :
    putOperations paths ops' = putOperations paths ops :=
  (h.foldl_eq (fun paths op => putOperation_of_operationAt
    (operationAt_putOperation_self paths op)) paths).symm

theorem merge_of_rewrites {a : Action} {s : PathRule} (h : a.path.Rewrites s) (d : Document) :
    d.merge classes formats strict { a with path := s } = d.merge classes formats strict a := by
  have hmerge : Alike Eq (d.merge classes formats strict a)
      (d.merge classes formats strict { a with path := s }) := by
    refine (Action.alike_contribution h).bind fun c c' hc => .of_eq ?_
    rw [apply, apply, hc.2, putOperations_of_doubled hc.1]
  exact hmerge.eq.symm

theorem merge_of_rewritten {a b : Action} (h : a.Rewritten b) (d : Document) :
    d.merge classes formats strict b = d.merge classes formats strict a := by
  obtain ⟨hb, hpath⟩ := h
  have hall : ∀ r s, Relation.EqvGen PathRule.Rewrites r s →
      d.merge classes formats strict { a with path := s } =
        d.merge classes formats strict { a with path := r } := by
    intro r s hrs
    induction hrs with
    | rel r s hrs => exact merge_of_rewrites (a := { a with path := r }) hrs d
    | refl r => rfl
    | symm r s _ ih => exact ih.symm
    | trans r s t _ _ ih₁ ih₂ => exact ih₂.trans ih₁
  rw [hb]
  exact hall a.path b.path hpath

theorem run_eq_of_forall₂ {α : Type}
    {step : Document → α → Except Fault (Document × List Takeover)} {xs ys : List α}
    (h : List.Forall₂ (fun a b => ∀ d, step d b = step d a) xs ys) (d : Document) :
    run step d ys = run step d xs := by
  induction h generalizing d with
  | nil => rfl
  | cons hab _ ih => simp only [run, hab d, ih]

/-- Rewriting the path rules of actions changes nothing of what is built of them: not the document
with its order, not the names that change hands, and not the fault where one occurs. -/
theorem build_eq_of_rewritten {xs ys : List Action} (h : List.Forall₂ Action.Rewritten xs ys)
    (info : Option Info) (previous : Option Document) :
    build classes formats strict info previous ys =
      build classes formats strict info previous xs :=
  run_eq_of_forall₂ (h.imp fun _ _ hab d => merge_of_rewritten hab d) _

/-- All below a directory; what follows a tail is never come to. -/
def filesRule : PathRule :=
  .both (.both (.literal (.str "files")) .tail)
    (.either (.capture (.str "id") (.scalar .int) .null) .root)

/-- The same with the choice in front, which makes two sequences of the one. -/
def filesTwice : PathRule :=
  .either (.both (.both (.literal (.str "files")) .tail)
    (.capture (.str "id") (.scalar .int) .null)) (.both (.literal (.str "files")) .tail)

theorem build_eq_of_rewritten_files :
    ∃ d, (build ∅ .standard false none none
        [{ usersAction "All" with path := filesRule }]).result = .ok d ∧
      (build ∅ .standard false none none
        [{ usersAction "All" with path := filesTwice }]).result = .ok d ∧
      filesTwice.templates = .ok ["/files/\x7btail...\x7d", "/files/\x7btail...\x7d"] ∧
      d.paths.map (·.1) = ["/files/\x7btail...\x7d"] := by
  have hchoice := PathRule.Rewrites.choiceBehind (a := .both (.literal (.str "files")) .tail)
    (.capture (.str "id") (.scalar .int) .null) .root rfl
  have hroot := PathRule.Rewrites.rootBehind (.both (.literal (.str "files")) .tail)
  have hpath : Relation.EqvGen PathRule.Rewrites filesRule filesTwice :=
    .trans _ _ _ (.rel _ _ hchoice) (.rel _ _ (.eitherRight _ hroot))
  have heq : build ∅ .standard false none none [{ usersAction "All" with path := filesTwice }] =
      build ∅ .standard false none none [{ usersAction "All" with path := filesRule }] :=
    build_eq_of_rewritten (.cons ⟨rfl, hpath⟩ .nil) none none
  have hok : (build ∅ .standard false none none
      [{ usersAction "All" with path := filesRule }]).result.map (fun d => d.paths.map (·.1)) =
        .ok ["/files/\x7btail...\x7d"] := by cbv
  obtain ⟨d, hd, hpaths⟩ := exists_of_map_ok hok
  exact ⟨d, hd, by rw [heq, hd], by cbv, hpaths⟩

end Document

end RouteAtlas
