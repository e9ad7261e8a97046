import RouteAtlas.Proofs.BuildSteps
import RouteAtlas.Route.Linear

/-!
The sequences of a path rule from its form alone. A rule has branches in order, each with the steps
that it takes and the way it ends; rules that follow one another go on from those that are open.
Linearisation keeps copies of all rules still to come for each alternative, and gives the branches
of the rules in sequence, in order, unless one of them is stuck.
-/

namespace RouteAtlas

/-- How a branch of a rule ends. -/
inductive Ending where
  /-- Open for the steps of what follows. -/
  | ongoing
  /-- Closed by a tail. -/
  | closed
  /-- Stuck at a value that is no rule. -/
  | stuck (v : Value)

structure Branch where
  steps : List Step
  ending : Ending

namespace Branch

/-- The branch with steps in front of it. -/
def after (steps : List Step) (b : Branch) : Branch := ⟨steps ++ b.steps, b.ending⟩

/-- The branch with what follows it: each continuation of an open one, and else itself. -/
def followedBy (more : List Branch) (b : Branch) : List Branch :=
  match b.ending with
  | .ongoing => more.map (after b.steps)
  | _ => [b]

/-- The steps of a branch that is not stuck. -/
def result (b : Branch) : Except Fault (List Step) :=
  match b.ending with
  | .stuck v => .error (.notPathRule v.literal)
  | _ => .ok b.steps

/-- The sequences of branches in order, or the fault of the first that is stuck. -/
def results (bs : List Branch) : Except Fault (List (List Step)) := bs.mapM result

end Branch

open Branch

namespace PathRule

/-- The branches of a rule: those of the left before those of the right alternative, and in a
sequence those of the left in order, each with all ways to go on. -/
def branches : PathRule → List Branch
  | .literal s => [⟨[.literal s], .ongoing⟩]
  | .capture n t d => [⟨[.capture n t d], .ongoing⟩]
  | .tail => [⟨[.tail], .closed⟩]
  | .both l r => l.branches.flatMap (followedBy r.branches)
  | .either l r => l.branches ++ r.branches
  | .noted r n => r.branches.map (after [.note (r := r) n])
  | .foreign v => [⟨[], .stuck v⟩]

/-- The branches of rules that follow one another. -/
def branchesAll : List PathRule → List Branch
  | [] => [⟨[], .ongoing⟩]
  | r :: rs => r.branches.flatMap (followedBy (branchesAll rs))

/-- A walk through rules in sequence, on one side of each alternative and up to the first tail,
comes upon a value that is no rule. -/
inductive Meets (v : Value) : List PathRule → Prop
  | here {rest : List PathRule} : Meets v (.foreign v :: rest)
  | literal {s : Value} {rest : List PathRule} : Meets v rest → Meets v (.literal s :: rest)
  | capture {n : Value} {t : Ty} {d : Value} {rest : List PathRule} :
      Meets v rest → Meets v (.capture n t d :: rest)
  | both {l r : PathRule} {rest : List PathRule} :
      Meets v (l :: r :: rest) → Meets v (.both l r :: rest)
  | left {l r : PathRule} {rest : List PathRule} :
      Meets v (l :: rest) → Meets v (.either l r :: rest)
  | right {l r : PathRule} {rest : List PathRule} :
      Meets v (r :: rest) → Meets v (.either l r :: rest)
  | noted {r : PathRule} {n : Note} {rest : List PathRule} :
      Meets v (r :: rest) → Meets v (.noted r n :: rest)

end PathRule

namespace Branch

theorem after_after (xs ys : List Step) (b : Branch) :
    after xs (after ys b) = after (xs ++ ys) b := by
  simp [after]

theorem after_nil (b : Branch) : after [] b = b := rfl

theorem followedBy_after (more : List Branch) (steps : List Step) (b : Branch) :
    followedBy more (after steps b) = (followedBy more b).map (after steps) := by
  obtain ⟨xs, e⟩ := b
  cases e <;> simp [followedBy, after]

/-- What follows what follows is what follows both. -/
theorem flatMap_followedBy (more : List Branch) (mid : List Branch) (b : Branch) :
    (followedBy mid b).flatMap (followedBy more) =
      followedBy (mid.flatMap (followedBy more)) b := by
  obtain ⟨xs, e⟩ := b
  cases e with
  | ongoing =>
    show (mid.map (after xs)).flatMap (followedBy more) =
      (mid.flatMap (followedBy more)).map (after xs)
    simp only [List.flatMap_map, List.map_flatMap, followedBy_after]
  | closed => simp [followedBy]
  | stuck v => simp [followedBy]

theorem followedBy_nothing (b : Branch) : followedBy [⟨[], .ongoing⟩] b = [b] := by
  obtain ⟨xs, e⟩ := b
  cases e <;> simp [followedBy, after]

end Branch

namespace PathRule

variable (rest : List PathRule)

@[simp] theorem branchesAll_nil : branchesAll [] = [⟨[], .ongoing⟩] := rfl

@[simp] theorem branchesAll_literal (s : Value) :
    branchesAll (.literal s :: rest) = (branchesAll rest).map (after [.literal s]) := by
  simp [branchesAll, branches, followedBy]

@[simp] theorem branchesAll_capture (n : Value) (t : Ty) (d : Value) :
    branchesAll (.capture n t d :: rest) = (branchesAll rest).map (after [.capture n t d]) := by
  simp [branchesAll, branches, followedBy]

@[simp] theorem branchesAll_tail : branchesAll (.tail :: rest) = [⟨[.tail], .closed⟩] := rfl

@[simp] theorem branchesAll_foreign (v : Value) :
    branchesAll (.foreign v :: rest) = [⟨[], .stuck v⟩] := rfl

@[simp] theorem branchesAll_both (l r : PathRule) :
    branchesAll (.both l r :: rest) = branchesAll (l :: r :: rest) := by
  simp only [branchesAll, branches, List.flatMap_assoc, flatMap_followedBy]

@[simp] theorem branchesAll_either (l r : PathRule) :
    branchesAll (.either l r :: rest) = branchesAll (l :: rest) ++ branchesAll (r :: rest) := by
  simp only [branchesAll, branches, List.flatMap_append]

@[simp] theorem branchesAll_noted (r : PathRule) (n : Note) :
    branchesAll (.noted r n :: rest) =
      (branchesAll (r :: rest)).map (after [.note (r := r) n]) := by
  simp only [branchesAll, branches, List.flatMap_map, List.map_flatMap, followedBy_after]

theorem branchesAll_singleton (r : PathRule) : branchesAll [r] = r.branches := by
  simp only [branchesAll, funext followedBy_nothing, List.flatMap_singleton']

end PathRule

namespace Branch

theorem results_cons_of_result {b : Branch} {steps : List Step} (h : b.result = .ok steps)
    (bs : List Branch) : results (b :: bs) = (results bs).map (steps :: ·) := by
  rw [results, List.mapM_cons, h]
  unfold results
  cases bs.mapM result <;> rfl

theorem results_cons_of_stuck (steps : List Step) (v : Value) (bs : List Branch) :
    results (⟨steps, .stuck v⟩ :: bs) = .error (.notPathRule v.literal) := rfl

/-- The branches of rules still to be expanded, behind the steps taken before. -/
def ofPending (p : List PathRule × List Step) : List Branch :=
  (PathRule.branchesAll p.1).map (after p.2)

end Branch

namespace PathRule

theorem map_map_append {ε α : Type} (x : Except ε (List α)) (xs : List α) (a : α) :
    x.map (xs ++ [a] ++ ·) = (x.map (a :: ·)).map (xs ++ ·) := by
  cases x <;> simp [Except.map]

/-- What is still to be expanded denotes the sequences that are not given out yet, in order. -/
theorem sequences_of_expand (pending : List (List PathRule × List Step)) (out : Linear) :
    (expand pending out).map (·.sequences) =
      (results (pending.flatMap ofPending)).map (out.sequences ++ ·) := by
  -- A case that gives out a sequence moves the first branch of the pending ones into `out`; the
  -- others take one rule apart and leave the branches as they are.
  fun_induction expand pending out with
  | case1 out =>
    show Except.ok out.sequences = Except.ok (out.sequences ++ [])
    rw [List.append_nil]
  | case2 out steps more ih =>
    have hb : ofPending ([], steps) = [⟨steps, .ongoing⟩] := by simp [ofPending, after]
    rw [ih, List.flatMap_cons, hb, List.singleton_append, results_cons_of_result rfl]
    exact map_map_append _ _ _
  | case3 out l r rest steps more ih =>
    rw [ih]
    simp [ofPending]
  | case4 out l r rest steps more ih =>
    rw [ih]
    simp [ofPending]
  | case5 out r n rest steps more ih =>
    rw [ih]
    simp [ofPending, after_after, Function.comp_def]
  | case6 out rest steps more ih =>
    have hb : ofPending (.tail :: rest, steps) = [⟨steps ++ [.tail], .closed⟩] := by
      simp [ofPending, after]
    have hout : ((out.drop rest.length).add (steps ++ [.tail])).sequences =
        out.sequences ++ [steps ++ [.tail]] := by
      simp only [Linear.add, Linear.drop]
      split <;> rfl
    rw [ih, hout, List.flatMap_cons, hb, List.singleton_append, results_cons_of_result rfl]
    exact map_map_append _ _ _
  | case7 out s rest steps more ih =>
    rw [ih]
    simp [ofPending, after_after, Function.comp_def]
  | case8 out n t d rest steps more ih =>
    rw [ih]
    simp [ofPending, after_after, Function.comp_def]
  | case9 out v rest steps more =>
    have hb : ofPending (.foreign v :: rest, steps) = [⟨steps, .stuck v⟩] := by
      simp [ofPending, after]
    rw [List.flatMap_cons, hb, List.singleton_append, results_cons_of_stuck]
    rfl

/-- Rules in sequence have the sequences of their branches, in order. -/
theorem sequences_of_linearizeAll (rules : List PathRule) :
    (linearizeAll rules).map (·.sequences) = results (branchesAll rules) := by
  have hb : [(rules, [])].flatMap ofPending = branchesAll rules := by
    simp [ofPending, funext after_nil]
  rw [linearizeAll, sequences_of_expand, hb]
  cases results (branchesAll rules) <;> simp [Except.map]

theorem sequences_of_linearize (rule : PathRule) :
    rule.linearize.map (·.sequences) = results rule.branches := by
  rw [linearize, sequences_of_linearizeAll, branchesAll_singleton]

/-- A branch of rules in sequence is stuck at the value. -/
def IsStuck (v : Value) (rules : List PathRule) : Prop :=
  ∃ b ∈ branchesAll rules, b.ending = .stuck v

theorem isStuck_map {bs : List Branch} {steps : List Step} {v : Value} :
    (∃ b ∈ bs.map (after steps), b.ending = .stuck v) ↔ ∃ b ∈ bs, b.ending = .stuck v := by
  constructor
  · rintro ⟨_, hb, he⟩
    obtain ⟨b, hmem, rfl⟩ := List.mem_map.mp hb
    exact ⟨b, hmem, he⟩
  · rintro ⟨b, hb, he⟩
    exact ⟨b.after steps, List.mem_map_of_mem hb, he⟩

theorem isStuck_cons_iff {v : Value} (r : PathRule) {rest : List PathRule}
    (hrest : IsStuck v rest ↔ Meets v rest) : IsStuck v (r :: rest) ↔ Meets v (r :: rest) := by
  -- The rest is general: a sequence puts its right rule in front of it.
  induction r generalizing rest with
  | literal s =>
    rw [IsStuck, branchesAll_literal, isStuck_map]
    exact hrest.trans ⟨.literal, fun | .literal h => h⟩
  | capture n t d =>
    rw [IsStuck, branchesAll_capture, isStuck_map]
    exact hrest.trans ⟨.capture, fun | .capture h => h⟩
  | tail =>
    rw [IsStuck, branchesAll_tail]
    exact ⟨by simp, fun h => by cases h⟩
  | both l r ihl ihr =>
    rw [IsStuck, branchesAll_both]
    exact (ihl (ihr hrest)).trans ⟨.both, fun | .both h => h⟩
  | either l r ihl ihr =>
    have hsplit : IsStuck v (.either l r :: rest) ↔
        IsStuck v (l :: rest) ∨ IsStuck v (r :: rest) := by
      simp only [IsStuck, branchesAll_either, List.mem_append, or_and_right, exists_or]
    rw [hsplit, ihl hrest, ihr hrest]
    constructor
    · rintro (h | h)
      · exact .left h
      · exact .right h
    · rintro (_ | _)
      · exact Or.inl ‹_›
      · exact Or.inr ‹_›
  | noted r n ih =>
    rw [IsStuck, branchesAll_noted, isStuck_map]
    exact (ih hrest).trans ⟨.noted, fun | .noted h => h⟩
  | foreign w =>
    rw [IsStuck, branchesAll_foreign]
    constructor
    · rintro ⟨b, hb, he⟩
      obtain rfl := List.mem_singleton.mp hb
      cases he
      exact .here
    · rintro (_ | _)
      exact ⟨_, List.mem_singleton_self _, rfl⟩

/-- A branch is stuck at a value just if a walk meets it. -/
theorem isStuck_iff (v : Value) (rules : List PathRule) : IsStuck v rules ↔ Meets v rules := by
  induction rules with
  | nil => exact ⟨by simp [IsStuck], fun h => by cases h⟩
  | cons r rest ih => exact isStuck_cons_iff r ih

end PathRule

namespace Branch

/-- A tail stands at the end of a closed branch, and nowhere else. -/
def EndsAtTail (b : Branch) : Prop :=
  match b.ending with
  | .closed => ∃ steps, b.steps = steps ++ [.tail] ∧ Step.tail ∉ steps
  | _ => Step.tail ∉ b.steps

theorem EndsAtTail.after {b : Branch} (h : b.EndsAtTail) {steps : List Step}
    (hs : Step.tail ∉ steps) : (b.after steps).EndsAtTail := by
  obtain ⟨xs, e⟩ := b
  cases e with
  | ongoing => exact fun hm => (List.mem_append.mp hm).elim hs h
  | stuck v => exact fun hm => (List.mem_append.mp hm).elim hs h
  | closed =>
    obtain ⟨init, hinit, hn⟩ := h
    refine ⟨steps ++ init, ?_, fun hm => (List.mem_append.mp hm).elim hs hn⟩
    show steps ++ xs = steps ++ init ++ [.tail]
    rw [show xs = init ++ [.tail] from hinit, List.append_assoc]

theorem EndsAtTail.followedBy {b : Branch} (h : b.EndsAtTail) {more : List Branch}
    (hmore : ∀ c ∈ more, c.EndsAtTail) : ∀ c ∈ b.followedBy more, c.EndsAtTail := by
  obtain ⟨xs, e⟩ := b
  intro c hc
  cases e with
  | ongoing =>
    obtain ⟨c, hcm, rfl⟩ := List.mem_map.mp hc
    exact (hmore c hcm).after h
  | closed => rwa [List.mem_singleton.mp hc]
  | stuck v => rwa [List.mem_singleton.mp hc]

theorem EndsAtTail.not_mem_dropLast {b : Branch} (h : b.EndsAtTail) :
    Step.tail ∉ b.steps.dropLast := by
  obtain ⟨xs, e⟩ := b
  cases e with
  | ongoing => exact fun hm => h (List.dropLast_subset _ hm)
  | stuck v => exact fun hm => h (List.dropLast_subset _ hm)
  | closed =>
    obtain ⟨init, hinit, hn⟩ := h
    rwa [hinit, List.dropLast_concat]

theorem steps_of_result {b : Branch} {s : List Step} (h : b.result = .ok s) : b.steps = s := by
  obtain ⟨xs, e⟩ := b
  cases e <;> cases h <;> rfl

theorem steps_of_results {bs : List Branch} {ss : List (List Step)} (h : results bs = .ok ss) :
    ss = bs.map (·.steps) := by
  induction bs generalizing ss with
  | nil => exact (Except.ok.inj h).symm
  | cons b bs ih =>
    obtain ⟨s, rest, hs, hrest, rfl⟩ := exists_of_mapM_cons h
    rw [List.map_cons, steps_of_result hs, ih hrest]

theorem result_of_stuck {b : Branch} {v : Value} (h : b.ending = .stuck v) :
    b.result = .error (.notPathRule v.literal) := by
  rw [result, h]

theorem exists_of_result_error {b : Branch} {e : Fault} (h : b.result = .error e) :
    ∃ v, b.ending = .stuck v ∧ e = .notPathRule v.literal := by
  obtain ⟨xs, ending⟩ := b
  cases ending <;> cases h
  exact ⟨_, rfl, rfl⟩

end Branch

namespace PathRule

theorem endsAtTail_branches (r : PathRule) : ∀ b ∈ r.branches, b.EndsAtTail := by
  induction r with
  | literal s => simp [branches, EndsAtTail]
  | capture n t d => simp [branches, EndsAtTail]
  | tail =>
    intro b hb
    rw [List.mem_singleton.mp hb]
    exact ⟨[], rfl, by simp⟩
  | both l r ihl ihr =>
    intro b hb
    obtain ⟨c, hc, hb⟩ := List.mem_flatMap.mp hb
    exact (ihl c hc).followedBy ihr b hb
  | either l r ihl ihr =>
    intro b hb
    exact (List.mem_append.mp hb).elim (ihl b) (ihr b)
  | noted r n ih =>
    intro b hb
    obtain ⟨c, hc, rfl⟩ := List.mem_map.mp hb
    exact (ih c hc).after (by simp)
  | foreign v => simp [branches, EndsAtTail]

/-- The sequences of a rule are its branches, where none is stuck. -/
theorem sequences_eq_of_linearize {r : PathRule} {l : Linear} (h : r.linearize = .ok l) :
    l.sequences = r.branches.map (·.steps) := by
  have hseq := sequences_of_linearize r
  rw [h] at hseq
  exact steps_of_results hseq.symm

theorem not_mem_dropLast_of_linearize {r : PathRule} {l : Linear} (h : r.linearize = .ok l) :
    ∀ s ∈ l.sequences, Step.tail ∉ s.dropLast := by
  rw [sequences_eq_of_linearize h]
  intro s hs
  obtain ⟨b, hb, rfl⟩ := List.mem_map.mp hs
  exact (endsAtTail_branches r b hb).not_mem_dropLast

theorem endsAtTail_branchesAll (rules : List PathRule) :
    ∀ b ∈ branchesAll rules, b.EndsAtTail := by
  induction rules with
  | nil => simp [EndsAtTail]
  | cons r rest ih =>
    intro b hb
    obtain ⟨c, hc, hb⟩ := List.mem_flatMap.mp hb
    exact (endsAtTail_branches r c hc).followedBy ih b hb

/-- Linearisation gives the branches of the rules in sequence, each in its order, and with a tail at
the end only; it fails just where a walk meets what is no rule. -/
theorem linearizeAll_eq_results_branchesAll (rules : List PathRule) :
    (linearizeAll rules).map (·.sequences) = results (branchesAll rules) ∧
      (∀ l, linearizeAll rules = .ok l → ∀ s ∈ l.sequences, Step.tail ∉ s.dropLast) ∧
      (∀ e, linearizeAll rules = .error e → ∃ v, Meets v rules ∧ e = .notPathRule v.literal) ∧
      ∀ v, Meets v rules → ∃ e, linearizeAll rules = .error e := by
  have hall := sequences_of_linearizeAll rules
  refine ⟨hall, fun l hl s hs => ?_, fun e he => ?_, fun v hv => ?_⟩
  · rw [hl] at hall
    obtain ⟨b, hb, hbs⟩ := exists_of_mem_mapM hall.symm hs
    rw [← steps_of_result hbs]
    exact (endsAtTail_branchesAll rules b hb).not_mem_dropLast
  · rw [he] at hall
    obtain ⟨b, hb, hbe⟩ := exists_of_mapM_error hall.symm
    obtain ⟨v, hv, rfl⟩ := exists_of_result_error hbe
    exact ⟨v, (isStuck_iff v rules).mp ⟨b, hb, hv⟩, rfl⟩
  · obtain ⟨b, hb, hbv⟩ := (isStuck_iff v rules).mpr hv
    cases hl : linearizeAll rules with
    | error e => exact ⟨e, rfl⟩
    | ok l =>
      -- Sequences would be there for every branch, also for the one that is stuck.
      rw [hl] at hall
      obtain ⟨s, -, hs⟩ := exists_mem_of_mapM hall.symm b hb
      cases (result_of_stuck hbv).symm.trans hs

theorem linearizeAll_eq_results_branchesAll_users :
    (linearizeAll [.either (.both (.literal (.str "users")) .tail) (.literal (.str "people")),
        .capture (.str "id") (.scalar .int) .null]).map (·.sequences) =
      .ok [[.literal (.str "users"), .tail],
        [.literal (.str "people"), .capture (.str "id") (.scalar .int) .null]] ∧
    ∃ e, linearizeAll [.either .tail root, .foreign (.int 5)] = .error e :=
  ⟨(linearizeAll_eq_results_branchesAll _).1.trans rfl,
    (linearizeAll_eq_results_branchesAll _).2.2.2 (.int 5) (.right (.literal .here))⟩

end PathRule

end RouteAtlas
