import Mathlib.Logic.Relation
import RouteAtlas.Document.Build
import RouteAtlas.Proofs.Branches

/-!
Rewriting path rules. A document shows nothing of an empty literal, and of a note only the summary.
Without these steps a rule has the same branches, in the same order, as the rules that it is
rewritten to by reassociation, distribution, the root, plain notes, or a change of what no branch
comes to; only that a branch which is closed before a choice comes twice where the choice is drawn
in front of it.
-/

namespace RouteAtlas

/-- The second list is the first with some of these elements given twice in a row. -/
inductive Doubled {α : Type} (p : α → Prop) : List α → List α → Prop
  | nil : Doubled p [] []
  | once {xs ys : List α} (a : α) : Doubled p xs ys → Doubled p (a :: xs) (a :: ys)
  | twice {xs ys : List α} {a : α} : p a → Doubled p xs ys → Doubled p (a :: xs) (a :: a :: ys)

namespace Doubled

variable {α β : Type} {p : α → Prop} {q : β → Prop}

theorem refl (xs : List α) : Doubled p xs xs := by
  induction xs with
  | nil => exact .nil
  | cons a xs ih => exact .once a ih

theorem append {xs ys xs' ys' : List α} (h : Doubled p xs ys) (h' : Doubled p xs' ys') :
    Doubled p (xs ++ xs') (ys ++ ys') := by
  induction h with
  | nil => exact h'
  | once a _ ih => exact .once a ih
  | twice ha _ ih => exact .twice ha ih

theorem map {xs ys : List α} (h : Doubled p xs ys) {f : α → β} (hf : ∀ a, p a → q (f a)) :
    Doubled q (xs.map f) (ys.map f) := by
  induction h with
  | nil => exact .nil
  | once a _ ih => exact .once (f a) ih
  | twice ha _ ih => exact .twice (hf _ ha) ih

/-- Elements that come twice have to stay as they are. -/
theorem flatMap {xs ys : List α} (h : Doubled p xs ys) {f : α → List α}
    (hf : ∀ a, p a → f a = [a]) : Doubled p (xs.flatMap f) (ys.flatMap f) := by
  induction h with
  | nil => exact .nil
  | once a _ ih => exact (refl (f a)).append ih
  | twice ha _ ih =>
    simp only [List.flatMap_cons, hf _ ha, List.singleton_append]
    exact .twice ha ih

theorem flatMap_of_forall (xs : List α) {f g : α → List β} (h : ∀ a, Doubled q (f a) (g a)) :
    Doubled q (xs.flatMap f) (xs.flatMap g) := by
  induction xs with
  | nil => exact .nil
  | cons a xs ih => exact (h a).append ih

end Doubled

namespace Note

def isSummary : Note → Bool
  | .summary _ => true
  | _ => false

end Note

namespace Step

/-- Does a document show anything of the step? -/
def isShown : Step → Bool
  | .literal (.str s) => s ≠ ""
  | .note n => n.isSummary
  | _ => true

/-- The step without the rule that a note is on. -/
def bare : Step → Step
  | .note n => .note (r := .root) n
  | s => s

/-- The steps that a document shows. -/
def shown (steps : List Step) : List Step := (steps.filter isShown).map bare

theorem shown_append (xs ys : List Step) : shown (xs ++ ys) = shown xs ++ shown ys := by
  rw [shown, List.filter_append, List.map_append]
  rfl

theorem shown_cons_of_shown {s : Step} (h : s.isShown = true) (steps : List Step) :
    shown (s :: steps) = s.bare :: shown steps := by
  rw [shown, List.filter_cons_of_pos h]
  rfl

theorem shown_cons_of_hidden {s : Step} (h : s.isShown = false) (steps : List Step) :
    shown (s :: steps) = shown steps := by
  rw [shown, List.filter_cons_of_neg (by simp [h])]
  rfl

theorem exists_of_hidden {s : Step} (h : s.isShown = false) :
    s = .literal (.str "") ∨
      ∃ (r : PathRule) (n : Note), n.isSummary = false ∧ s = .note (r := r) n := by
  cases s with
  | literal v =>
    cases v with
    | str t =>
      have ht : t = "" := by simpa [isShown] using h
      exact Or.inl (by rw [ht])
    | _ => simp [isShown] at h
  | capture _ _ _ => simp [isShown] at h
  | tail => simp [isShown] at h
  | note n => exact Or.inr ⟨_, n, h, rfl⟩

/-- What a function of steps makes of all of them, it makes of those that are shown, if it skips the
empty literal and plain notes and goes by the first step otherwise, whatever rule a note is on. -/
theorem eq_of_skips {β : Type} {f : List Step → β}
    (hroot : ∀ rest, f (.literal (.str "") :: rest) = f rest)
    (hnote : ∀ (r : PathRule) n rest, Note.isSummary n = false →
      f (.note (r := r) n :: rest) = f rest)
    (hcons : ∀ s rest rest', f rest = f rest' → f (Step.bare s :: rest) = f (s :: rest'))
    (steps : List Step) :
    f (shown steps) = f steps := by
  induction steps with
  | nil => rfl
  | cons s r ih =>
    by_cases hs : s.isShown = true
    · rw [shown_cons_of_shown hs]
      exact hcons s _ _ ih
    · rw [shown_cons_of_hidden (by simpa using hs), ih]
      rcases exists_of_hidden (by simpa using hs) with rfl | ⟨rule, n, hn, rfl⟩
      · exact (hroot r).symm
      · exact (hnote rule n r hn).symm

theorem parts_shown (steps : List Step) : parts (shown steps) = parts steps := by
  refine eq_of_skips (fun r => ?_) (fun _ _ _ _ => rfl) (fun s r r' h => ?_) steps
  · have hempty : literalPart (.str "") = [] := by decide +kernel
    rw [parts, hempty, List.nil_append]
  · cases s <;> simp only [bare, parts, h]

theorem untextual?_shown (steps : List Step) : untextual? (shown steps) = untextual? steps := by
  refine eq_of_skips (fun _ => rfl) (fun _ _ _ _ => rfl) (fun s r r' h => ?_) steps
  cases s with
  | literal v => cases v <;> simp only [bare, untextual?, h]
  | _ => simp only [bare, untextual?, h]

theorem summary_shown (steps : List Step) : summary (shown steps) = summary steps := by
  refine eq_of_skips (fun _ => rfl) (fun _ n _ hn => ?_) (fun s r r' h => ?_) steps
  · cases n with
    | summary m => cases hn
    | _ => rfl
  · cases s with
    | note n => cases n <;> simp only [bare, summary, h]
    | _ => simp only [bare, summary, h]

theorem rendered_shown (steps : List Step) : rendered (shown steps) = rendered steps := by
  simp only [rendered, template, untextual?_shown, parts_shown]

theorem parameters_shown (classes : Registry) (steps : List Step) :
    parameters classes (shown steps) = parameters classes steps := by
  refine eq_of_skips (fun _ => rfl) (fun _ _ _ _ => rfl) (fun s r r' h => ?_) steps
  cases s <;> simp only [bare, parameters, h]

end Step

namespace Branch

/-- The branch goes no further. -/
def Finished (b : Branch) : Prop := b.ending ≠ .ongoing

def shown (b : Branch) : Branch := ⟨Step.shown b.steps, b.ending⟩

theorem shown_after (steps : List Step) (b : Branch) :
    shown (after steps b) = after (Step.shown steps) (shown b) := by
  simp [shown, after, Step.shown_append]

theorem map_shown_followedBy (more : List Branch) (b : Branch) :
    (followedBy more b).map shown = followedBy (more.map shown) (shown b) := by
  obtain ⟨xs, e⟩ := b
  cases e with
  | ongoing =>
    simp only [followedBy, shown, List.map_map, Function.comp_def, after, Step.shown_append]
  | _ => rfl

theorem result_shown (b : Branch) : b.shown.result = b.result.map Step.shown := by
  obtain ⟨xs, e⟩ := b
  cases e <;> rfl

theorem results_shown (bs : List Branch) :
    results (bs.map shown) = (results bs).map fun ss => ss.map Step.shown := by
  induction bs with
  | nil => rfl
  | cons b bs ih =>
    cases hb : b.result with
    | ok steps =>
      have hs : b.shown.result = .ok (Step.shown steps) := by
        rw [result_shown, hb]
        rfl
      rw [List.map_cons, results_cons_of_result hs, ih, results_cons_of_result hb]
      cases results bs <;> rfl
    | error e =>
      obtain ⟨v, hv, -⟩ := exists_of_result_error hb
      obtain ⟨xs, ending⟩ := b
      cases hv
      rfl

theorem followedBy_of_finished (more : List Branch) {b : Branch} (h : Finished b) :
    followedBy more b = [b] := by
  obtain ⟨xs, e⟩ := b
  cases e with
  | ongoing => exact absurd rfl h
  | _ => rfl

theorem flatMap_followedBy_of_finished {bs : List Branch} (h : ∀ b ∈ bs, Finished b)
    (more : List Branch) : bs.flatMap (followedBy more) = bs := by
  have hself : ∀ b ∈ bs, followedBy more b = [b] := fun b hb => followedBy_of_finished more (h b hb)
  rw [List.flatMap_def, List.map_congr_left hself, ← List.flatMap_def, List.flatMap_singleton']

theorem doubled_followedBy {bs cs : List Branch} (h : Doubled Finished bs cs) (b : Branch) :
    Doubled Finished (followedBy bs b) (followedBy cs b) := by
  obtain ⟨xs, e⟩ := b
  cases e with
  | ongoing => exact h.map fun _ hc => hc
  | _ => exact .refl _

/-- A choice behind a single branch is drawn in front of it; one that is finished then comes
twice. -/
theorem doubled_choiceBehind (x : Branch) (bs cs : List Branch) :
    Doubled Finished (followedBy (bs ++ cs) x) (followedBy bs x ++ followedBy cs x) := by
  obtain ⟨xs, e⟩ := x
  cases e with
  | ongoing =>
    simp only [followedBy, List.map_append]
    exact .refl _
  | _ => exact .twice (by simp [Finished]) .nil

end Branch

open Branch

namespace PathRule

/-- Does the rule offer a choice anywhere? -/
def hasChoice : PathRule → Bool
  | .both l r => l.hasChoice || r.hasChoice
  | .either _ _ => true
  | .noted r _ => r.hasChoice
  | _ => false

/-- All sequences of the rule end in a tail. -/
def EndsInTails (r : PathRule) : Prop :=
  ∃ l, r.linearize = .ok l ∧ ∀ s ∈ l.sequences, s.getLast? = some .tail

/-- One rule is made into another by one change, at one place of it. -/
inductive Rewrites : PathRule → PathRule → Prop
  | bothAssoc (a b c : PathRule) : Rewrites (.both (.both a b) c) (.both a (.both b c))
  | eitherAssoc (a b c : PathRule) : Rewrites (.either (.either a b) c) (.either a (.either b c))
  | rootBefore (a : PathRule) : Rewrites (.both root a) a
  | rootBehind (a : PathRule) : Rewrites (.both a root) a
  | choiceBefore (a b c : PathRule) :
      Rewrites (.both (.either a b) c) (.either (.both a c) (.both b c))
  | choiceBehind {a : PathRule} (b c : PathRule) : a.hasChoice = false →
      Rewrites (.both a (.either b c)) (.either (.both a b) (.both a c))
  | note (a : PathRule) {n : Note} : n.isSummary = false → Rewrites (.noted a n) a
  | behindTail {a : PathRule} (b c : PathRule) : a.EndsInTails → Rewrites (.both a b) (.both a c)
  | bothLeft {a b : PathRule} (c : PathRule) : Rewrites a b → Rewrites (.both a c) (.both b c)
  | bothRight {a b : PathRule} (c : PathRule) : Rewrites a b → Rewrites (.both c a) (.both c b)
  | eitherLeft {a b : PathRule} (c : PathRule) : Rewrites a b → Rewrites (.either a c) (.either b c)
  | eitherRight {a b : PathRule} (c : PathRule) :
      Rewrites a b → Rewrites (.either c a) (.either c b)
  | noted {a b : PathRule} (n : Note) : Rewrites a b → Rewrites (.noted a n) (.noted b n)

/-- The branches of a rule as a document shows them. -/
def shownBranches (r : PathRule) : List Branch := r.branches.map Branch.shown

theorem shownBranches_both (l r : PathRule) :
    (both l r).shownBranches = l.shownBranches.flatMap (followedBy r.shownBranches) := by
  simp only [shownBranches, branches, List.map_flatMap, List.flatMap_map, map_shown_followedBy]

theorem shownBranches_either (l r : PathRule) :
    (either l r).shownBranches = l.shownBranches ++ r.shownBranches :=
  List.map_append

theorem shownBranches_noted (r : PathRule) (n : Note) :
    (noted r n).shownBranches =
      r.shownBranches.map (after (Step.shown [.note (r := root) n])) := by
  have hbare : Step.shown [.note (r := r) n] = Step.shown [.note (r := root) n] := by
    cases n <;> rfl
  simp [shownBranches, branches, shown_after, hbare]

theorem shownBranches_root : root.shownBranches = [⟨[], .ongoing⟩] := rfl

theorem shownBranches_noted_of_plain (r : PathRule) {n : Note} (hn : n.isSummary = false) :
    (noted r n).shownBranches = r.shownBranches := by
  have hnone : Step.shown [.note (r := root) n] = [] := by simp [Step.shown, Step.isShown, hn]
  simp [shownBranches_noted, hnone, funext after_nil]

theorem exists_branch_of_hasChoice {a : PathRule} (h : a.hasChoice = false) :
    ∃ b, a.branches = [b] := by
  induction a with
  | both l r ihl ihr =>
    obtain ⟨hl, hr⟩ : l.hasChoice = false ∧ r.hasChoice = false := by simpa [hasChoice] using h
    obtain ⟨b, hb⟩ := ihl hl
    obtain ⟨c, hc⟩ := ihr hr
    obtain ⟨xs, e⟩ := b
    cases e with
    | ongoing => exact ⟨after xs c, by simp [branches, hb, hc, followedBy]⟩
    | _ => exact ⟨_, by simp [branches, hb, followedBy]; rfl⟩
  | either l r => simp [hasChoice] at h
  | noted r n ih =>
    obtain ⟨b, hb⟩ := ih (by simpa [hasChoice] using h)
    exact ⟨after [.note (r := r) n] b, by simp [branches, hb]⟩
  | _ => exact ⟨_, rfl⟩

theorem EndsInTails.finished {a : PathRule} (h : a.EndsInTails) : ∀ b ∈ a.branches, b.Finished := by
  obtain ⟨l, hl, htail⟩ := h
  have hseq := sequences_of_linearize a
  rw [hl] at hseq
  intro b hb
  obtain ⟨s, hs, hbs⟩ := exists_mem_of_mapM hseq.symm b hb
  have hlast := List.mem_of_getLast? (htail s hs)
  have hends := endsAtTail_branches a b hb
  rw [← steps_of_result hbs] at hlast
  intro hgoing
  rw [Branch.EndsAtTail, hgoing] at hends
  exact hends hlast

/-- A change at any place keeps what is shown of the branches, but that some come twice. -/
theorem doubled_of_rewrites {r s : PathRule} (h : Rewrites r s) :
    Doubled Finished r.shownBranches s.shownBranches := by
  induction h with
  | bothAssoc a b c =>
    simp only [shownBranches_both, List.flatMap_assoc, flatMap_followedBy]
    exact .refl _
  | eitherAssoc a b c =>
    simp only [shownBranches_either, List.append_assoc]
    exact .refl _
  | rootBefore a =>
    simp only [shownBranches_both, shownBranches_root, List.flatMap_singleton, followedBy,
      funext after_nil, List.map_id']
    exact .refl _
  | rootBehind a =>
    rw [shownBranches_both, shownBranches_root, funext followedBy_nothing,
      List.flatMap_singleton']
    exact .refl _
  | choiceBefore a b c =>
    simp only [shownBranches_both, shownBranches_either, List.flatMap_append]
    exact .refl _
  | @choiceBehind a b c ha =>
    obtain ⟨x, hx⟩ := exists_branch_of_hasChoice ha
    have hshown : a.shownBranches = [x.shown] := by rw [shownBranches, hx, List.map_singleton]
    simp only [shownBranches_both, shownBranches_either, hshown, List.flatMap_singleton]
    exact doubled_choiceBehind _ _ _
  | note a hn =>
    rw [shownBranches_noted_of_plain a hn]
    exact .refl _
  | behindTail b c ha =>
    simp only [shownBranches, branches, flatMap_followedBy_of_finished ha.finished]
    exact .refl _
  | bothLeft c _ ih =>
    simp only [shownBranches_both]
    exact ih.flatMap fun b hb => followedBy_of_finished _ hb
  | bothRight c _ ih =>
    simp only [shownBranches_both]
    exact .flatMap_of_forall _ (doubled_followedBy ih)
  | eitherLeft c _ ih =>
    simp only [shownBranches_either]
    exact ih.append (.refl _)
  | eitherRight c _ ih =>
    simp only [shownBranches_either]
    exact (Doubled.refl _).append ih
  | noted n _ ih =>
    simp only [shownBranches_noted]
    exact ih.map fun _ hb => hb

end PathRule

end RouteAtlas
