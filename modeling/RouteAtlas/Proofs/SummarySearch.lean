import RouteAtlas.Proofs.Branches
import RouteAtlas.Route.Render

/-!
The summary of a path without its sequences, of which there may be exponentially many: a rule is
searched from the left, with what is found behind it. An alternative is searched with all that
follows it before the other one is, a tail hides what follows, and a summary that is noted on a
rule hides what is noted inside it.
-/

namespace RouteAtlas

/-- The message of a summary; null is none. -/
def Value.message? : Value → Option Value
  | .null => none
  | v => some v

namespace PathRule

/-- The summary of a rule from its form, where `behind` is found in what follows the rule. -/
def search : PathRule → Option Value → Option Value
  | .literal _, behind => behind
  | .capture _ _ _, behind => behind
  | .tail, _ => none
  | .both l r, behind => l.search (r.search behind)
  | .either l r, behind => (l.search behind).or (r.search behind)
  | .noted _ (.summary m), _ => m.message?
  | .noted r _, behind => r.search behind
  | .foreign _, _ => none

theorem summaryOf_eq (steps : List Step) :
    summaryOf steps = (Step.summary steps).bind Value.message? := by
  unfold summaryOf
  cases Step.summary steps with
  | none => rfl
  | some v => cases v <;> rfl

end PathRule

/-- Without a tail, what is found in front comes first. -/
theorem Step.summary_append {xs : List Step} (h : Step.tail ∉ xs) (ys : List Step) :
    summary (xs ++ ys) = (summary xs).or (summary ys) := by
  induction xs with
  | nil => rfl
  | cons s xs ih =>
    have hxs : Step.tail ∉ xs := fun hm => h (List.mem_cons_of_mem _ hm)
    cases s with
    | tail => exact absurd List.mem_cons_self h
    | note n =>
      cases n with
      | summary m => rfl
      | _ => exact ih hxs
    | _ => exact ih hxs

theorem findSome?_const {α β : Type} {f : α → Option β} {xs : List α} {o : Option β}
    (hne : xs ≠ []) (h : ∀ x ∈ xs, f x = o) : xs.findSome? f = o := by
  cases o with
  | none => exact List.findSome?_eq_none_iff.mpr h
  | some b =>
    obtain ⟨x, xs, rfl⟩ := List.exists_cons_of_ne_nil hne
    rw [List.findSome?_cons, h x List.mem_cons_self]

namespace Branch

/-- What is found on a branch: its own summary, or else `behind` if the branch goes on. -/
def search (behind : Option Value) (b : Branch) : Option Value :=
  match Step.summary b.steps with
  | some m => m.message?
  | none =>
    match b.ending with
    | .ongoing => behind
    | _ => none

theorem search_none (b : Branch) : b.search none = PathRule.summaryOf b.steps := by
  obtain ⟨steps, e⟩ := b
  rw [search, PathRule.summaryOf_eq]
  cases Step.summary steps with
  | some m => rfl
  | none => cases e <;> rfl

theorem search_after_of_summary {steps : List Step} (ht : Step.tail ∉ steps) {m : Value}
    (hm : Step.summary steps = some m) (behind : Option Value) (b : Branch) :
    (b.after steps).search behind = m.message? := by
  simp only [search, after, Step.summary_append ht, hm, Option.some_or]

theorem search_after_of_none {steps : List Step} (ht : Step.tail ∉ steps)
    (hs : Step.summary steps = none) (behind : Option Value) (b : Branch) :
    (b.after steps).search behind = b.search behind := by
  simp only [search, after, Step.summary_append ht, hs, Option.none_or]

/-- On the ways to go on from a branch the search finds what it finds on the branch itself, with
what is found behind it. -/
theorem findSome?_followedBy {b : Branch} (hb : b.EndsAtTail) {more : List Branch}
    (hne : more ≠ []) (behind : Option Value) :
    (b.followedBy more).findSome? (search behind) =
      b.search (more.findSome? (search behind)) := by
  obtain ⟨steps, e⟩ := b
  cases e with
  | ongoing =>
    rw [followedBy, List.findSome?_map]
    cases hs : Step.summary steps with
    | some m =>
      have hall : ∀ c ∈ more, (search behind ∘ after steps) c = m.message? := fun c _ =>
        search_after_of_summary hb hs behind c
      rw [findSome?_const hne hall, search, hs]
    | none =>
      have hall : search behind ∘ after steps = search behind :=
        funext (search_after_of_none hb hs behind)
      rw [hall, search, hs]
  | _ => simp [followedBy, search]

theorem findSome?_flatMap_followedBy {bs : List Branch} (hbs : ∀ b ∈ bs, b.EndsAtTail)
    {more : List Branch} (hne : more ≠ []) (behind : Option Value) :
    (bs.flatMap (followedBy more)).findSome? (search behind) =
      bs.findSome? (search (more.findSome? (search behind))) := by
  induction bs with
  | nil => rfl
  | cons b bs ih =>
    obtain ⟨hb, hbs⟩ := List.forall_mem_cons.mp hbs
    rw [List.flatMap_cons, List.findSome?_append, findSome?_followedBy hb hne, ih hbs]
    cases hs : b.search (more.findSome? (search behind)) <;> simp [hs]

end Branch

open Branch

namespace PathRule

theorem branches_ne_nil (r : PathRule) : r.branches ≠ [] := by
  induction r with
  | both l r ihl ihr =>
    obtain ⟨b, bs, hb⟩ := List.exists_cons_of_ne_nil ihl
    obtain ⟨c, cs, hc⟩ := List.exists_cons_of_ne_nil ihr
    obtain ⟨steps, e⟩ := b
    cases e <;> simp [branches, hb, hc, followedBy]
  | either l r ihl _ => simp [branches, ihl]
  | noted r n ih => simp [branches, ih]
  | _ => simp [branches]

/-- The branches of a rule, searched in order, give what the search of the rule gives. -/
theorem findSome?_branches (r : PathRule) (behind : Option Value) :
    r.branches.findSome? (Branch.search behind) = r.search behind := by
  -- What is found behind is general: a sequence puts there what its right rule gives.
  induction r generalizing behind with
  | literal s => simp [branches, Branch.search, search, Step.summary]
  | capture n t d => simp [branches, Branch.search, search, Step.summary]
  | tail => simp [branches, Branch.search, search, Step.summary]
  | foreign v => simp [branches, Branch.search, search, Step.summary]
  | both l r ihl ihr =>
    rw [branches, findSome?_flatMap_followedBy (endsAtTail_branches l) r.branches_ne_nil, ihr, ihl,
      search]
  | either l r ihl ihr => rw [branches, List.findSome?_append, ihl, ihr, search]
  | noted r n ih =>
    rw [branches, List.findSome?_map]
    cases n with
    | summary m =>
      exact findSome?_const r.branches_ne_nil fun b _ =>
        search_after_of_summary (m := m) (by simp) rfl behind b
    | _ =>
      show _ = r.search behind
      rw [← ih]
      exact congrArg r.branches.findSome? (funext (search_after_of_none (by simp) rfl behind))

/-- The search of a rule gives the first summary on its sequences, where it has sequences. -/
theorem summary_eq_search (r : PathRule) : r.summary = r.linearize.map fun _ => r.search none := by
  rw [summary]
  cases hl : r.linearize with
  | error e => rfl
  | ok l =>
    show Except.ok (l.sequences.findSome? summaryOf) = .ok (r.search none)
    rw [sequences_eq_of_linearize hl, List.findSome?_map, ← findSome?_branches]
    exact congrArg (fun f => Except.ok (r.branches.findSome? f)) (funext search_none).symm

/-- A summary behind a choice is found on the way through the left side, before the one that is
noted on the right side; a tail on the left side hides it. -/
example : search (.both (.either .root (.noted .root (.summary (.str "Right"))))
    (.noted .root (.summary (.str "Behind")))) none = some (.str "Behind") ∧
    search (.both (.either .tail (.noted .root (.summary (.str "Right"))))
      (.noted .root (.summary (.str "Behind")))) none = some (.str "Right") := ⟨rfl, rfl⟩

end PathRule

end RouteAtlas
