import RouteAtlas.Proofs.Coverage

/-!
The declared classes that a type is documented by. Types that mean the same mention the same
classes, so that a type may be left out beside another one that means the same.
-/

namespace RouteAtlas

/-- The type, or a part by which it is documented, is a declared class. -/
inductive Ty.Mentions : Ty → String → Prop
  | declared (k : String) : Mentions (.declared k) k
  | annotated {b : Ty} {notes : List Value} {k : String} : Mentions b k →
      Mentions (.annotated b notes) k
  | union {ms : List Ty} {m : Ty} {k : String} : m ∈ ms → Mentions m k → Mentions (.union ms) k
  | bars {ms : List Ty} {m : Ty} {k : String} : m ∈ ms → Mentions m k → Mentions (.bars ms) k
  | element {g : Generic} {t : Ty} {ts : List Ty} {k : String} :
      g.origin.classShape? = some .sequence ∨ g.origin.classShape? = some .unique →
      Mentions t k → Mentions (.applied g (t :: ts)) k
  | value {g : Generic} {s t : Ty} {k : String} : g.origin.classShape? = some .mapping →
      Mentions t k → Mentions (.applied g [s, t]) k

namespace Ty

theorem exists_same_of_sameWithin {xs ys : List Ty} (h : sameWithin xs ys = true) {x : Ty}
    (hx : x ∈ xs) : ∃ y ∈ ys, x.same y = true := by
  induction xs with
  | nil => cases hx
  | cons w xs ih =>
    simp only [sameWithin, Bool.and_eq_true, List.any_eq_true] at h
    obtain ⟨⟨y, hy, hs⟩, hrest⟩ := h
    rcases List.mem_cons.mp hx with rfl | hx
    · exact ⟨y, hy, hs⟩
    · exact ih hrest hx

theorem exists_of_sameList_cons {x : Ty} {xs ys : List Ty} (h : sameList (x :: xs) ys = true) :
    ∃ z zs, ys = z :: zs ∧ x.same z = true ∧ sameList xs zs = true := by
  cases ys with
  | nil => simp [sameList] at h
  | cons z zs =>
    simp only [sameList, Bool.and_eq_true] at h
    exact ⟨z, zs, rfl, h.1, h.2⟩

/-- Types that mean the same mention the same classes. -/
theorem Mentions.of_same {t s : Ty} {k : String} (h : t.Mentions k) (hs : t.same s = true) :
    s.Mentions k := by
  induction h generalizing s with
  | declared k =>
    cases s <;> simp only [same, decide_eq_true_eq, Bool.false_eq_true] at hs
    subst hs
    exact .declared k
  | annotated _ ih =>
    cases s <;> simp only [same, Bool.and_eq_true, Bool.false_eq_true] at hs
    exact .annotated (ih hs.1)
  | union hm _ ih =>
    cases s <;> simp only [same, Bool.and_eq_true, Bool.false_eq_true] at hs
    case union ms =>
      obtain ⟨y, hy, hyx⟩ := exists_same_of_sameWithin hs.1 hm
      exact .union hy (ih hyx)
    case bars ms =>
      obtain ⟨y, hy, hyx⟩ := exists_same_of_sameWithin hs.1 hm
      exact .bars hy (ih hyx)
  | bars hm _ ih =>
    cases s <;> simp only [same, Bool.and_eq_true, Bool.false_eq_true] at hs
    case union ms =>
      obtain ⟨y, hy, hyx⟩ := exists_same_of_sameWithin hs.1 hm
      exact .union hy (ih hyx)
    case bars ms =>
      obtain ⟨y, hy, hyx⟩ := exists_same_of_sameWithin hs.1 hm
      exact .bars hy (ih hyx)
  | element hg _ ih =>
    cases s <;> simp only [same, Bool.and_eq_true, decide_eq_true_eq, Bool.false_eq_true] at hs
    obtain ⟨rfl, hs⟩ := hs
    obtain ⟨z, zs, rfl, hz, -⟩ := exists_of_sameList_cons hs
    exact .element hg (ih hz)
  | value hg _ ih =>
    cases s <;> simp only [same, Bool.and_eq_true, decide_eq_true_eq, Bool.false_eq_true] at hs
    obtain ⟨rfl, hs⟩ := hs
    obtain ⟨z, zs, rfl, -, hs⟩ := exists_of_sameList_cons hs
    obtain ⟨v, vs, rfl, hv, hs⟩ := exists_of_sameList_cons hs
    cases vs with
    | nil => exact .value hg (ih hv)
    | cons => simp [sameList] at hs

theorem mentions_core {t : Ty} {k : String} : t.core.Mentions k ↔ t.Mentions k := by
  fun_induction core t with
  | case1 b notes ih =>
    rw [ih]
    constructor
    · exact .annotated
    · intro h
      cases h with
      | annotated h => exact h
  | case2 => rfl

/-- What is left out of types means the same as one that stays. -/
theorem exists_of_distinct (seen : List Ty) {ts : List Ty} {t : Ty} (h : t ∈ ts) :
    ∃ u, (u ∈ seen ∨ u ∈ distinct seen ts) ∧ (u = t ∨ t.same u = true) := by
  fun_induction distinct seen ts with
  | case1 => cases h
  | case2 seen s ts hs ih =>
    rcases List.mem_cons.mp h with rfl | h
    · obtain ⟨u, hu, hsame⟩ := List.any_eq_true.mp hs
      exact ⟨u, Or.inl hu, Or.inr hsame⟩
    · exact ih h
  | case3 seen s ts _ ih =>
    rcases List.mem_cons.mp h with rfl | h
    · exact ⟨t, Or.inr List.mem_cons_self, Or.inl rfl⟩
    · obtain ⟨u, hu, hsame⟩ := ih h
      refine ⟨u, ?_, hsame⟩
      rcases hu with hu | hu
      · rcases List.mem_cons.mp hu with rfl | hu
        · exact Or.inr List.mem_cons_self
        · exact Or.inl hu
      · exact Or.inr (List.mem_cons_of_mem _ hu)

/-- The types that stay mention all that the types mention. -/
theorem exists_mentions_of_distinct {ts : List Ty} {t : Ty} {k : String} (ht : t ∈ ts)
    (h : t.Mentions k) : ∃ u ∈ distinct [] ts, u.Mentions k := by
  obtain ⟨u, hu, hsame⟩ := exists_of_distinct [] ht
  refine ⟨u, hu.resolve_left (by simp), ?_⟩
  rcases hsame with rfl | hsame
  · exact h
  · exact h.of_same hsame

theorem mentions_iff_asMembers {t : Ty} {k : String} :
    t.Mentions k ↔ ∃ u ∈ t.asMembers, u.Mentions k := by
  constructor
  · intro h
    cases h with
    | union hm h => exact ⟨_, hm, h⟩
    | bars hm h => exact ⟨_, hm, h⟩
    | declared => exact ⟨_, List.mem_singleton_self _, .declared k⟩
    | annotated h => exact ⟨_, List.mem_singleton_self _, .annotated h⟩
    | element hg h => exact ⟨_, List.mem_singleton_self _, .element hg h⟩
    | value hg h => exact ⟨_, List.mem_singleton_self _, .value hg h⟩
  · rintro ⟨u, hu, h⟩
    cases t <;> simp only [asMembers, List.mem_singleton] at hu <;> try subst hu
    case absent => cases h
    case union ms => exact .union hu h
    case bars ms => exact .bars hu h
    all_goals exact h

theorem mentions_ofMembers {ts : List Ty} {k : String} :
    (ofMembers .union ts).Mentions k ↔ ∃ t ∈ ts, t.Mentions k := by
  unfold ofMembers
  split
  next t => simp
  next =>
    constructor
    · intro h
      cases h with
      | union hm h => exact ⟨_, hm, h⟩
    · rintro ⟨t, ht, h⟩
      exact .union ht h

/-- A union of types mentions what they mention. -/
theorem mentions_unionOf {rule : UnionRule} {ts : List Ty} {u : Ty} {k : String}
    (h : unionOf rule ts = .ok u) :
    u.Mentions k ↔ ∃ t ∈ ts, t.Mentions k := by
  unfold unionOf at h
  simp only at h
  split at h
  next => cases h
  next =>
    cases Except.ok.inj h
    rw [mentions_ofMembers]
    constructor
    · rintro ⟨m, hm, hk⟩
      obtain ⟨t, ht, hmt⟩ := List.mem_flatMap.mp ((distinct_sublist _ _).subset hm)
      exact ⟨t, ht, mentions_iff_asMembers.mpr ⟨m, hmt, hk⟩⟩
    · rintro ⟨t, ht, hk⟩
      obtain ⟨m, hm, hk⟩ := mentions_iff_asMembers.mp hk
      exact exists_mentions_of_distinct (List.mem_flatMap.mpr ⟨t, ht, hm⟩) hk

theorem mentions_members {t : Ty} {k : String} :
    t.Mentions k ↔ ∃ m ∈ t.members, m.Mentions k := by
  rw [← mentions_core]
  unfold members
  cases t.core with
  | union ms =>
    constructor
    · intro h
      cases h with
      | union hm h => exact ⟨_, hm, h⟩
    · rintro ⟨m, hm, h⟩
      exact .union hm h
  | bars ms =>
    constructor
    · intro h
      cases h with
      | bars hm h => exact ⟨_, hm, h⟩
    · rintro ⟨m, hm, h⟩
      exact .bars hm h
  | _ => simp

/-- The null type mentions nothing, and so unwrapping loses nothing. -/
theorem mentions_unwrap {rule : UnionRule} {t u : Ty} {k : String} (h : t.unwrap rule = .ok u) :
    u.Mentions k ↔ t.Mentions k := by
  have hfilter : (∃ m ∈ t.members.filter (!isNothing ·), m.Mentions k) ↔ t.Mentions k := by
    rw [mentions_members]
    constructor
    · rintro ⟨m, hm, hk⟩
      exact ⟨m, (List.mem_filter.mp hm).1, hk⟩
    · rintro ⟨m, hm, hk⟩
      exact ⟨m, List.mem_filter.mpr ⟨hm, by cases hk <;> rfl⟩, hk⟩
  unfold unwrap at h
  split at h
  next =>
    split at h
    next v hv =>
      cases Except.ok.inj h
      rw [← hfilter, hv]
      simp
    next => rw [mentions_unionOf h, hfilter]
  next =>
    cases Except.ok.inj h
    exact mentions_core

theorem mentions_element {t : Ty} {k : String} (h : t.isContainer = true) :
    t.element.Mentions k ↔ t.Mentions k := by
  rw [← mentions_core (t := t)]
  unfold isContainer shape? at h
  unfold element args
  cases hc : t.core <;> simp only [hc] at h ⊢ <;> try simp at h
  case bare g =>
    constructor <;> intro hk <;> cases hk
  case applied g ts =>
    constructor
    · intro hk
      cases ts with
      | nil => cases hk
      | cons t ts => exact .element h hk
    · intro hk
      cases hk with
      | element _ hk => exact hk
      | value hg _ => simp [hg] at h

theorem mentions_value {t : Ty} {k : String} (h : t.isMapping = true) :
    t.value.Mentions k ↔ t.Mentions k := by
  rw [← mentions_core (t := t)]
  unfold isMapping shape? at h
  unfold value args
  cases hc : t.core <;> simp only [hc] at h ⊢ <;> try simp at h
  case bare g =>
    constructor <;> intro hk <;> cases hk
  case applied g ts =>
    constructor
    · intro hk
      split at hk
      next => exact .value h hk
      next => cases hk
    · intro hk
      cases hk with
      | element hg _ => simp [h] at hg
      | value _ hk => exact hk

end Ty

end RouteAtlas
