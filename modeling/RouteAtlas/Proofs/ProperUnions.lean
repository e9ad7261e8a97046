import RouteAtlas.Proofs.Mentions

/-!
Unions with a choice. The union of one type is that type, and so every union that is made has other
than one member; what is made from such types is such a type again, and the walk over one of them
meets every model that it mentions.
-/

namespace RouteAtlas

namespace Ty

mutual

/-- Does no union in the type have a single member? -/
def isProper : Ty → Bool
  | .annotated b _ => isProper b
  | .union ms => ms.length ≠ 1 && areProper ms
  | .bars ms => ms.length ≠ 1 && areProper ms
  | .applied _ ts => areProper ts
  | _ => true

def areProper : List Ty → Bool
  | [] => true
  | t :: ts => isProper t && areProper ts

end

theorem areProper_iff {ts : List Ty} : areProper ts = true ↔ ∀ t ∈ ts, t.isProper = true := by
  induction ts with
  | nil => simp [areProper]
  | cons t ts ih => simp [areProper, ih]

theorem isProper_core {t : Ty} (h : t.isProper = true) : t.core.isProper = true := by
  fun_induction core t with
  | case1 b _ ih => exact ih h
  | case2 => exact h

theorem isProper_asMembers {t : Ty} (h : t.isProper = true) :
    ∀ m ∈ t.asMembers, m.isProper = true := by
  intro m hm
  cases t <;> simp only [asMembers, List.mem_singleton] at hm
  case union ms =>
    simp only [isProper, Bool.and_eq_true] at h
    exact areProper_iff.mp h.2 m hm
  case bars ms =>
    simp only [isProper, Bool.and_eq_true] at h
    exact areProper_iff.mp h.2 m hm
  all_goals
    rw [hm]
    exact h

/-- What a way of writing unions makes of members is proper if they are. -/
theorem isProper_ofMembers {mk : List Ty → Ty} {ts : List Ty}
    (hmk : ∀ ts : List Ty, (mk ts).isProper = (decide (ts.length ≠ 1) && areProper ts))
    (h : ∀ t ∈ ts, t.isProper = true) : (ofMembers mk ts).isProper = true := by
  unfold ofMembers
  split
  next t => exact h t (List.mem_singleton_self t)
  next hne =>
    rw [hmk, Bool.and_eq_true, decide_eq_true_eq]
    refine ⟨fun hl => ?_, areProper_iff.mpr h⟩
    obtain ⟨t, ht⟩ := List.length_eq_one_iff.mp hl
    exact hne t ht

theorem isProper_unionOf {rule : UnionRule} {ts : List Ty} {u : Ty}
    (h : ∀ t ∈ ts, t.isProper = true) (hu : unionOf rule ts = .ok u) : u.isProper = true := by
  unfold unionOf at hu
  simp only at hu
  split at hu
  next => cases hu
  next =>
    cases Except.ok.inj hu
    refine isProper_ofMembers (fun ts => by simp only [isProper]) fun m hm => ?_
    obtain ⟨t, ht, hmt⟩ := List.mem_flatMap.mp ((distinct_sublist _ _).subset hm)
    exact isProper_asMembers (h t ht) m hmt

theorem isProper_converted {t u : Ty} (h : t.isProper = true) (hu : t.converted = .ok u) :
    u.isProper = true := by
  unfold converted at hu
  split at hu
  next =>
    cases Except.ok.inj hu
    rfl
  next =>
    unfold reference at hu
    split at hu
    next => cases hu
    next =>
      split at hu
      next =>
        cases Except.ok.inj hu
        rfl
      next => cases hu
  next =>
    cases Except.ok.inj hu
    exact h

theorem isProper_join {rule : UnionRule} {ts : List Ty} {u : Ty}
    (h : ∀ t ∈ ts, t.isProper = true) (hu : join ts rule = .ok u) : u.isProper = true := by
  unfold join at hu
  split at hu
  next => cases hu
  next =>
    obtain ⟨us, hus, hu⟩ := exists_of_bind_ok hu
    refine isProper_unionOf (fun v hv => ?_) hu
    obtain ⟨t, ht, htv⟩ := exists_of_mem_mapM hus hv
    exact isProper_converted (h t ht) htv

/-- Types with a bar between them are proper if they are. -/
theorem isProper_bar {classes : Registry} {l r u : Ty} (hl : l.isProper = true)
    (hr : r.isProper = true) (hu : bar classes l r = .ok u) : u.isProper = true := by
  unfold bar at hu
  split at hu
  next =>
    refine isProper_join (fun t ht => ?_) hu
    rcases List.mem_cons.mp ht with rfl | ht
    · exact hl
    · exact List.mem_singleton.mp ht ▸ hr
  next =>
    split at hu
    next =>
      cases Except.ok.inj hu
      refine isProper_ofMembers (fun ts => by simp only [isProper]) fun m hm => ?_
      rcases List.mem_append.mp ((distinct_sublist _ _).subset hm) with hm | hm
      · exact isProper_asMembers hl m hm
      · exact isProper_asMembers hr m hm
    next => cases hu

theorem isProper_of_mem_members {t m : Ty} (h : t.isProper = true) (hm : m ∈ t.members) :
    m.isProper = true := by
  have hc := isProper_core h
  unfold members at hm
  cases hcore : t.core <;> simp only [hcore, List.mem_singleton] at hm <;> rw [hcore] at hc
  case union ms =>
    simp only [isProper, Bool.and_eq_true] at hc
    exact areProper_iff.mp hc.2 m hm
  case bars ms =>
    simp only [isProper, Bool.and_eq_true] at hc
    exact areProper_iff.mp hc.2 m hm
  all_goals
    rw [hm]
    exact hc

theorem isProper_unwrap {rule : UnionRule} {t u : Ty} (h : t.isProper = true)
    (hu : t.unwrap rule = .ok u) :
    u.isProper = true := by
  have hfilter : ∀ m ∈ t.members.filter (!isNothing ·), m.isProper = true := fun m hm =>
    isProper_of_mem_members h (List.mem_filter.mp hm).1
  unfold unwrap at hu
  split at hu
  next =>
    split at hu
    next v hv =>
      cases Except.ok.inj hu
      exact hfilter u (by rw [hv]; exact List.mem_singleton_self u)
    next => exact isProper_unionOf hfilter hu
  next =>
    cases Except.ok.inj hu
    exact isProper_core h

theorem isProper_element {t : Ty} (h : t.isProper = true) (hc : t.isContainer = true) :
    t.element.isProper = true := by
  have hp := isProper_core h
  unfold isContainer shape? at hc
  unfold element args
  cases hcore : t.core <;> simp only [hcore] at hc ⊢ <;> try simp at hc
  case bare g => rfl
  case applied g ts =>
    rw [hcore] at hp
    cases ts with
    | nil => rfl
    | cons t ts => exact areProper_iff.mp hp t List.mem_cons_self

theorem isProper_value {t : Ty} (h : t.isProper = true) (hm : t.isMapping = true) :
    t.value.isProper = true := by
  have hp := isProper_core h
  unfold isMapping shape? at hm
  unfold value args
  cases hcore : t.core <;> simp only [hcore] at hm ⊢ <;> try simp at hm
  case bare g => rfl
  case applied g ts =>
    rw [hcore] at hp
    split
    next s v => exact areProper_iff.mp hp v (by simp)
    next => rfl

/-- What a proper type asks to be looked at in its place is proper. -/
theorem isProper_of_demand {classes : Registry} {t : Ty} {ts : List Ty} (h : t.isProper = true)
    (hd : t.demand classes .standard = .ok (.types ts)) : ∀ u ∈ ts, u.isProper = true := by
  rcases types_of_demand hd with ⟨u, hu, rfl⟩ | rfl | ⟨hc, rfl⟩ | ⟨hm, rfl⟩ | ⟨-, -, -, -, rfl⟩
  · simpa using isProper_unwrap h hu
  · exact fun m hm => isProper_of_mem_members h hm
  · simpa using isProper_element h hc
  · simpa using isProper_value h hm
  · simp

theorem core_ne_annotated (t b : Ty) (notes : List Value) : t.core ≠ .annotated b notes := by
  fun_induction core t with
  | case1 _ _ ih => exact ih
  | case2 t h => exact fun he => h b notes he

/-- A proper type that is no wrapper mentions only itself. -/
theorem core_eq_of_mentions {t : Ty} {k : String} (h : t.isProper = true)
    (hl : ¬1 < t.members.length) (hc : ¬t.isContainer = true) (hm : ¬t.isMapping = true)
    (hk : t.Mentions k) : t.core = .declared k := by
  have hp := isProper_core h
  have hcore := core_ne_annotated t
  rw [← mentions_core] at hk
  unfold members at hl
  unfold isContainer shape? at hc
  unfold isMapping shape? at hm
  generalize t.core = c at hp hk hl hc hm hcore ⊢
  cases hk with
  | declared => rfl
  | annotated _ => exact absurd rfl (hcore _ _)
  | @union ms m _ hmem _ =>
    have hpos := List.length_pos_of_mem hmem
    simp only [isProper, Bool.and_eq_true, decide_eq_true_eq] at hp hl
    omega
  | @bars ms m _ hmem _ =>
    have hpos := List.length_pos_of_mem hmem
    simp only [isProper, Bool.and_eq_true, decide_eq_true_eq] at hp hl
    omega
  | element hg _ => rcases hg with hg | hg <;> simp [hg] at hc
  | value hg _ => simp [hg] at hm

/-- A walk over a proper type meets every model that the type mentions. -/
theorem exists_part_of_mentions {classes : Registry} {t : Ty} {ts : List Ty} {k : String}
    {d : ClassDecl} (h : t.isProper = true) (hd : t.demand classes .standard = .ok (.types ts))
    (hk : t.Mentions k) (hf : classes.find? k = some d) (hm : d.isModel = true) :
    ∃ u ∈ ts, u.Mentions k := by
  rcases types_of_demand hd with
    ⟨u, hu, rfl⟩ | rfl | ⟨hc, rfl⟩ | ⟨hmap, rfl⟩ | ⟨hl, hc, hmap, hnone, rfl⟩
  · exact ⟨u, List.mem_singleton_self u, (mentions_unwrap hu).mpr hk⟩
  · exact mentions_members.mp hk
  · exact ⟨_, List.mem_singleton_self _, (mentions_element hc).mpr hk⟩
  · exact ⟨_, List.mem_singleton_self _, (mentions_value hmap).mpr hk⟩
  · have hcore := core_eq_of_mentions h hl hc hmap hk
    simp [model?, decl?, hcore, hf, hm] at hnone

theorem mentions_of_part {classes : Registry} {t u : Ty} {ts : List Ty} {k : String}
    (hd : t.demand classes .standard = .ok (.types ts)) (hu : u ∈ ts) (hk : u.Mentions k) :
    t.Mentions k := by
  rcases types_of_demand hd with ⟨v, hv, rfl⟩ | rfl | ⟨hc, rfl⟩ | ⟨hm, rfl⟩ | ⟨-, -, -, -, rfl⟩
  · rw [List.mem_singleton.mp hu] at hk
    exact (mentions_unwrap hv).mp hk
  · exact mentions_members.mpr ⟨u, hu, hk⟩
  · rw [List.mem_singleton.mp hu] at hk
    exact (mentions_element hc).mp hk
  · rw [List.mem_singleton.mp hu] at hk
    exact (mentions_value hm).mp hk
  · cases hu

/-- What a type asks for it mentions. -/
theorem mentions_of_asks {classes : Registry} {t : Ty} {d : ClassDecl} (h : t.Asks classes d) :
    d.isModel = true ∧ ∃ k, t.Mentions k ∧ classes.find? k = some d := by
  induction h with
  | model hd =>
    obtain ⟨hm, k, hcore, hk⟩ := exists_of_model? (model?_of_demand hd)
    exact ⟨hm, k, mentions_core.mp (hcore ▸ .declared k), hk⟩
  | part hd hu _ ih =>
    obtain ⟨hm, k, hmk, hk⟩ := ih
    exact ⟨hm, k, mentions_of_part hd hu hmk, hk⟩

end Ty

/-- Where a proper type is covered, every model that it mentions is among the models. -/
theorem Covered.has_of_mentions {classes : Registry} {ms : Models} {t : Ty} {k : String}
    {d : ClassDecl} (h : Covered classes ms t) (hp : t.isProper = true) (hk : t.Mentions k)
    (hf : classes.find? k = some d) (hm : d.isModel = true) : ms.has d.identity = true := by
  induction h with
  | parts hd _ ih =>
    obtain ⟨u, hu, huk⟩ := Ty.exists_part_of_mentions hp hd hk hf hm
    exact ih u hu (Ty.isProper_of_demand hp hd u hu) huk
  | model hd hi =>
    obtain ⟨-, l, hcore, hl⟩ := Ty.exists_of_model? (Ty.model?_of_demand hd)
    rw [← Ty.mentions_core, hcore] at hk
    cases hk
    cases hf.symm.trans hl
    exact hi

end RouteAtlas
