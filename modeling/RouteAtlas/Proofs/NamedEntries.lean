import RouteAtlas.Named

/-! What putting an entry into a list of named things does to look-up, to the names and to their
order. -/

namespace RouteAtlas

variable {α β : Type}

theorem lookup_cons_of_ne {name n : String} (a : α) (es : List (String × α)) (h : name ≠ n) :
    ((n, a) :: es).lookup name = es.lookup name := by
  rw [List.lookup_cons, beq_false_of_ne h]

theorem lookup_replaceOrAppend_self (name : String) (a : α) (es : List (String × α)) :
    (replaceOrAppend name a es).lookup name = some a := by
  induction es with
  | nil => simp [replaceOrAppend]
  | cons e es ih =>
    obtain ⟨n, b⟩ := e
    unfold replaceOrAppend
    split
    next h => subst h; simp
    next h => rw [lookup_cons_of_ne _ _ (Ne.symm h), ih]

theorem lookup_replaceOrAppend_of_ne {name other : String} (a : α) (es : List (String × α))
    (h : other ≠ name) : (replaceOrAppend name a es).lookup other = es.lookup other := by
  induction es with
  | nil => simp [replaceOrAppend, h]
  | cons e es ih =>
    obtain ⟨n, b⟩ := e
    unfold replaceOrAppend
    split
    next hn =>
      subst hn
      rw [lookup_cons_of_ne _ _ h, lookup_cons_of_ne _ _ h]
    next => simp only [List.lookup_cons, ih]

/-- The names, with one more behind them unless it is there. -/
def addName (names : List String) (name : String) : List String :=
  if name ∈ names then names else names ++ [name]

theorem names_replaceOrAppend (name : String) (a : α) (es : List (String × α)) :
    (replaceOrAppend name a es).map (·.1) = addName (es.map (·.1)) name := by
  induction es with
  | nil => simp [replaceOrAppend, addName]
  | cons e es ih =>
    obtain ⟨n, b⟩ := e
    unfold replaceOrAppend
    split
    next h => subst h; simp [addName]
    next h =>
      simp only [List.map_cons, ih, addName, List.mem_cons, Ne.symm h, false_or]
      split <;> rfl

theorem mem_addName {names : List String} {name n : String} :
    n ∈ addName names name ↔ n ∈ names ∨ n = name := by
  unfold addName
  split
  next h =>
    constructor
    · exact Or.inl
    · rintro (hn | rfl)
      · exact hn
      · exact h
  next => simp

theorem nodup_addName {names : List String} (name : String) (h : names.Nodup) :
    (addName names name).Nodup := by
  unfold addName
  split
  next => exact h
  next hn =>
    refine List.nodup_append.mpr ⟨h, by simp, ?_⟩
    intro a ha b hb heq
    have hb' : b = name := by simpa using hb
    exact hn (by rw [← hb', ← heq]; exact ha)

/-- Names keep the order in which they first come. -/
theorem foldl_addName (more names : List String) :
    more.foldl addName names = names ++ (more.filter (· ∉ names)).eraseDups := by
  induction more generalizing names with
  | nil => simp
  | cons n more ih =>
    rw [List.foldl_cons, ih]
    unfold addName
    by_cases h : n ∈ names
    · simp [h]
    · have hne : ∀ x, decide (x ∉ names ++ [n]) = (decide (x ∉ names) && !(x == n)) := by
        intro x
        by_cases hx : x = n <;> simp [hx]
      simp only [h, if_false, List.filter_cons, not_false_eq_true, decide_true, if_true,
        List.eraseDups_cons, List.filter_filter, List.append_assoc, List.singleton_append]
      congr 3
      exact List.filter_congr fun x _ => by rw [hne x, Bool.and_comm]

theorem mem_replaceOrAppend {name : String} {a : α} {es : List (String × α)} {e : String × α}
    (h : e ∈ replaceOrAppend name a es) : e = (name, a) ∨ e ∈ es := by
  induction es with
  | nil => exact Or.inl (by simpa [replaceOrAppend] using h)
  | cons f es ih =>
    obtain ⟨n, b⟩ := f
    unfold replaceOrAppend at h
    split at h
    next hn =>
      subst hn
      rcases List.mem_cons.mp h with rfl | h
      · exact Or.inl rfl
      · exact Or.inr (List.mem_cons_of_mem _ h)
    next =>
      rcases List.mem_cons.mp h with rfl | h
      · exact Or.inr List.mem_cons_self
      · exact (ih h).imp_right (List.mem_cons_of_mem _)

theorem mem_replaceOrAppend_of_ne {name : String} (a : α) {es : List (String × α)} {e : String × α}
    (he : e ∈ es) (hne : e.1 ≠ name) : e ∈ replaceOrAppend name a es := by
  induction es with
  | nil => cases he
  | cons f es ih =>
    obtain ⟨n, b⟩ := f
    unfold replaceOrAppend
    rcases List.mem_cons.mp he with rfl | he
    · rw [if_neg hne]
      exact List.mem_cons_self
    · split
      next => exact List.mem_cons_of_mem _ he
      next => exact List.mem_cons_of_mem _ (ih he)

theorem replaceOrAppend_of_new {name : String} (a : α) {es : List (String × α)}
    (h : name ∉ es.map (·.1)) : replaceOrAppend name a es = es ++ [(name, a)] := by
  induction es with
  | nil => rfl
  | cons e es ih =>
    obtain ⟨n, b⟩ := e
    simp only [List.map_cons, List.mem_cons, not_or] at h
    simp [replaceOrAppend, Ne.symm h.1, ih h.2]

/-- An entry that is there already changes nothing. -/
theorem replaceOrAppend_of_lookup {name : String} {a : α} {es : List (String × α)}
    (h : es.lookup name = some a) : replaceOrAppend name a es = es := by
  induction es with
  | nil => simp at h
  | cons e es ih =>
    obtain ⟨n, b⟩ := e
    unfold replaceOrAppend
    split
    next hn =>
      subst hn
      have hb : b = a := by simpa using h
      rw [hb]
    next hn => rw [ih (by rwa [lookup_cons_of_ne _ _ (Ne.symm hn)] at h)]

theorem map_replaceOrAppend (f : α → β) (name : String) (a : α) (es : List (String × α)) :
    (replaceOrAppend name a es).map (fun e => (e.1, f e.2)) =
      replaceOrAppend name (f a) (es.map fun e => (e.1, f e.2)) := by
  induction es with
  | nil => rfl
  | cons e es ih =>
    obtain ⟨n, b⟩ := e
    simp only [replaceOrAppend, List.map_cons]
    split
    next => rfl
    next => rw [List.map_cons, ih]

theorem lookup_isSome_iff {name : String} {es : List (String × α)} :
    (es.lookup name).isSome = true ↔ name ∈ es.map (·.1) := by
  induction es with
  | nil => simp
  | cons e es ih =>
    obtain ⟨n, b⟩ := e
    by_cases h : name = n
    · simp [h]
    · rw [lookup_cons_of_ne _ _ h, ih, List.map_cons, List.mem_cons, or_iff_right h]

theorem exists_lookup {name : String} {es : List (String × α)} (h : name ∈ es.map (·.1)) :
    ∃ a, es.lookup name = some a := Option.isSome_iff_exists.mp (lookup_isSome_iff.mpr h)

theorem mem_of_lookup {name : String} {a : α} {es : List (String × α)}
    (h : es.lookup name = some a) : (name, a) ∈ es := by
  induction es with
  | nil => simp at h
  | cons e es ih =>
    obtain ⟨n, b⟩ := e
    by_cases hn : name = n
    · subst hn
      have hb : b = a := by simpa using h
      rw [hb]
      exact List.mem_cons_self
    · exact List.mem_cons_of_mem _ (ih (by rwa [lookup_cons_of_ne _ _ hn] at h))

theorem lookup_of_mem {name : String} {a : α} {es : List (String × α)}
    (hn : (es.map (·.1)).Nodup) (h : (name, a) ∈ es) : es.lookup name = some a := by
  induction es with
  | nil => cases h
  | cons e es ih =>
    obtain ⟨n, b⟩ := e
    obtain ⟨hnew, hn⟩ := List.nodup_cons.mp hn
    rcases List.mem_cons.mp h with h | h
    · cases h
      exact List.lookup_cons_self
    · have hne : name ≠ n := fun heq => hnew (List.mem_map.mpr ⟨_, h, heq⟩)
      rw [lookup_cons_of_ne _ _ hne, ih hn h]

/-- Entries put in one after the other. -/
def putAll (es : List (String × α)) (acc : List (String × α)) : List (String × α) :=
  es.foldl (fun acc e => replaceOrAppend e.1 e.2 acc) acc

theorem putAll_cons (e : String × α) (es acc : List (String × α)) :
    putAll (e :: es) acc = putAll es (replaceOrAppend e.1 e.2 acc) := rfl

theorem lastOfNames_eq_putAll (es : List (String × α)) : lastOfNames es = putAll es [] := rfl

theorem names_putAll (es acc : List (String × α)) :
    (putAll es acc).map (·.1) = (es.map (·.1)).foldl addName (acc.map (·.1)) := by
  induction es generalizing acc with
  | nil => rfl
  | cons e es ih => rw [putAll_cons, ih, names_replaceOrAppend, List.map_cons, List.foldl_cons]

theorem mem_names_putAll {es acc : List (String × α)} {n : String} :
    n ∈ (putAll es acc).map (·.1) ↔ n ∈ acc.map (·.1) ∨ n ∈ es.map (·.1) := by
  rw [names_putAll]
  generalize es.map (·.1) = more, acc.map (·.1) = names
  induction more generalizing names with
  | nil => simp
  | cons m more ih =>
    rw [List.foldl_cons, ih, mem_addName, List.mem_cons]
    grind

theorem nodup_names_putAll {es acc : List (String × α)} (h : (acc.map (·.1)).Nodup) :
    ((putAll es acc).map (·.1)).Nodup := by
  induction es generalizing acc with
  | nil => exact h
  | cons e es ih =>
    rw [putAll_cons]
    exact ih (by rw [names_replaceOrAppend]; exact nodup_addName e.1 h)

theorem mem_putAll {es acc : List (String × α)} {e : String × α} (h : e ∈ putAll es acc) :
    e ∈ es ∨ e ∈ acc := by
  induction es generalizing acc with
  | nil => exact Or.inr h
  | cons f es ih =>
    rw [putAll_cons] at h
    rcases ih h with h | h
    · exact Or.inl (List.mem_cons_of_mem _ h)
    · rcases mem_replaceOrAppend h with rfl | h
      · exact Or.inl List.mem_cons_self
      · exact Or.inr h

/-- An entry of a name under which nothing is put in stays. -/
theorem mem_putAll_of_name {es acc : List (String × α)} {e : String × α} (he : e ∈ acc)
    (hn : e.1 ∉ es.map (·.1)) : e ∈ putAll es acc := by
  induction es generalizing acc with
  | nil => exact he
  | cons f es ih =>
    rw [List.map_cons, List.mem_cons, not_or] at hn
    rw [putAll_cons]
    exact ih (mem_replaceOrAppend_of_ne _ he hn.1) hn.2

/-- The last entry of a name is the one that stays. -/
theorem lookup_putAll (es acc : List (String × α)) (n : String) :
    (putAll es acc).lookup n =
      ((es.reverse.find? fun e => e.1 = n).map (·.2)).or (acc.lookup n) := by
  induction es generalizing acc with
  | nil => rfl
  | cons e es ih =>
    rw [putAll_cons, ih, List.reverse_cons, List.find?_append]
    cases hl : es.reverse.find? fun e => e.1 = n with
    | some f => simp
    | none =>
      by_cases h : e.1 = n
      · subst h
        simp [lookup_replaceOrAppend_self]
      · simp [h, lookup_replaceOrAppend_of_ne _ _ (Ne.symm h)]

theorem map_putAll (f : α → β) (es acc : List (String × α)) :
    (putAll es acc).map (fun e => (e.1, f e.2)) =
      putAll (es.map fun e => (e.1, f e.2)) (acc.map fun e => (e.1, f e.2)) := by
  induction es generalizing acc with
  | nil => rfl
  | cons e es ih => rw [putAll_cons, ih, map_replaceOrAppend, List.map_cons, putAll_cons]

theorem putAll_of_nodup {es acc : List (String × α)} (h : ((acc ++ es).map (·.1)).Nodup) :
    putAll es acc = acc ++ es := by
  induction es generalizing acc with
  | nil => simp [putAll]
  | cons e es ih =>
    have hn : e.1 ∉ acc.map (·.1) := by
      rw [List.map_append, List.map_cons] at h
      intro he
      exact (List.nodup_append.mp h).2.2 e.1 he e.1 List.mem_cons_self rfl
    rw [putAll_cons, replaceOrAppend_of_new _ hn, ih (by simpa using h)]
    simp

theorem lastOfNames_of_nodup {es : List (String × α)} (h : (es.map (·.1)).Nodup) :
    lastOfNames es = es := by
  rw [lastOfNames_eq_putAll, putAll_of_nodup (by simpa using h), List.nil_append]

theorem lookup_map_named (f : String → α → β) (es : List (String × α)) (name : String) :
    (es.map fun e => (e.1, f e.1 e.2)).lookup name = (es.lookup name).map (f name) := by
  induction es with
  | nil => rfl
  | cons e es ih =>
    obtain ⟨n, a⟩ := e
    by_cases h : name = n
    · subst h
      simp
    · rw [List.map_cons, lookup_cons_of_ne _ _ h, lookup_cons_of_ne _ _ h, ih]

theorem lookup_map (f : α → β) (es : List (String × α)) (name : String) :
    (es.map fun e => (e.1, f e.2)).lookup name = (es.lookup name).map f :=
  lookup_map_named (fun _ => f) es name

theorem lookup_of_not_mem {name : String} {es : List (String × α)} (h : name ∉ es.map (·.1)) :
    es.lookup name = none := by
  rwa [← lookup_isSome_iff, Option.not_isSome_iff_eq_none] at h

/-- Entries of the same distinct names are mapped alike exactly if their values are, name by name.
-/
theorem map_eq_map_iff {f : α → β} {es fs : List (String × α)}
    (hnames : es.map (·.1) = fs.map (·.1)) (hnodup : (es.map (·.1)).Nodup) :
    (es.map fun e => (e.1, f e.2)) = (fs.map fun e => (e.1, f e.2)) ↔
      ∀ name, (es.lookup name).map f = (fs.lookup name).map f := by
  constructor
  · intro h name
    rw [← lookup_map, ← lookup_map, h]
  · intro h
    induction es generalizing fs with
    | nil => rw [List.map_eq_nil_iff.mp hnames.symm]
    | cons e es ih =>
      cases fs with
      | nil => exact absurd hnames (by simp)
      | cons e' fs =>
        obtain ⟨n, a⟩ := e
        obtain ⟨n', b⟩ := e'
        obtain ⟨rfl, hrest⟩ := List.cons.inj hnames
        obtain ⟨hnew, hnodup⟩ := List.nodup_cons.mp hnodup
        have hhead : f a = f b := by simpa using h n
        have htail := ih hrest hnodup fun name => by
          by_cases hn : name = n
          · subst hn
            rw [lookup_of_not_mem hnew, lookup_of_not_mem (hrest ▸ hnew)]
          · simpa [lookup_cons_of_ne _ _ hn] using h name
        rw [List.map_cons, List.map_cons, hhead, htail]

/-- Where a name has one value wherever it stands, entries of names that are there may be left
out. -/
theorem putAll_filter {γ : Type} (value : String → Option α) (entry : γ → String × α)
    (p : γ → Bool) {xs : List γ} {acc : List (String × α)}
    (hxs : ∀ x ∈ xs, value (entry x).1 = some (entry x).2)
    (hacc : ∀ e ∈ acc, value e.1 = some e.2)
    (hp : ∀ x ∈ xs, p x = false → (entry x).1 ∈ acc.map (·.1)) :
    putAll ((xs.filter p).map entry) acc = putAll (xs.map entry) acc := by
  induction xs generalizing acc with
  | nil => rfl
  | cons x xs ih =>
    obtain ⟨hx, hxs⟩ := List.forall_mem_cons.mp hxs
    obtain ⟨hpx, hp⟩ := List.forall_mem_cons.mp hp
    rw [List.map_cons, putAll_cons]
    by_cases h : p x = true
    · rw [List.filter_cons_of_pos h, List.map_cons, putAll_cons]
      refine ih hxs (fun e he => ?_) fun y hy hyp => ?_
      · rcases mem_replaceOrAppend he with rfl | he
        · exact hx
        · exact hacc e he
      · rw [names_replaceOrAppend]
        exact mem_addName.mpr (Or.inl (hp y hy hyp))
    · rw [List.filter_cons_of_neg h]
      obtain ⟨a, ha⟩ := exists_lookup (hpx (by simpa using h))
      have hsame : a = (entry x).2 :=
        Option.some.inj ((hacc _ (mem_of_lookup ha)).symm.trans hx)
      rw [replaceOrAppend_of_lookup (hsame ▸ ha)]
      exact ih hxs hacc hp

end RouteAtlas
