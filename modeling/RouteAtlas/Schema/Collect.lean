import RouteAtlas.Schema.Describe

/-!
The models needed to describe a type: those it names, and those their fields name in turn. A model
whose identity is known is not entered again, which ends the walk on types that refer to themselves.
-/

namespace RouteAtlas

/-- What a type asks for when the models of a document are gathered. -/
inductive Demand where
  /-- These types are to be looked at in its place. -/
  | types (ts : List Ty)
  /-- These models describe it. -/
  | models (ms : List Schema)
  | model (d : ClassDecl)

/-- One step: a wrapper asks for what it wraps, a model for itself. -/
def Ty.demand (classes : Registry) (formats : Formats) (t : Ty) : Except Fault Demand :=
  match t with
  | .absent => .ok (.types [])
  | t =>
    if (formats.field? t).isSome then .ok (.types [])
    else match formats.models? t with
      | some ms => .ok (.models ms)
      | none =>
        if t.isOptional then (t.unwrap classes.unions).map fun u => .types [u]
        else if 1 < t.members.length then .ok (.types t.members)
        else if t.isContainer then .ok (.types [t.element])
        else if t.isMapping then .ok (.types [t.value])
        else match t.model? classes with
          | some d => .ok (.model d)
          | none => .ok (.types [])

namespace Ty

theorem sizes_lt_of_demand {classes : Registry} {formats : Formats} {t : Ty} {ts : List Ty}
    (h : t.demand classes formats = .ok (.types ts)) : sizes ts < t.size := by
  have hp := size_pos t
  have hc := size_core_le t
  unfold demand at h
  split at h
  · simp at h; subst h; simp [sizes, size]
  · split at h
    · simp at h; subst h; simpa [sizes] using hp
    · split at h
      · simp at h
      · split at h
        next ho =>
          cases hu : t.unwrap classes.unions with
          | error e => rw [hu] at h; simp [Except.map] at h
          | ok u =>
            rw [hu] at h
            simp only [Except.map, Except.ok.injEq, Demand.types.injEq] at h
            subst h
            simpa [sizes] using size_unwrap_lt ho hu
        · split at h
          next hl =>
            simp only [Except.ok.injEq, Demand.types.injEq] at h
            subst h
            unfold members at hl ⊢
            split at hl <;> simp_all [size]
            all_goals omega
          · split at h
            next hcont =>
              simp only [Except.ok.injEq, Demand.types.injEq] at h
              subst h
              simpa [sizes] using size_element_lt hcont
            · split at h
              next hmap =>
                simp only [Except.ok.injEq, Demand.types.injEq] at h
                subst h
                simpa [sizes] using size_value_lt hmap
              · split at h
                · simp at h
                · simp at h; subst h; simpa [sizes] using hp

theorem model_of_demand {classes : Registry} {formats : Formats} {t : Ty} {d : ClassDecl}
    (h : t.demand classes formats = .ok (.model d)) : d ∈ classes.decls := by
  have hm : t.model? classes = some d := by
    unfold demand at h
    repeat' split at h
    all_goals first
      | (simp at h; done)
      | (cases hu : t.unwrap classes.unions <;> simp [hu, Except.map] at h; done)
      | (simp only [Except.ok.injEq, Demand.model.injEq] at h; subst h; assumption)
  unfold model? decl? at hm
  obtain ⟨hd, _⟩ := Option.filter_eq_some_iff.mp hm
  split at hd
  · exact Registry.mem_of_find? hd
  · simp at hd

end Ty

namespace Models

/-- How many of the classes are not among the models yet. -/
def unseen (decls : List ClassDecl) (ms : Models) : Nat :=
  (decls.filter fun d => !ms.has d.identity).length

theorem has_append (ms ns : Models) (i : String) : has (ms ++ ns) i = (has ms i || has ns i) := by
  simp [has]

/-- The first class counts if it is not among the models. -/
theorem unseen_cons (d : ClassDecl) (ds : List ClassDecl) (ms : Models) :
    unseen (d :: ds) ms = (if ms.has d.identity then 0 else 1) + unseen ds ms := by
  cases hm : ms.has d.identity with
  | true => simp [unseen, hm]
  | false => simp [unseen, hm, Nat.add_comm]

theorem unseen_le_of_has {decls : List ClassDecl} {ms ns : Models}
    (h : ∀ i, ms.has i = true → ns.has i = true) : unseen decls ns ≤ unseen decls ms := by
  induction decls with
  | nil => exact Nat.le_refl 0
  | cons d ds ih =>
    rw [unseen_cons, unseen_cons]
    cases hm : ms.has d.identity with
    | true => simpa [h _ hm] using ih
    | false =>
      have hone : (if ns.has d.identity then 0 else 1) ≤ 1 := by split <;> omega
      simpa using Nat.add_le_add hone ih

theorem unseen_lt_of_new {decls : List ClassDecl} {ms : Models} {d : ClassDecl} (hd : d ∈ decls)
    (hn : ms.has d.identity = false) (s : Schema) :
    unseen decls (ms ++ [(d.identity, s)]) < unseen decls ms := by
  have hgrow : ∀ i, ms.has i = true → has (ms ++ [(d.identity, s)]) i = true := fun i hi => by
    simp [has_append, hi]
  induction decls with
  | nil => simp at hd
  | cons c cs ih =>
    rw [unseen_cons, unseen_cons]
    rcases List.mem_cons.mp hd with rfl | hd
    · have hself : has (ms ++ [(d.identity, s)]) d.identity = true := by simp [has]
      have hle : unseen cs (ms ++ [(d.identity, s)]) ≤ unseen cs ms := unseen_le_of_has hgrow
      simp only [hself, hn, if_true, Bool.false_eq_true, if_false]
      omega
    · have hlt := ih hd
      have hfirst : unseen [c] (ms ++ [(d.identity, s)]) ≤ unseen [c] ms := unseen_le_of_has hgrow
      rw [unseen_cons, unseen_cons] at hfirst
      simp only [unseen, List.filter_nil, List.length_nil, Nat.add_zero] at hfirst hlt ⊢
      omega

theorem has_addNew {ms : Models} {s : Schema} {i : String} (h : ms.has i = true) :
    (ms.addNew s).has i = true := by
  unfold addNew
  split
  · exact h
  · simp [has_append, h]

theorem has_foldl_addNew (ss : List Schema) {ms : Models} {i : String} (h : ms.has i = true) :
    has (ss.foldl addNew ms) i = true := by
  induction ss generalizing ms with
  | nil => exact h
  | cons s ss ih => exact ih (has_addNew h)

end Models

/-- The models with those needed for the types on the stack, the first type first. -/
def collectStack (classes : Registry) (formats : Formats) (stack : List Ty) (known : Models) :
    Except Fault Models :=
  match stack with
  | [] => .ok known
  | t :: rest =>
    match hd : t.demand classes formats with
    | .error e => .error e
    | .ok (.types ts) =>
      have := Ty.sizes_lt_of_demand hd
      collectStack classes formats (ts ++ rest) known
    | .ok (.models ms) =>
      collectStack classes formats rest (ms.foldl Models.addNew known)
    | .ok (.model d) =>
      if _hn : known.has d.identity = true then collectStack classes formats rest known
      else
        match d.documented classes with
        | .error e => .error e
        | .ok fields =>
          match d.schema classes formats fields with
          | .error e => .error e
          | .ok s =>
            have := Ty.model_of_demand hd
            collectStack classes formats (fields.map (·.2) ++ rest) (known ++ [(d.identity, s)])
termination_by (Models.unseen classes.decls known, Ty.sizes stack)
decreasing_by
  · apply Prod.Lex.right
    simp only [Ty.sizes_append, Ty.sizes]
    omega
  · have hle : Models.unseen classes.decls (ms.foldl Models.addNew known) ≤
        Models.unseen classes.decls known :=
      Models.unseen_le_of_has fun i hi => Models.has_foldl_addNew ms hi
    rcases Nat.lt_or_eq_of_le hle with h | h
    · exact Prod.Lex.left _ _ h
    · rw [h]
      apply Prod.Lex.right
      have := Ty.size_pos t
      simp only [Ty.sizes]
      omega
  · apply Prod.Lex.right
    have := Ty.size_pos t
    simp only [Ty.sizes]
    omega
  · apply Prod.Lex.left
    exact Models.unseen_lt_of_new this (by simpa using _hn) s

/-- The known models with every model needed to describe a type. -/
def collectModels (classes : Registry) (formats : Formats) (t : Ty) (known : Models) :
    Except Fault Models := collectStack classes formats [t] known

end RouteAtlas
