import Mathlib
import RouteAtlas.Proofs.Coverage

/-!
The kind of data that a parameter is documented with and the property that a field is documented
with. Both tell the types apart in the same way once nothing is around them; the property comes
there through any number of wrappers, the kind of data through one optional wrapper and the metadata
inside, and it refuses a type that cannot be a key.
-/

namespace RouteAtlas

variable {classes : Registry}

/-- The kind of data of a property. -/
def Property.dataType : Property → DataType
  | .primitive q => ⟨q.type, q.format⟩
  | .ref n _ => ⟨n, none⟩
  | .array _ _ _ => .array
  | .map _ _ => .object

/-- A kind of data tells an array, a mapping, a model and a scalar as a property does. -/
structure DataType.Agrees (d : DataType) (p : Property) : Prop where
  array : d = .array ↔ ∃ items unique desc, p = .array items unique desc
  object : d = .object ↔ ∃ values desc, p = .map values desc
  ref : ∀ n desc, p = .ref n desc → d = ⟨n, none⟩
  primitive : ∀ q, p = .primitive q → d = ⟨q.type, q.format⟩

/-- A kind of data agrees with a property just if it is the property's own, unless this is that of a
model whose name is taken for an array or a mapping. -/
theorem DataType.agrees_iff {d : DataType} {p : Property}
    (hp : ∀ q, p = .primitive q → q.type ≠ "array" ∧ q.type ≠ "object") :
    d.Agrees p ↔ d = p.dataType ∧ ∀ n desc, p = .ref n desc → n ≠ "array" ∧ n ≠ "object" := by
  cases p with
  | primitive q =>
    obtain ⟨harray, hobject⟩ := hp q rfl
    refine ⟨fun h => ⟨h.primitive q rfl, nofun⟩, ?_⟩
    rintro ⟨rfl, -⟩
    exact ⟨by simp [Property.dataType, DataType.array, harray],
      by simp [Property.dataType, DataType.object, hobject], nofun, fun _ hq => by cases hq; rfl⟩
  | ref n desc =>
    constructor
    · intro h
      have hd : d = ⟨n, none⟩ := h.ref n desc rfl
      refine ⟨hd, fun _ _ hn => ?_⟩
      cases hn
      subst hd
      exact ⟨fun hn => by simpa [hn] using h.array.mp (by rw [hn]; rfl),
        fun hn => by simpa [hn] using h.object.mp (by rw [hn]; rfl)⟩
    · rintro ⟨rfl, h⟩
      obtain ⟨harray, hobject⟩ := h n desc rfl
      exact ⟨by simp [Property.dataType, DataType.array, harray],
        by simp [Property.dataType, DataType.object, hobject],
        fun _ _ hn => by cases hn; rfl, nofun⟩
  | array items unique desc =>
    refine ⟨fun h => ⟨h.array.mpr ⟨items, unique, desc, rfl⟩, nofun⟩, ?_⟩
    rintro ⟨rfl, -⟩
    exact ⟨by simp [Property.dataType],
      by simp [Property.dataType, DataType.array, DataType.object], nofun, nofun⟩
  | map values desc =>
    refine ⟨fun h => ⟨h.object.mpr ⟨values, desc, rfl⟩, nofun⟩, ?_⟩
    rintro ⟨rfl, -⟩
    exact ⟨by simp [Property.dataType, DataType.array, DataType.object],
      by simp [Property.dataType], nofun, nofun⟩

theorem DataType.name_ofEnum_ne (values : List Value) :
    (ofEnum values).name ≠ "array" ∧ (ofEnum values).name ≠ "object" := by
  unfold ofEnum
  split <;> decide

namespace Ty

/-- Is the type a union, with nothing around it? -/
def isUnion : Ty → Bool
  | .union _ => true
  | .bars _ => true
  | _ => false

/-- A type with all optional wrappers and all metadata around it taken off. -/
inductive Peels (rule : UnionRule) : Ty → Ty → Prop
  | bare {t : Ty} : t.isOptional = false → Peels rule t t.core
  | wrapped {t u v : Ty} : t.isOptional = true → t.unwrap rule = .ok u → Peels rule u v →
      Peels rule t v

/-- The kind of data of a type that nothing is around. -/
def bareData (classes : Registry) (t : Ty) : DataType :=
  match t.enumValues? classes with
  | some values => .ofEnum values
  | none =>
    match t.scalarData? with
    | some d => d
    | none =>
      if t.isContainer then .array
      else if t.isMapping then .object
      else if t.isModel classes then ⟨t.simpleName classes, none⟩
      else .string

theorem core_core (t : Ty) : t.core.core = t.core := by
  fun_induction core t with
  | case1 _ _ ih => exact ih
  | case2 t h => rw [core]; exact h

-- Every question about a type is one about its core.
section

variable (t : Ty)

@[simp] theorem isOptional_core : t.core.isOptional = t.isOptional := by
  simp only [isOptional, core_core]

@[simp] theorem members_core : t.core.members = t.members := by simp only [members, core_core]

@[simp] theorem shape?_core : t.core.shape? = t.shape? := by simp only [shape?, core_core]

@[simp] theorem args_core : t.core.args = t.args := by simp only [args, core_core]

@[simp] theorem isContainer_core : t.core.isContainer = t.isContainer := by simp [isContainer]

@[simp] theorem isUnique_core : t.core.isUnique = t.isUnique := by simp [isUnique]

@[simp] theorem isMapping_core : t.core.isMapping = t.isMapping := by simp [isMapping]

@[simp] theorem element_core : t.core.element = t.element := by simp [element]

@[simp] theorem value_core : t.core.value = t.value := by simp [value]

@[simp] theorem isModel_core : t.core.isModel classes = t.isModel classes := by
  simp only [isModel, model?, decl?, core_core]

@[simp] theorem enumValues?_core : t.core.enumValues? classes = t.enumValues? classes := by
  simp only [enumValues?, decl?, core_core]

@[simp] theorem simpleName_core : t.core.simpleName classes = t.simpleName classes := by
  simp only [simpleName, core_core]

end

theorem bareType_of_not_optional {rule : UnionRule} {t : Ty} (h : t.isOptional = false) :
    t.bareType rule = .ok t.core := by
  simp [bareType, h]

/-- The kind of data is that of the bare type, where this is an enumeration or can be a key. -/
theorem dataType_eq (t : Ty) : t.dataType classes = (t.bareType classes.unions).bind fun u =>
    if u.isEnum classes then .ok (u.bareData classes)
    else u.hashable.map fun _ => u.bareData classes := by
  unfold dataType
  split
  next => rfl
  next => rfl
  next =>
    refine bind_congr fun u => ?_
    unfold bareData isEnum
    cases u.enumValues? classes with
    | some values => rfl
    | none =>
      cases u.hashable with
      | error e => rfl
      | ok _ =>
        cases u.scalarData? with
        | some d => rfl
        | none =>
          -- The same questions in the same order on both sides.
          simp only [Option.isSome_none, Bool.false_eq_true, if_false, Except.map]
          repeat' split
          all_goals rfl

theorem core_of_bareType {rule : UnionRule} {t u : Ty} (h : t.bareType rule = .ok u) :
    u.core = u := by
  unfold bareType at h
  split at h
  next =>
    obtain ⟨v, _, rfl⟩ := exists_of_map_ok h
    exact core_core v
  next =>
    cases Except.ok.inj h
    exact core_core t

/-- A class without arguments can be a key. -/
theorem unhashable?_of_isEnum {t : Ty} (hcore : t.core = t) (h : t.isEnum classes = true) :
    t.unhashable? = none := by
  unfold isEnum enumValues? decl? at h
  rw [hcore] at h
  cases t with
  | declared k => rfl
  | _ => simp at h

/-- The kind of data is found just if the bare type can be a key. -/
theorem exists_dataType_iff {t u : Ty} (h : t.bareType classes.unions = .ok u) :
    (∃ d, t.dataType classes = .ok d) ↔ u.unhashable? = none := by
  rw [dataType_eq, h]
  simp only [Except.bind]
  split
  next he => simp [unhashable?_of_isEnum (core_of_bareType h) he]
  next he =>
    unfold hashable
    cases u.unhashable? <;> simp [Except.map]

theorem dataType_eq_bareData {t u : Ty} {d : DataType} (h : t.bareType classes.unions = .ok u)
    (hd : t.dataType classes = .ok d) : d = u.bareData classes := by
  rw [dataType_eq, h] at hd
  simp only [Except.bind] at hd
  split at hd
  next => exact (Except.ok.inj hd).symm
  next =>
    obtain ⟨_, _, rfl⟩ := exists_of_map_ok hd
    rfl

/-- Nothing that a property or a kind of data is told from is known of an optional type. -/
theorem bareData_of_isOptional {t : Ty} (h : t.isOptional = true) :
    t.bareData classes = .string := by
  unfold isOptional at h
  unfold bareData enumValues? decl? scalarData? isContainer isMapping isModel model? decl? shape?
  cases hcore : t.core <;> simp only [hcore] at h ⊢ <;> try simp at h
  all_goals
    cases t <;> simp_all [core]

/-- The property of a type that is not optional and has none of its own. -/
theorem property_of_not_optional {formats : Formats} {t : Ty} (hf : formats.field? t = none)
    (h : t.isOptional = false) :
    t.property classes formats =
      match t.enumValues? classes with
      | some values => t.enumProperty classes values
      | none =>
        if 1 < t.members.length then .ok (.plain "object" none)
        else if t.isContainer then
          (t.element.property classes formats).map fun p =>
            .array p (if t.isUnique then some true else none) none
        else if t.isMapping then
          (t.value.property classes formats).map fun p => .map p none
        else if t.isModel classes then .ok (.ref (t.simpleName classes) none)
        else (t.dataType classes).map fun d => .plain d.name d.format := by
  rw [property, hf]
  simp only [h, Bool.false_eq_true, dif_neg, not_false_eq_true]
  rfl

theorem property_of_optional {formats : Formats} {t : Ty} (hf : formats.field? t = none)
    (ho : t.isOptional = true) :
    t.property classes formats =
      (t.unwrap classes.unions).bind fun u => u.property classes formats := by
  rw [property, hf]
  simp only [ho, dif_pos]
  cases t.unwrap classes.unions <;> rfl

theorem core_of_not_annotated {t : Ty} (h : t.isAnnotated = false) : t.core = t := by
  cases t with
  | annotated b notes => cases h
  | _ => rfl

/-- Metadata around a type changes no property but that of an enumeration, which it hides. -/
theorem property_core {t : Ty} {p : Property} (ho : t.isOptional = false)
    (h : t.property classes .standard = .ok p) : t.core.property classes .standard = .ok p := by
  cases ha : t.isAnnotated with
  | false => rw [core_of_not_annotated ha, h]
  | true =>
    have hdata : t.core.dataType classes = t.dataType classes := by
      rw [dataType_eq, dataType_eq, bareType_of_not_optional ho,
        bareType_of_not_optional (by rw [isOptional_core, ho]), core_core]
    rw [property_of_not_optional (Formats.standard_field? t) ho] at h
    rw [property_of_not_optional (Formats.standard_field? t.core) (by rw [isOptional_core, ho])]
    simp only [enumValues?_core, members_core, isContainer_core, element_core, isUnique_core,
      isMapping_core, value_core, isModel_core, simpleName_core, hdata]
    split at h
    next values _ =>
      obtain ⟨_, _, h⟩ := exists_of_bind_ok h
      rw [ha, if_pos rfl] at h
      cases h
    next => exact h

/-- A scalar is neither a container nor a mapping nor a model. -/
theorem scalarData?_eq_none (classes : Registry) {t : Ty}
    (h : t.isContainer = true ∨ t.isMapping = true ∨ t.isModel classes = true) :
    t.scalarData? = none := by
  cases t with
  | scalar s => simp [isContainer, isMapping, isModel, model?, decl?, shape?, core] at h
  | _ => rfl

theorem name_scalarData?_ne {t : Ty} {d : DataType} (h : t.scalarData? = some d) :
    d.name ≠ "array" ∧ d.name ≠ "object" := by
  cases t with
  | scalar s => cases s <;> cases h <;> decide
  | _ => cases h

theorem members_of_not_union {t : Ty} (hu : t.core.isUnion = false) : t.members = [t.core] := by
  unfold members
  cases hcore : t.core <;> simp_all [isUnion]

/-- The kind of data of a type that nothing is around is that of its property, and no scalar is
documented with the kind of an array or a mapping. -/
theorem bareData_of_property {v : Ty} {p : Property} (ho : v.isOptional = false)
    (hcore : v.core = v) (hu : v.isUnion = false) (h : v.property classes .standard = .ok p) :
    v.bareData classes = p.dataType ∧
      ∀ q, p = .primitive q → q.type ≠ "array" ∧ q.type ≠ "object" := by
  have hbare : v.bareType classes.unions = .ok v := by rw [bareType_of_not_optional ho, hcore]
  have hmembers : v.members.length = 1 := by
    rw [members_of_not_union (by rw [hcore, hu]), List.length_singleton]
  rw [property_of_not_optional (Formats.standard_field? v) ho] at h
  split at h
  next values hv =>
    obtain ⟨d, hd, h⟩ := exists_of_bind_ok h
    split at h
    next => cases h
    next =>
      cases Except.ok.inj h
      have hdv : d = .ofEnum values := by
        rw [dataType_eq_bareData hbare hd, bareData, hv]
      subst hdv
      refine ⟨by rw [bareData, hv]; rfl, fun _ hq => ?_⟩
      cases hq
      exact DataType.name_ofEnum_ne values
  next hv =>
    rw [hmembers, if_neg (by decide)] at h
    split at h
    next hc =>
      obtain ⟨items, _, rfl⟩ := exists_of_map_ok h
      have hs := scalarData?_eq_none classes (.inl hc)
      exact ⟨by simp [bareData, hv, hs, hc, Property.dataType], fun _ hq => by cases hq⟩
    next hc =>
      split at h
      next hm =>
        obtain ⟨values, _, rfl⟩ := exists_of_map_ok h
        have hs := scalarData?_eq_none classes (.inr (.inl hm))
        exact ⟨by simp [bareData, hv, hs, hc, hm, Property.dataType], fun _ hq => by cases hq⟩
      next hm =>
        split at h
        next hmodel =>
          cases Except.ok.inj h
          have hs := scalarData?_eq_none classes (.inr (.inr hmodel))
          exact ⟨by simp [bareData, hv, hs, hc, hm, hmodel, Property.dataType],
            fun _ hq => by cases hq⟩
        next hmodel =>
          obtain ⟨d, hd, rfl⟩ := exists_of_map_ok h
          obtain rfl := dataType_eq_bareData hbare hd
          refine ⟨rfl, fun _ hq => ?_⟩
          cases hq
          simp only [bareData, hv, hc, hm, hmodel, if_neg, Bool.false_eq_true, not_false_eq_true]
          split
          next s hs => exact name_scalarData?_ne hs
          next => decide

/-- The bare type has nothing around it, or the optional wrapper that is taken off had another one
inside, behind metadata. -/
theorem Peels.bareType {rule : UnionRule} {t v : Ty} (h : t.Peels rule v) :
    ∃ u, t.bareType rule = .ok u ∧ (u = v ∨ u.isOptional = true) := by
  cases h with
  | bare ho => exact ⟨t.core, bareType_of_not_optional ho, .inl rfl⟩
  | @wrapped _ u _ ho hu hv =>
    refine ⟨u.core, by simp [Ty.bareType, ho, hu, Except.map], ?_⟩
    cases hv with
    | bare _ => exact .inl rfl
    | wrapped ho' _ _ => exact .inr (by rw [isOptional_core, ho'])

theorem Peels.isOptional {rule : UnionRule} {t v : Ty} (h : t.Peels rule v) :
    v.isOptional = false := by
  induction h with
  | @bare t ho => rw [isOptional_core, ho]
  | wrapped _ _ _ ih => exact ih

theorem Peels.core {rule : UnionRule} {t v : Ty} (h : t.Peels rule v) : v.core = v := by
  induction h with
  | @bare t _ => exact core_core t
  | wrapped _ _ _ ih => exact ih

/-- The property of a type is that of the type with nothing around it. -/
theorem Peels.property {t v : Ty} {p : Property} (hv : t.Peels classes.unions v)
    (h : t.property classes .standard = .ok p) : v.property classes .standard = .ok p := by
  induction hv with
  | bare ho => exact property_core ho h
  | @wrapped t u v ho hu _ ih =>
    rw [property_of_optional (Formats.standard_field? t) ho, hu] at h
    exact ih h

/-- A user, and a model that is named like an array. -/
def takenNames : Registry where
  decls := [
    ⟨"User", .record false, "User", "app", "User", none, [("id", .scalar .int)], []⟩,
    ⟨"array", .record false, "array", "app", "array", none, [("id", .scalar .int)], []⟩]

/-- Users in a list, or nothing, behind a note. -/
def notedUsers : Ty :=
  .annotated (.union [.applied ⟨.builtin, "list"⟩ [.declared "User"], .nothing])
    [.str "All of them."]

/-- Numbers in a list, or nothing, twice over. -/
def doublyOptional : Ty :=
  .union [.annotated (.union [.applied ⟨.builtin, "list"⟩ [.scalar .int], .nothing])
    [.str "Again."], .nothing]

/-- Numbers in a list, with a note on them that cannot be a key. -/
def notedNumbers : Ty :=
  .applied ⟨.builtin, "list"⟩ [.annotated (.scalar .int) [.list [.str "positive"]]]

end Ty

end RouteAtlas
