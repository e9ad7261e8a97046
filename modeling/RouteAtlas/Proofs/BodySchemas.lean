import RouteAtlas.Proofs.DataKinds

/-!
The schema of a request body and the property of its type. A model is referred to without asking
what else is said of it, and any other type is documented by its property, unless that is a
reference: a body can refer to a model, but a reference is not one of its schemas.
-/

namespace RouteAtlas

variable {classes : Registry} {formats : Formats}

/-- The schema of a body describes what a property does: it refers to the model of the same name, or
it is that property. -/
inductive BodySchema.Depicts : BodySchema → Property → Prop
  | ref (n : String) (id desc : Option String) : Depicts (.model n id) (.ref n desc)
  | array (items : Property) (unique : Option Bool) (desc : Option String) :
      Depicts (.array items unique desc) (.array items unique desc)
  | map (values : Property) (desc : Option String) : Depicts (.map values desc) (.map values desc)
  | primitive (q : Primitive) : Depicts (.primitive q) (.primitive q)

namespace Ty

/-- The type that a property is taken from: optional wrappers are taken off until there is none, or
until the type is documented in a way of its own. -/
inductive Settles (rule : UnionRule) (formats : Formats) : Ty → Ty → Prop
  | own {t : Ty} {q : Property} : formats.field? t = some q → Settles rule formats t t
  | bare {t : Ty} : formats.field? t = none → t.isOptional = false → Settles rule formats t t
  | wrapped {t u w : Ty} : formats.field? t = none → t.isOptional = true →
      t.unwrap rule = .ok u → Settles rule formats u w → Settles rule formats t w

/-- Is the type documented by a reference, given by itself or as a model? -/
def IsReferred (classes : Registry) (formats : Formats) (t : Ty) : Prop :=
  (∃ n desc, formats.field? t = some (.ref n desc)) ∨
    formats.field? t = none ∧ t.isModel classes = true

/-- Nothing but a model stands where a model does. -/
theorem questions_of_isModel {t : Ty} (h : t.isModel classes = true) :
    t.isOptional = false ∧ t.enumValues? classes = none ∧ ¬1 < t.members.length ∧
      t.isContainer = false ∧ t.isMapping = false := by
  obtain ⟨d, hd⟩ := Option.isSome_iff_exists.mp h
  obtain ⟨hmodel, k, hcore, hk⟩ := exists_of_model? hd
  have henum : t.enumValues? classes = none := by
    unfold enumValues? decl?
    rw [hcore]
    simp only [hk]
    unfold ClassDecl.isModel at hmodel
    split <;> simp_all
  refine ⟨?_, henum, ?_⟩ <;> simp [isOptional, members, isContainer, isMapping, shape?, hcore]

theorem property_of_isModel {t : Ty} (hf : formats.field? t = none)
    (h : t.isModel classes = true) :
    t.property classes formats = .ok (.ref (t.simpleName classes) none) := by
  obtain ⟨ho, he, hl, hc, hm⟩ := questions_of_isModel h
  rw [property_of_not_optional hf ho]
  simp [he, hl, hc, hm, h]

/-- Of the types that are neither optional nor documented in a way of their own, the models are
those that are described by a reference. -/
theorem isModel_of_ref {t : Ty} {n : String} {desc : Option String} (hf : formats.field? t = none)
    (ho : t.isOptional = false) (h : t.property classes formats = .ok (.ref n desc)) :
    t.isModel classes = true := by
  rw [property_of_not_optional hf ho] at h
  split at h
  next =>
    obtain ⟨_, _, h⟩ := exists_of_bind_ok h
    split at h <;> cases h
  next =>
    split at h
    next => cases h
    next =>
      split at h
      next =>
        obtain ⟨_, _, h⟩ := exists_of_map_ok h
        cases h
      next =>
        split at h
        next =>
          obtain ⟨_, _, h⟩ := exists_of_map_ok h
          cases h
        next =>
          split at h
          next hm => exact hm
          next =>
            obtain ⟨_, _, h⟩ := exists_of_map_ok h
            cases h

/-- A type that has a property settles, and has the property of the type that it settles at. -/
theorem exists_settles_of_property {t : Ty} {p : Property}
    (h : t.property classes formats = .ok p) :
    ∃ w, t.Settles classes.unions formats w ∧ w.property classes formats = .ok p := by
  cases hf : formats.field? t with
  | some q => exact ⟨t, .own hf, h⟩
  | none =>
    cases ho : t.isOptional with
    | false => exact ⟨t, .bare hf ho, h⟩
    | true =>
      rw [property_of_optional hf ho] at h
      obtain ⟨u, hu, h⟩ := exists_of_bind_ok h
      have hlt := size_unwrap_lt ho hu
      obtain ⟨w, hw, hp⟩ := exists_settles_of_property h
      exact ⟨w, .wrapped hf ho hu hw, hp⟩
termination_by t.size

theorem Settles.unique {rule : UnionRule} {t w x : Ty} (h : t.Settles rule formats w)
    (h' : t.Settles rule formats x) :
    w = x := by
  induction h with
  | own hf =>
    cases h' with
    | own _ => rfl
    | bare hn _ => cases hf.symm.trans hn
    | wrapped hn _ _ _ => cases hf.symm.trans hn
  | bare hn ho =>
    cases h' with
    | own hf => cases hf.symm.trans hn
    | bare _ _ => rfl
    | wrapped _ ho' _ _ => cases ho.symm.trans ho'
  | wrapped hn ho hu _ ih =>
    cases h' with
    | own hf => cases hf.symm.trans hn
    | bare _ ho' => cases ho.symm.trans ho'
    | wrapped _ _ hu' hx =>
      cases hu.symm.trans hu'
      exact ih hx

theorem Settles.field?_or {rule : UnionRule} {t w : Ty} (h : t.Settles rule formats w) :
    (∃ q, formats.field? w = some q) ∨ formats.field? w = none ∧ w.isOptional = false := by
  induction h with
  | own hf => exact .inl ⟨_, hf⟩
  | bare hn ho => exact .inr ⟨hn, ho⟩
  | wrapped _ _ _ _ ih => exact ih

/-- A property is a reference just if its type settles at one that is documented by one. -/
theorem exists_ref_iff {t : Ty} {p : Property} (h : t.property classes formats = .ok p) :
    (∃ n desc, p = .ref n desc) ↔
      ∃ w, t.Settles classes.unions formats w ∧ w.IsReferred classes formats := by
  obtain ⟨w, hw, hp⟩ := exists_settles_of_property h
  have hiff : (∃ n desc, p = .ref n desc) ↔ w.IsReferred classes formats := by
    rcases hw.field?_or with ⟨q, hq⟩ | ⟨hn, ho⟩
    · rw [property, hq] at hp
      cases Except.ok.inj hp
      simp [IsReferred, hq]
    · constructor
      · rintro ⟨n, desc, rfl⟩
        exact .inr ⟨hn, isModel_of_ref hn ho hp⟩
      · rintro (⟨n, desc, hq⟩ | ⟨-, hm⟩)
        · cases hn.symm.trans hq
        · rw [property_of_isModel hn hm] at hp
          exact ⟨_, _, (Except.ok.inj hp).symm⟩
  rw [hiff]
  constructor
  · exact fun hr => ⟨w, hw, hr⟩
  · rintro ⟨x, hx, hr⟩
    exact hw.unique hx ▸ hr

end Ty

namespace BodySchema

/-- A property has a schema of a body that depicts it, unless it is a reference. -/
theorem ofProperty?_eq_none_iff {p : Property} :
    ofProperty? p = none ↔ ∃ n desc, p = .ref n desc := by
  cases p <;> simp [ofProperty?]

theorem depicts_of_ofProperty? {p : Property} {s : BodySchema} (h : ofProperty? p = some s) :
    s.Depicts p := by
  cases p with
  | primitive q => cases h; exact .primitive q
  | ref n desc => cases h
  | array items unique desc => cases h; exact .array items unique desc
  | map values desc => cases h; exact .map values desc

theorem depicts_model_iff {n : String} {id : Option String} {p : Property} :
    (model n id).Depicts p ↔ ∃ desc, p = .ref n desc := by
  constructor
  · rintro ⟨⟩
    exact ⟨_, rfl⟩
  · rintro ⟨desc, rfl⟩
    exact .ref n id desc

end BodySchema

namespace Action

/-- The parameter of the body with a schema. -/
def bodyWith (classes : Registry) (a : Action) (s : BodySchema) : Parameter :=
  .body ⟨some "body", some (a.body.simpleName classes), true, some s⟩

theorem bodyParameter_of_model {a : Action} (hb : a.hasBody = true)
    (hm : a.body.isModel classes = true) :
    a.bodyParameter classes formats =
      .ok [a.bodyWith classes
        (.model (a.body.simpleName classes) (some (a.body.fullName classes)))] := by
  rw [bodyParameter, if_pos hb, bodySchema, if_pos hm]
  rfl

/-- The parameter of a body that is no model. -/
theorem bodyParameter_of_property {a : Action} {p : Property} (hb : a.hasBody = true)
    (hm : a.body.isModel classes = false) (h : a.body.property classes formats = .ok p) :
    a.bodyParameter classes formats =
      match BodySchema.ofProperty? p with
      | some s => .ok [a.bodyWith classes s]
      | none => .error bodyFault := by
  rw [bodyParameter, if_pos hb, bodySchema, hm, if_neg Bool.false_ne_true, h]
  dsimp only
  cases BodySchema.ofProperty? p <;> rfl

theorem bodyWith_inj {a : Action} {s s' : BodySchema} :
    (.ok [a.bodyWith classes s] : Except Fault (List Parameter)) = .ok [a.bodyWith classes s'] ↔
      s = s' := by
  simp [bodyWith]

/-- A body whose type has a property is documented as that property just if its type is a model that
no other property is given for, or is no model and settles at no reference. A model is referred to
in any case, and a body that settles at a reference is refused. -/
theorem bodyParameter_depicts_iff {a : Action} {p : Property} (hb : a.hasBody = true)
    (h : a.body.property classes formats = .ok p) :
    ((∃ s, a.bodyParameter classes formats = .ok [a.bodyWith classes s] ∧ s.Depicts p) ↔
      if a.body.isModel classes then
        ∀ q, formats.field? a.body = some q → ∃ desc, q = .ref (a.body.simpleName classes) desc
      else ¬∃ w, a.body.Settles classes.unions formats w ∧ w.IsReferred classes formats) ∧
    (a.body.isModel classes = true →
      a.bodyParameter classes formats =
        .ok [a.bodyWith classes
          (.model (a.body.simpleName classes) (some (a.body.fullName classes)))]) ∧
    (a.body.isModel classes = false →
      (∃ w, a.body.Settles classes.unions formats w ∧ w.IsReferred classes formats) →
        a.bodyParameter classes formats = .error bodyFault) := by
  refine ⟨?_, bodyParameter_of_model hb, fun hm hr => ?_⟩
  · cases hm : a.body.isModel classes with
    | true =>
      rw [bodyParameter_of_model hb hm, if_pos rfl]
      simp only [bodyWith_inj, exists_eq_left', BodySchema.depicts_model_iff]
      cases hf : formats.field? a.body with
      | some q =>
        rw [Ty.property, hf] at h
        cases Except.ok.inj h
        simp
      | none =>
        rw [Ty.property_of_isModel hf hm] at h
        cases Except.ok.inj h
        simp
    | false =>
      rw [bodyParameter_of_property hb hm h, if_neg (by simp), ← Ty.exists_ref_iff h,
        ← BodySchema.ofProperty?_eq_none_iff]
      cases hs : BodySchema.ofProperty? p with
      | none => simp
      | some s => exact iff_of_true ⟨s, rfl, BodySchema.depicts_of_ofProperty? hs⟩ (by simp)
  · rw [bodyParameter_of_property hb hm h,
      BodySchema.ofProperty?_eq_none_iff.mpr ((Ty.exists_ref_iff h).mpr hr)]

/-- Takes a body of a type. -/
def saving (t : Ty) : Action where
  method := "POST"
  path := .literal (.str "users")
  query := .empty
  headers := .empty
  results := []
  body := t
  consumes := []
  produces := []

def people : Registry where
  decls := [⟨"User", .record false, "User", "app", "User", none, [("id", .scalar .int)], []⟩]

/-- A user, or nothing. -/
def someUser : Ty := .union [.declared "User", .nothing]

/-- Users are documented by their names. -/
def usersByName : Formats := ⟨[(.declared "User", .plain "string" none)], []⟩

theorem bodyParameter_depicts_iff_users :
    ∃ s, (saving someUser).bodyParameter people usersByName =
        .ok [(saving someUser).bodyWith people s] ∧ s.Depicts (.plain "string" none) := by
  have h : (saving someUser).body.property people usersByName = .ok (.plain "string" none) := by
    cbv
  refine (bodyParameter_depicts_iff rfl h).1.mpr ?_
  rw [if_neg (show ¬(saving someUser).body.isModel people = true by decide)]
  rintro ⟨w, hw, hr⟩
  have hw' : w = .declared "User" := hw.unique (.wrapped rfl rfl rfl (.own rfl))
  subst hw'
  rcases hr with ⟨n, desc, hq⟩ | ⟨hn, -⟩
  · cases Option.some.inj hq
  · cases hn

/-- A user, or nothing, is described by a reference and is refused as a body. Users that are
documented by their names are referred to all the same. -/
theorem bodyParameter_refuses_someUser :
    (someUser.property people .standard = .ok (.ref "User" none) ∧
      (saving someUser).bodyParameter people .standard = .error bodyFault) ∧
    (Ty.declared "User").property people usersByName = .ok (.plain "string" none) ∧
      (saving (.declared "User")).bodyParameter people usersByName =
        .ok [(saving (.declared "User")).bodyWith people (.model "User" (some "app.User"))] :=
  ⟨⟨by cbv, by cbv⟩, by cbv, by cbv⟩

end Action

end RouteAtlas
