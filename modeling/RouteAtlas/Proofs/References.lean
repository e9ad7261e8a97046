import Mathlib
import RouteAtlas.Proofs.DefinitionFold
import RouteAtlas.Proofs.ProperUnions

/-!
No reference of a built document dangles: what operations and definitions refer to by a short name
is defined under it.
-/

namespace RouteAtlas

def BodySchema.refs : BodySchema → List String
  | .model n _ => [n]
  | .array items _ _ => items.refs
  | .map values _ => values.refs
  | .primitive _ => []

def Parameter.refs : Parameter → List String
  | .simple _ _ => []
  | .body b => (b.schema.map BodySchema.refs).getD []

def Response.refs (r : Response) : List String := (r.schema.map Property.refs).getD []

def Operation.refs (op : Operation) : List String :=
  op.parameters.flatMap Parameter.refs ++ op.responses.flatMap (·.2.refs)

def PathItem.refs (item : PathItem) : List String :=
  item.operations.flatMap (·.2.refs) ++ item.parameters.flatMap Parameter.refs

def Schema.refs (s : Schema) : List String := s.properties.flatMap (·.2.refs)

/-- The short names that are referred to anywhere in a document. -/
def Document.refs (d : Document) : List String :=
  d.paths.flatMap (·.2.refs) ++ d.definitions.flatMap (·.2.refs)

variable {classes : Registry}

theorem Ty.simpleName_of_model? {t : Ty} {d : ClassDecl} (h : t.model? classes = some d) :
    t.simpleName classes = d.name := by
  obtain ⟨-, k, hcore, hk⟩ := exists_of_model? h
  simp [simpleName, hcore, hk]

/-- A reference in the property of a type is to a model that the type asks for. -/
theorem Ty.asks_of_ref {t : Ty} {p : Property} {n : String}
    (h : t.property classes .standard = .ok p) (hn : n ∈ p.refs) :
    ∃ d, t.Asks classes d ∧ d.name = n := by
  fun_induction Ty.property classes .standard t generalizing p with
  | case1 t p hf =>
    -- The standard formats have no property for a type.
    cases (Formats.standard_field? t).symm.trans hf
  | case2 => cases h
  | case3 t _ ho u hu _ ih =>
    obtain ⟨d, hd, hdn⟩ := ih h hn
    have hdemand : t.demand classes .standard = .ok (.types [u]) := by
      rw [demand_standard, if_pos ho, hu]
      rfl
    exact ⟨d, .part hdemand (List.mem_singleton_self u) hd, hdn⟩
  | case4 t _ _ values _ =>
    obtain ⟨_, _, h⟩ := exists_of_bind_ok h
    split at h
    next => cases h
    next =>
      cases Except.ok.inj h
      cases hn
  | case5 =>
    cases Except.ok.inj h
    cases hn
  | case6 t _ ho _ hl hc _ ih =>
    obtain ⟨q, hq, rfl⟩ := exists_of_map_ok h
    obtain ⟨d, hd, hdn⟩ := ih hq hn
    have hdemand : t.demand classes .standard = .ok (.types [t.element]) := by
      rw [demand_standard, if_neg ho, if_neg hl, if_pos hc]
    exact ⟨d, .part hdemand (List.mem_singleton_self _) hd, hdn⟩
  | case7 t _ ho _ hl hc hm _ ih =>
    obtain ⟨q, hq, rfl⟩ := exists_of_map_ok h
    obtain ⟨d, hd, hdn⟩ := ih hq hn
    have hdemand : t.demand classes .standard = .ok (.types [t.value]) := by
      rw [demand_standard, if_neg ho, if_neg hl, if_neg hc, if_pos hm]
    exact ⟨d, .part hdemand (List.mem_singleton_self _) hd, hdn⟩
  | case8 t _ _ _ _ _ _ hm =>
    cases Except.ok.inj h
    obtain ⟨d, hd⟩ := Option.isSome_iff_exists.mp hm
    refine ⟨d, .model (demand_of_model? hd), ?_⟩
    rw [List.mem_singleton.mp hn, simpleName_of_model? hd]
  | case9 =>
    obtain ⟨_, _, rfl⟩ := exists_of_map_ok h
    cases hn

theorem asks_of_bodySchema_ref {t : Ty} {b : BodySchema} {n : String}
    (h : bodySchema classes .standard t = .ok b) (hn : n ∈ b.refs) :
    ∃ d, t.Asks classes d ∧ d.name = n := by
  unfold bodySchema at h
  split at h
  next hm =>
    cases Except.ok.inj h
    obtain ⟨d, hd⟩ := Option.isSome_iff_exists.mp hm
    refine ⟨d, .model (Ty.demand_of_model? hd), ?_⟩
    rw [List.mem_singleton.mp hn, Ty.simpleName_of_model? hd]
  next =>
    split at h
    next => cases h
    next p hp =>
      split at h
      next c hc =>
        cases Except.ok.inj h
        refine Ty.asks_of_ref hp ?_
        cases p <;> cases hc <;> exact hn
      next => cases h

/-- The type of the body that a result declares. -/
def ResultInfo.type? : ResultInfo → Option Ty
  | .ofType t => some t
  | .statusOfType _ t => some t
  | _ => none

namespace Action

/-- The types of the declared results. -/
def declaredTypes (a : Action) : List Ty := a.results.filterMap ResultInfo.type?

theorem resultTypes_eq (a : Action) : a.resultTypes = Ty.distinct [] a.declaredTypes := by
  unfold resultTypes declaredTypes
  congr 2

theorem asks_of_response_ref {r : ResultInfo} {code : String} {resp : Response} {n : String}
    (h : response classes .standard r = .ok (some (code, resp))) (hn : n ∈ resp.refs) :
    ∃ t, r.type? = some t ∧ ∃ d, t.Asks classes d ∧ d.name = n := by
  cases r with
  | ofType t =>
    obtain ⟨p, hp, h⟩ := exists_of_bind_ok h
    cases Except.ok.inj h
    exact ⟨t, rfl, Ty.asks_of_ref hp hn⟩
  | statusOfType s t =>
    obtain ⟨_, _, h⟩ := exists_of_bind_ok h
    obtain ⟨p, hp, h⟩ := exists_of_bind_ok h
    obtain ⟨_, _, h⟩ := exists_of_bind_ok h
    cases Except.ok.inj h
    exact ⟨t, rfl, Ty.asks_of_ref hp hn⟩
  | status s =>
    obtain ⟨_, _, h⟩ := exists_of_bind_ok h
    obtain ⟨_, _, h⟩ := exists_of_bind_ok h
    cases Except.ok.inj h
    cases hn
  | empty => cases Except.ok.inj h
  | foreign v => cases h

theorem asks_of_responses_ref {rs : List ResultInfo} {acc out : List (String × Response)}
    {r : String × Response} {n : String} (h : responsesFrom classes .standard acc rs = .ok out)
    (hr : r ∈ out) (hn : n ∈ r.2.refs) :
    r ∈ acc ∨ ∃ t ∈ rs.filterMap ResultInfo.type?, ∃ d, t.Asks classes d ∧ d.name = n := by
  induction rs generalizing acc with
  | nil =>
    cases Except.ok.inj h
    exact Or.inl hr
  | cons x rs ih =>
    obtain ⟨o, ho, h⟩ := exists_of_bind_ok h
    have hlater : ∀ t ∈ rs.filterMap ResultInfo.type?,
        t ∈ (x :: rs).filterMap ResultInfo.type? := fun t ht =>
      ((List.sublist_cons_self x rs).filterMap _).subset ht
    cases o with
    | none => exact (ih h).imp_right fun ⟨t, ht, hd⟩ => ⟨t, hlater t ht, hd⟩
    | some e =>
      rcases ih h with hacc | ⟨t, ht, hd⟩
      · rcases mem_replaceOrAppend hacc with rfl | hacc
        · obtain ⟨t, ht, hd⟩ := asks_of_response_ref ho hn
          exact Or.inr ⟨t, List.mem_filterMap.mpr ⟨x, List.mem_cons_self, ht⟩, hd⟩
        · exact Or.inl hacc
      · exact Or.inr ⟨t, hlater t ht, hd⟩

theorem asks_of_parameter_ref {a : Action} {template : Option String} {ps : List Parameter}
    {p : Parameter} {n : String} (h : a.parameters classes .standard template = .ok ps)
    (hp : p ∈ ps) (hn : n ∈ p.refs) :
    ∃ t ∈ a.bodyTypes, ∃ d, t.Asks classes d ∧ d.name = n := by
  obtain ⟨path, _, h⟩ := exists_of_bind_ok h
  obtain ⟨query, _, h⟩ := exists_of_bind_ok h
  obtain ⟨headers, _, h⟩ := exists_of_bind_ok h
  obtain ⟨body, hbody, h⟩ := exists_of_bind_ok h
  cases Except.ok.inj h
  unfold bodyParameter at hbody
  cases p with
  | simple _ _ => cases hn
  | body b =>
    have hb : Parameter.body b ∈ body := by simpa using hp
    split at hbody
    next hhas =>
      obtain ⟨s, hs, rfl⟩ := exists_of_map_ok hbody
      cases List.mem_singleton.mp hb
      obtain ⟨d, hd⟩ := asks_of_bodySchema_ref hs hn
      exact ⟨a.body, by simp [bodyTypes, hhas], d, hd⟩
    next =>
      cases Except.ok.inj hbody
      cases hb

/-- A reference in an operation is to a model that a result or the body asks for. -/
theorem asks_of_operation_ref {a : Action} {template : String} {op : Operation} {n : String}
    (h : a.operation classes .standard template = .ok op) (hn : n ∈ op.refs) :
    ∃ t ∈ a.declaredTypes ++ a.bodyTypes, ∃ d, t.Asks classes d ∧ d.name = n := by
  obtain ⟨hps, hrs⟩ := exists_of_operation h
  rcases List.mem_append.mp hn with hn | hn
  · obtain ⟨p, hp, hn⟩ := List.mem_flatMap.mp hn
    obtain ⟨t, ht, hd⟩ := asks_of_parameter_ref hps hp hn
    exact ⟨t, List.mem_append_right _ ht, hd⟩
  · obtain ⟨r, hr, hn⟩ := List.mem_flatMap.mp hn
    obtain ⟨t, ht, hd⟩ := (asks_of_responses_ref hrs hr hn).resolve_left (by simp)
    exact ⟨t, List.mem_append_left _ ht, hd⟩

/-- What an operation refers to is among the models that the action brings along. -/
theorem has_of_operation_ref {a : Action} {template : String} {op : Operation} {n : String}
    {c : Contribution} (hp : ∀ t ∈ a.declaredTypes, t.isProper = true)
    (hc : a.contribution classes .standard = .ok c)
    (h : a.operation classes .standard template = .ok op) (hn : n ∈ op.refs) :
    ∃ d, c.models.has d.identity = true ∧ d.name = n ∧ ∃ k, classes.find? k = some d := by
  obtain ⟨t, ht, d, hd, hdn⟩ := asks_of_operation_ref h hn
  obtain ⟨hm, k, htk, hk⟩ := Ty.mentions_of_asks hd
  have hcovers := (collected_of_contribution hc).covers
  refine ⟨d, ?_, hdn, k, hk⟩
  rcases List.mem_append.mp ht with ht | ht
  · -- A result type may have been left out beside one that means the same.
    obtain ⟨u, hu, huk⟩ := Ty.exists_mentions_of_distinct ht htk
    have hup := hp u ((Ty.distinct_sublist _ _).subset hu)
    rw [← resultTypes_eq] at hu
    exact (hcovers u (List.mem_append_left _ hu)).has_of_mentions hup huk hk hm
  · exact (hcovers t (List.mem_append_right _ ht)).has_of_asks hd

end Action

theorem exists_field_of_describeFields {fields : List Field} {ps : List (String × Property)}
    (h : describeFields classes .standard fields = .ok ps) {p : String × Property} (hp : p ∈ ps) :
    ∃ f ∈ fields, f.2.property classes .standard = .ok p.2 := by
  induction fields generalizing ps with
  | nil =>
    cases Except.ok.inj h
    cases hp
  | cons f fields ih =>
    obtain ⟨q, hq, h⟩ := exists_of_bind_ok h
    obtain ⟨qs, hqs, h⟩ := exists_of_bind_ok h
    cases Except.ok.inj h
    rcases List.mem_cons.mp hp with rfl | hp
    · exact ⟨f, List.mem_cons_self, hq⟩
    · obtain ⟨g, hg, hgp⟩ := ih hqs hp
      exact ⟨g, List.mem_cons_of_mem _ hg, hgp⟩

/-- What a model refers to its fields ask for. -/
theorem IsModelOf.asks_of_ref {d : ClassDecl} {fields : List Field} {m : String × Schema}
    {n : String} (h : IsModelOf classes d fields m) (hn : n ∈ m.2.refs) :
    ∃ f ∈ fields, ∃ e, f.2.Asks classes e ∧ e.name = n := by
  obtain ⟨-, -, ps, hps, hprops⟩ := h.spec
  obtain ⟨p, hp, hn⟩ := List.mem_flatMap.mp hn
  rw [hprops, lastOfNames_eq_putAll] at hp
  obtain ⟨f, hf, hfp⟩ :=
    exists_field_of_describeFields hps ((mem_putAll hp).resolve_right (by simp))
  exact ⟨f, hf, Ty.asks_of_ref hfp hn⟩

theorem PathItem.mem_refs_setSlot {item : PathItem} {v : Verb} {op : Operation} {n : String}
    (h : n ∈ (item.setSlot v op).refs) : n ∈ item.refs ∨ n ∈ op.refs := by
  rcases List.mem_append.mp h with h | h
  · obtain ⟨o, ho, hn⟩ := List.mem_flatMap.mp h
    obtain ⟨w, hw, how⟩ := List.mem_filterMap.mp ho
    by_cases hwv : w = v
    · subst hwv
      rw [slot_setSlot_self] at how
      cases how
      exact Or.inr hn
    · rw [slot_setSlot_of_ne _ _ hwv] at how
      refine Or.inl (List.mem_append_left _ (List.mem_flatMap.mpr ⟨o, ?_, hn⟩))
      exact List.mem_filterMap.mpr ⟨w, hw, how⟩
  · rw [parameters_setSlot] at h
    exact Or.inl (List.mem_append_right _ h)

namespace Document

theorem mem_refs_itemAt {paths : List (String × PathItem)} {t n : String}
    (h : n ∈ (itemAt paths t).refs) : n ∈ paths.flatMap (·.2.refs) := by
  unfold itemAt at h
  cases hl : paths.lookup t with
  | none =>
    rw [hl] at h
    cases h
  | some item =>
    rw [hl] at h
    exact List.mem_flatMap.mpr ⟨_, mem_of_lookup hl, h⟩

theorem mem_refs_putOperation {paths : List (String × PathItem)} {o : String × Verb × Operation}
    {n : String} (h : n ∈ (putOperation paths o).flatMap (·.2.refs)) :
    n ∈ paths.flatMap (·.2.refs) ∨ n ∈ o.2.2.refs := by
  obtain ⟨e, he, hn⟩ := List.mem_flatMap.mp h
  rcases mem_replaceOrAppend he with rfl | he
  · exact (PathItem.mem_refs_setSlot hn).imp_left mem_refs_itemAt
  · exact Or.inl (List.mem_flatMap.mpr ⟨e, he, hn⟩)

theorem mem_refs_putOperations {paths : List (String × PathItem)}
    {ops : List (String × Verb × Operation)} {n : String}
    (h : n ∈ (putOperations paths ops).flatMap (·.2.refs)) :
    n ∈ paths.flatMap (·.2.refs) ∨ ∃ o ∈ ops, n ∈ o.2.2.refs := by
  induction ops generalizing paths with
  | nil => exact Or.inl h
  | cons o ops ih =>
    rcases ih (show n ∈ (putOperations (putOperation paths o) ops).flatMap _ from h) with
      h | ⟨p, hp, hn⟩
    · rcases mem_refs_putOperation h with h | h
      · exact Or.inl h
      · exact Or.inr ⟨o, List.mem_cons_self, h⟩
    · exact Or.inr ⟨p, List.mem_cons_of_mem _ hp, hn⟩

/-- Every definition is the model of a class, under its name, and every reference is to one. -/
structure Resolved (classes : Registry) (d : Document) : Prop where
  named : ∀ e ∈ d.definitions, e.2.name = e.1
  described : ∀ e ∈ d.definitions, ∃ c fields, IsModelOf classes c fields (e.2.identity, e.2)
  closed : ∀ n ∈ d.refs, n ∈ d.definitions.map (·.1)

theorem resolved_ofInfo (info : Info) : Resolved classes (ofInfo info) :=
  ⟨by simp [ofInfo], by simp [ofInfo], by simp [ofInfo, refs]⟩

/-- Where a model is left out because its identity is known, its name is defined already. -/
theorem Resolved.name_mem {d : Document} {c : Contribution} {k : ClassDecl} {key : String}
    (hc : classes.Identifies) (hd : Resolved classes d)
    (hms : ∀ m ∈ c.models, ∃ k fields, IsModelOf classes k fields m)
    (hkey : classes.find? key = some k) (hk : c.models.has k.identity = true) :
    k.name ∈ (putAll (c.models.unknown (identities d.definitions)).named d.definitions).map
      (·.1) := by
  obtain ⟨m, hm, hmk⟩ := Models.has_iff.mp hk
  obtain ⟨k', fields, hm'⟩ := hms m hm
  obtain ⟨key', hkey'⟩ := hm'.declared
  obtain rfl : k' = k := hc key' key k' k hkey' hkey (hm'.identity.symm.trans hmk)
  rw [mem_names_putAll]
  by_cases hknown : m.1 ∈ identities d.definitions
  · obtain ⟨e, he, hem⟩ := List.mem_map.mp hknown
    obtain ⟨c', more, he'⟩ := hd.described e he
    obtain ⟨rfl, -, -⟩ := IsModelOf.eq_of_identity hc he' hm' hem
    refine Or.inl (List.mem_map.mpr ⟨e, he, ?_⟩)
    rw [← hd.named e he, he'.spec.1]
  · refine Or.inr (Models.mem_names_named.mpr ⟨m, Models.mem_unknown.mpr ⟨hm, hknown⟩, ?_⟩)
    exact hm'.spec.1

theorem resolved_of_apply {strict : Bool} {a : Action} {c : Contribution} {d e : Document}
    {ts : List Takeover} (hc : classes.Identifies)
    (hp : ∀ t ∈ a.declaredTypes, t.isProper = true)
    (ha : a.contribution classes .standard = .ok c) (hd : Resolved classes d)
    (h : d.apply strict c = .ok (e, ts)) : Resolved classes e := by
  obtain ⟨_, _, _, _, hops, _⟩ := Action.exists_of_contribution ha
  have hcol := Action.collected_of_contribution ha
  have hfields : ∀ m ∈ c.models, ∃ k fields, IsModelOf classes k fields m ∧
      ∀ f ∈ fields, Covered classes c.models f.2 := fun m hm =>
    (hcol.described m hm).resolve_left (by simp)
  have hms : ∀ m ∈ c.models, ∃ k fields, IsModelOf classes k fields m := fun m hm =>
    let ⟨k, fields, h, _⟩ := hfields m hm
    ⟨k, fields, h⟩
  have hnodup := hcol.nodup (by simp)
  have hdefs := definitions_of_apply hnodup h
  have hkept : ∀ n ∈ d.refs, n ∈ e.definitions.map (·.1) := fun n hn => by
    rw [hdefs]
    exact mem_names_putAll.mpr (Or.inl (hd.closed n hn))
  constructor
  case named =>
    intro s hs
    rcases mem_definitions_of_apply hnodup h hs with ⟨m, -, rfl⟩ | hs
    · rfl
    · exact hd.named s hs
  case described =>
    intro s hs
    rcases mem_definitions_of_apply hnodup h hs with ⟨m, hm, rfl⟩ | hs
    · obtain ⟨k, fields, hmk⟩ := hms m hm
      exact ⟨k, fields, by rw [hmk.schema_identity]; exact hmk⟩
    · exact hd.described s hs
  case closed =>
    intro n hn
    rcases List.mem_append.mp hn with hn | hn
    · rw [paths_of_apply h] at hn
      rcases mem_refs_putOperations hn with hn | ⟨o, ho, hn⟩
      · exact hkept n (List.mem_append_left _ hn)
      · -- What an operation refers to is among the models that come with it.
        obtain ⟨k, hk, rfl, key, hkey⟩ :=
          Action.has_of_operation_ref hp ha ((Action.operations_spec hops).2 o ho).2 hn
        rw [hdefs]
        exact hd.name_mem hc hms hkey hk
    · obtain ⟨s, hs, hn⟩ := List.mem_flatMap.mp hn
      rcases mem_definitions_of_apply hnodup h hs with ⟨m, hm, rfl⟩ | hs
      · -- The models cover the fields of each other, so a new definition refers to one of them.
        obtain ⟨k, fields, hmk, hcov⟩ := hfields m hm
        obtain ⟨f, hf, k', hk', rfl⟩ := hmk.asks_of_ref hn
        obtain ⟨_, key, _, hkey⟩ := Ty.mentions_of_asks hk'
        rw [hdefs]
        exact hd.name_mem hc hms hkey ((hcov f hf).has_of_asks hk')
      · exact hkept n (List.mem_append_right _ (List.mem_flatMap.mpr ⟨s, hs, hn⟩))

/-- In a built document every definition stands under its own name, and every reference, in a
response, a body or a property at any depth, is to a definition. -/
theorem resolved_of_build {strict : Bool} {info : Option Info} {actions : List Action}
    {d : Document} (hc : classes.Identifies)
    (hp : ∀ a ∈ actions, ∀ t ∈ a.declaredTypes, t.isProper = true)
    (h : (build classes .standard strict info none actions).result = .ok d) :
    (∀ e ∈ d.definitions, e.2.name = e.1) ∧ ∀ n ∈ d.refs, n ∈ d.definitions.map (·.1) := by
  have hd : Resolved classes d := by
    refine run_invariant (P := Resolved classes) (resolved_ofInfo _) ?_ h
    intro a ha d d' ts hd hstep
    obtain ⟨c, hac, happly⟩ := exists_of_merge hstep
    exact resolved_of_apply hc (hp a ha) hac hd happly
  exact ⟨hd.named, hd.closed⟩

/-- People of two kinds under one name, and pages that refer to themselves and to them. -/
def people : Registry where
  decls := [
    ⟨"User", .record false, "User", "app", "User", none,
      [("pages", .applied ⟨.builtin, "list"⟩ [.declared "Page"])], []⟩,
    ⟨"Legacy", .record false, "User", "app", "Legacy.User", none, [("login", .scalar .str)], []⟩,
    ⟨"Page", .record false, "Page", "app", "Page", none,
      [("next", .union [.declared "Page", .nothing]), ("author", .declared "User")], []⟩]

/-- Answers with pages by name, or with a code and a person of the older kind. -/
def pagesAction : Action where
  method := "POST"
  path := .literal (.str "pages")
  query := .empty
  headers := .empty
  results := [.ofType (.applied ⟨.builtin, "dict"⟩ [.scalar .str, .declared "Page"]),
    .statusOfType (.int 404) (.bars [.declared "Legacy", .nothing])]
  body := .declared "User"
  consumes := []
  produces := []

theorem resolved_of_build_people :
    ∃ d, (build people .standard false none none [pagesAction]).result = .ok d ∧
      (∀ e ∈ d.definitions, e.2.name = e.1) ∧ ∀ n ∈ d.refs, n ∈ d.definitions.map (·.1) := by
  have hok : (pagesAction.contribution people .standard).isOk = true := by cbv
  obtain ⟨c, hcontribution⟩ := exists_of_isOk hok
  have hall : ∀ a ∈ [pagesAction], ∃ c, a.contribution people .standard = .ok c := fun a ha =>
    ⟨c, List.mem_singleton.mp ha ▸ hcontribution⟩
  obtain ⟨d, hd⟩ := exists_extend hall (start none none)
  have hc : people.Identifies := Registry.identifies_of_nodup (by decide +kernel)
  have hp : ∀ a ∈ [pagesAction], ∀ t ∈ a.declaredTypes, t.isProper = true := by
    decide +kernel
  exact ⟨d, hd, resolved_of_build hc hp hd⟩

end Document

end RouteAtlas
