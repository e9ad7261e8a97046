import Mathlib
import RouteAtlas.Schema.Collect

/-!
Classes with other annotations on their fields. Names, orders of inheritance, the meaning of an
annotation and the property of a type do not look at what fields are annotated with: they stay when
annotations are written in another way. Only the fields that a class is documented with, and the
models found through them, can change.
-/

namespace RouteAtlas

/-- What is written behind a field instead: by the key of the class, the name of the field and what
is written there. -/
abbrev Respelling := String → String → Ty → Ty

/-- The class with its annotations written in another way. -/
def ClassDecl.respelled (d : ClassDecl) (u : Respelling) : ClassDecl :=
  { d with fields := d.fields.map fun f => (f.1, u d.key f.1 f.2) }

/-- All classes with their annotations written in another way. -/
def Registry.respelled (classes : Registry) (u : Respelling) : Registry :=
  { classes with decls := classes.decls.map (·.respelled u) }

/-- The same names over the classes with other annotations. -/
def Scope.respelled (s : Scope) (u : Respelling) : Scope :=
  { s with classes := s.classes.respelled u }

variable (u : Respelling) (classes : Registry)

@[simp] theorem Scope.classes_respelled (s : Scope) :
    (s.respelled u).classes = s.classes.respelled u := rfl

@[simp] theorem Scope.lookup_respelled (s : Scope) : (s.respelled u).lookup = s.lookup := rfl

namespace ClassDecl

variable (d : ClassDecl)

@[simp] theorem key_respelled : (d.respelled u).key = d.key := rfl

@[simp] theorem kind_respelled : (d.respelled u).kind = d.kind := rfl

@[simp] theorem name_respelled : (d.respelled u).name = d.name := rfl

@[simp] theorem module_respelled : (d.respelled u).module = d.module := rfl

@[simp] theorem qualifier_respelled : (d.respelled u).qualifier = d.qualifier := rfl

@[simp] theorem doc_respelled : (d.respelled u).doc = d.doc := rfl

@[simp] theorem bases_respelled : (d.respelled u).bases = d.bases := rfl

@[simp] theorem identity_respelled : (d.respelled u).identity = d.identity := rfl

@[simp] theorem isModel_respelled : (d.respelled u).isModel = d.isModel := rfl

@[simp] theorem isDictionary_respelled : (d.respelled u).isDictionary = d.isDictionary := rfl

@[simp] theorem isRecord_respelled : (d.respelled u).isRecord = d.isRecord := rfl

@[simp] theorem isPlaces_respelled : (d.respelled u).isPlaces = d.isPlaces := rfl

@[simp] theorem unread_respelled : (d.respelled u).unread = d.unread := rfl

@[simp] theorem knownBases_respelled : (d.respelled u).knownBases = d.knownBases := rfl

@[simp] theorem names_respelled : (d.respelled u).fields.map (·.1) = d.fields.map (·.1) := by
  simp [respelled]

@[simp] theorem description_respelled : (d.respelled u).description = d.description := by
  simp [description, docText, placesDoc]

@[simp] theorem ownName?_respelled (name : String) :
    (d.respelled u).ownName? name = d.ownName? name := by
  have hany : (d.respelled u).fields.any (·.1 = name) = d.fields.any (·.1 = name) := by
    simp [respelled, List.any_map, Function.comp_def]
  unfold ownName?
  split
  · rfl
  · rfl
  · rw [kind_respelled, hany]
    rfl

@[simp] theorem classOperand_respelled : Ty.classOperand (d.respelled u) = Ty.classOperand d := rfl

end ClassDecl

namespace Registry

@[simp] theorem unions_respelled : (classes.respelled u).unions = classes.unions := rfl

@[simp] theorem length_respelled :
    (classes.respelled u).decls.length = classes.decls.length := by
  simp [respelled]

@[simp] theorem find?_respelled (key : String) :
    (classes.respelled u).find? key = (classes.find? key).map (·.respelled u) := by
  rw [find?, respelled, ← List.map_reverse, List.find?_map]
  rfl

@[simp] theorem named?_respelled (module name : String) :
    (classes.respelled u).named? module name =
      (classes.named? module name).map (·.respelled u) := by
  rw [named?, respelled, ← List.map_reverse, List.find?_map]
  rfl

@[simp] theorem moduleName?_respelled (module name : String) :
    (classes.respelled u).moduleName? module name = classes.moduleName? module name := by
  simp only [moduleName?, named?_respelled]
  cases classes.named? module name <;> simp

@[simp] theorem lineage_respelled (fuel : Nat) (k : Forebear) :
    (classes.respelled u).lineage fuel k = classes.lineage fuel k := by
  induction fuel generalizing k with
  | zero => simp [lineage]
  | succ fuel ih =>
    cases k with
    | known name => simp [lineage]
    | declared key =>
      simp only [lineage, find?_respelled]
      cases classes.find? key with
      | none => rfl
      | some d => simp [funext ih]

@[simp] theorem sources_respelled (fuel : Nat) (key : String) :
    (classes.respelled u).sources fuel key = (classes.sources fuel key).map (·.respelled u) := by
  induction fuel generalizing key with
  | zero => simp [sources]
  | succ fuel ih =>
    simp only [sources, find?_respelled]
    cases classes.find? key with
    | none => rfl
    | some d => simp [funext ih, List.map_flatMap]

@[simp] theorem ancestors_respelled (d : ClassDecl) :
    (classes.respelled u).ancestors (d.respelled u) =
      (classes.ancestors d).map (·.respelled u) := by
  unfold ancestors
  simp only [ClassDecl.isDictionary_respelled, ClassDecl.key_respelled, length_respelled,
    sources_respelled, lineage_respelled]
  split
  · rfl
  · rw [List.map_filterMap]
    refine List.filterMap_congr fun k _ => ?_
    cases k <;> simp

end Registry

theorem ClassDecl.scope_of_respelled (d : ClassDecl) :
    d.scope (classes.respelled u) = (d.scope classes).respelled u := by
  simp only [scope, Scope.respelled, Registry.moduleName?_respelled]

@[simp] theorem ClassDecl.scope_respelled (d : ClassDecl) :
    (d.respelled u).scope (classes.respelled u) = (d.scope classes).respelled u := by
  rw [scope_of_respelled]
  simp only [scope, Scope.respelled, kind_respelled, name_respelled, key_respelled,
    module_respelled, ownName?_respelled]
  rfl

namespace Ty

@[simp] theorem declText_respelled (key : String) :
    declText (classes.respelled u) key = declText classes key := by
  simp only [declText, Registry.find?_respelled]
  cases classes.find? key <;> simp

mutual

theorem written_respelled : ∀ t : Ty, t.written (classes.respelled u) = t.written classes
  | .applied _ ts | .declaredOf _ _ ts => by simp [written, writtenArgs_respelled ts]
  | .union ms => by simp [written, writtenFirst_respelled ms, writtenList_respelled ms]
  | .bars ms => by simp [written, writtenBars_respelled ms]
  | .annotated b _ => by simp [written, written_respelled b]
  | .function _ ps r => by
    by_cases h : ps = [.ellipsis]
    · simp [h, written, written_respelled r]
    · simp [written, writtenList_respelled ps, written_respelled r]
  | .params ts => by simp [written, writtenList_respelled ts]
  | .absent | .nothing | .any | .ellipsis | .scalar _ | .bare _ | .declared _ | .forward _
  | .plain _ | .thing _ _ | .literal _ | .newtype _ _ _ => by simp [written]

theorem writtenArgs_respelled :
    ∀ ts, writtenArgs (classes.respelled u) ts = writtenArgs classes ts
  | [] => by simp [writtenArgs]
  | t :: ts => by simp [writtenArgs, writtenList_respelled (t :: ts)]

theorem writtenList_respelled :
    ∀ ts, writtenList (classes.respelled u) ts = writtenList classes ts
  | [] => by simp [writtenList]
  | [t] => by simp [writtenList, written_respelled t]
  | t :: s :: ts => by simp [writtenList, written_respelled t, writtenList_respelled (s :: ts)]

theorem writtenFirst_respelled :
    ∀ ts, writtenFirst (classes.respelled u) ts = writtenFirst classes ts
  | [] => by simp [writtenFirst]
  | t :: ts => by simp [writtenFirst, written_respelled t, writtenFirst_respelled ts]

theorem writtenBars_respelled :
    ∀ ts, writtenBars (classes.respelled u) ts = writtenBars classes ts
  | [] => by simp [writtenBars]
  | [t] => by simp [writtenBars, written_respelled t]
  | t :: s :: ts => by simp [writtenBars, written_respelled t, writtenBars_respelled (s :: ts)]

end

attribute [simp] written_respelled

@[simp] theorem shown_respelled (t : Ty) : t.shown (classes.respelled u) = t.shown classes := by
  cases t with
  | declared k =>
    simp only [shown, Registry.find?_respelled, declText_respelled]
    cases classes.find? k with
    | none => rfl
    | some d =>
      obtain ⟨_, kind, _⟩ := d
      cases kind <;> rfl
  | _ => simp [shown]

@[simp] theorem simpleName_respelled (t : Ty) :
    t.simpleName (classes.respelled u) = t.simpleName classes := by
  unfold simpleName
  split <;> simp [Function.comp_def]

@[simp] theorem operandKind_respelled (t : Ty) :
    t.operandKind (classes.respelled u) = t.operandKind classes := by
  cases t <;> simp [operandKind, Function.comp_def]

@[simp] theorem bar_respelled (l r : Ty) : l.bar (classes.respelled u) r = l.bar classes r := by
  simp [bar]

@[simp] theorem barsOf_respelled (ts : List Ty) :
    barsOf (classes.respelled u) ts = barsOf classes ts := by
  cases ts with
  | nil => rfl
  | cons t ts => simp only [barsOf, funext fun l => funext (bar_respelled u classes l)]

@[simp] theorem aliasOf_respelled (name : String) (args : List Ty) :
    aliasOf (classes.respelled u) name args = aliasOf classes name args := by
  simp [aliasOf]

@[simp] theorem abstractOf_respelled (name : String) (args : List Ty) :
    abstractOf (classes.respelled u) name args = abstractOf classes name args := by
  unfold abstractOf
  split <;> simp

@[simp] theorem memberOf_respelled (d : ClassDecl) (b : MemberBase)
    (entries : List (String × Value)) (args : List Ty) :
    memberOf (classes.respelled u) (d.respelled u) b entries args =
      memberOf classes d b entries args := by
  unfold memberOf
  split <;> simp [funext (shown_respelled u classes)]

@[simp] theorem declaredWith_respelled (d : ClassDecl) (args : List Ty) :
    declaredWith (classes.respelled u) (d.respelled u) args = declaredWith classes d args := by
  unfold declaredWith
  cases hk : d.kind <;> simp [hk, List.any_map, Function.comp_def]

@[simp] theorem subscript_respelled (t : Ty) (args : List Ty) :
    t.subscript (classes.respelled u) args = t.subscript classes args := by
  cases t with
  | declared k =>
    simp only [subscript, Registry.find?_respelled]
    cases classes.find? k <;> simp
  | _ => simp [subscript]

mutual

theorem stripped_respelled : ∀ t : Ty, t.stripped (classes.respelled u) = t.stripped classes
  | .annotated b _ => by simp [stripped, stripped_respelled b]
  | .applied _ ts | .declaredOf _ _ ts | .union ts | .bars ts => by
    simp [stripped, strippedList_respelled ts]
  | .function _ ps r => by simp [stripped, strippedList_respelled ps, stripped_respelled r]
  | .params _ | .absent | .nothing | .any | .ellipsis | .scalar _ | .bare _ | .declared _
  | .forward _ | .plain _ | .thing _ _ | .literal _ | .newtype _ _ _ => by simp [stripped]

theorem strippedList_respelled :
    ∀ ts, strippedList (classes.respelled u) ts = strippedList classes ts
  | [] => by simp [strippedList]
  | t :: ts => by simp [strippedList, stripped_respelled t, strippedList_respelled ts]

end

attribute [simp] stripped_respelled

end Ty

namespace Meaning

@[simp] theorem toTy_respelled (m : Meaning) : m.toTy (classes.respelled u) = m.toTy classes := by
  cases m with
  | one t => rfl
  | tuple ts => simp [toTy, funext (Ty.shown_respelled u classes)]

@[simp] theorem row_respelled (m : Meaning) : m.row (classes.respelled u) = m.row classes := by
  unfold row
  split <;> simp

@[simp] theorem itemAt_respelled (kind : String) (ts : List Ty) (index : Ty) :
    itemAt (classes.respelled u) kind ts index = itemAt classes kind ts index := by
  cases index <;> simp [itemAt]

@[simp] theorem subscript_respelled (m index : Meaning) :
    m.subscript (classes.respelled u) index = m.subscript classes index := by
  unfold subscript
  split <;> simp

@[simp] theorem member_respelled (s : Scope) (m : Meaning) (name : String) :
    m.member (s.respelled u) name = m.member s name := by
  unfold member
  simp only [Scope.respelled, Registry.find?_respelled, Ty.operandKind_respelled]
  split <;> try rfl
  next k =>
    cases s.classes.find? k with
    | none => rfl
    | some d => simp

@[simp] theorem combine_respelled (op : String) (l r : Meaning) :
    combine (classes.respelled u) op l r = combine classes op l r := by
  simp only [combine, toTy_respelled, Ty.operandKind_respelled, Ty.bar_respelled,
    Ty.shown_respelled]

@[simp] theorem compare_respelled (op : String) (l r : Meaning) :
    l.compare (classes.respelled u) op r = l.compare classes op r := by
  simp only [compare, toTy_respelled, Ty.operandKind_respelled, row_respelled]

@[simp] theorem negated_respelled (op : String) (m : Meaning) :
    m.negated (classes.respelled u) op = m.negated classes op := by
  simp only [negated, toTy_respelled, Ty.operandKind_respelled]

@[simp] theorem call_respelled (m : Meaning) (args : List Ty) :
    m.call (classes.respelled u) args = m.call classes args := by
  unfold call
  simp only [toTy_respelled, Registry.find?_respelled, Ty.operandKind_respelled]
  split <;> simp [Function.comp_def]

end Meaning

namespace Annotation.Expression

variable (s : Scope)

mutual

theorem meaning_respelled : ∀ e : Expression, e.meaning (s.respelled u) = e.meaning s
  | .name _ | .constant _ | .ellipsis | .imaginary | .spread | .lambda => by
    simp [meaning, Scope.respelled]
  | .template es | .tuple es | .list es | .set es | .slice es => by
    simp [meaning, meanings_respelled es]
  | .dict ks vs => by simp [meaning, meanings_respelled ks, meanings_respelled vs]
  | .starred e | .keyword _ e | .assigned _ e => by simp [meaning, meaning_respelled e]
  | .attribute e _ => by simp [meaning, meaning_respelled e]
  | .prefixed _ e => by simp [meaning, meaning_respelled e]
  | .subscript e i => by simp [meaning, meaning_respelled e, meaning_respelled i]
  | .call f args => by simp [meaning, meaning_respelled f, meanings_respelled args]
  | .operation _ l r | .both l r | .either l r => by
    simp [meaning, meaning_respelled l, meaning_respelled r]
  | .comparison first ops others => by
    simp [meaning, meaning_respelled first, fun m => compared_respelled m ops others]
  | .conditional c yes no => by
    simp [meaning, meaning_respelled c, meaning_respelled yes, meaning_respelled no]
  | .comprehension _ source => by simp [meaning, meaning_respelled source]

theorem meanings_respelled : ∀ es : List Expression, meanings (s.respelled u) es = meanings s es
  | [] => by simp [meanings]
  | e :: es => by
    cases e <;> simp [meanings, meanings_respelled es, meaning_respelled]

theorem compared_respelled (m : Meaning) : ∀ (ops : List String) (es : List Expression),
    compared (s.respelled u) m ops es = compared s m ops es
  | _, [] => by simp [compared]
  | [], _ => by simp [compared]
  | _ :: ops, e :: es => by
    simp [compared, meaning_respelled e, fun n => compared_respelled n ops es]

end

@[simp] theorem type_respelled (e : Expression) : e.type (s.respelled u) = e.type s := by
  simp only [type, meaning_respelled, Scope.classes_respelled, Meaning.toTy_respelled,
    Ty.shown_respelled]

end Annotation.Expression

namespace Ty

@[simp] theorem resolveWithin_respelled (s : Scope) (fuel : Nat) (seen : List String) (t : Ty) :
    t.resolveWithin (s.respelled u) fuel seen = t.resolveWithin s fuel seen := by
  induction fuel generalizing seen t with
  | zero => simp [resolveWithin]
  | succ fuel ih =>
    unfold resolveWithin
    simp only [funext (ih seen), ih, Annotation.Expression.type_respelled, Scope.classes_respelled,
      Registry.unions_respelled, barsOf_respelled]

@[simp] theorem resolve_respelled (s : Scope) (t : Ty) :
    t.resolve (s.respelled u) = t.resolve s := by
  simp only [resolve, resolveWithin_respelled]

@[simp] theorem decl?_respelled (t : Ty) :
    t.decl? (classes.respelled u) = (t.decl? classes).map (·.respelled u) := by
  unfold decl?
  split <;> simp

@[simp] theorem model?_respelled (t : Ty) :
    t.model? (classes.respelled u) = (t.model? classes).map (·.respelled u) := by
  simp [model?, Option.filter_map, Function.comp_def]

@[simp] theorem isModel_respelled (t : Ty) :
    t.isModel (classes.respelled u) = t.isModel classes := by
  simp [isModel]

@[simp] theorem enumValues?_respelled (t : Ty) :
    t.enumValues? (classes.respelled u) = t.enumValues? classes := by
  simp only [enumValues?, decl?_respelled]
  cases t.decl? classes <;> rfl

@[simp] theorem dataType_respelled (t : Ty) :
    t.dataType (classes.respelled u) = t.dataType classes := by
  unfold dataType
  split <;> simp

@[simp] theorem enumProperty_respelled (t : Ty) (values : List Value) :
    t.enumProperty (classes.respelled u) values = t.enumProperty classes values := by
  simp [enumProperty]

@[simp] theorem property_respelled (formats : Formats) (t : Ty) :
    t.property (classes.respelled u) formats = t.property classes formats := by
  fun_induction property classes formats t
  all_goals
    rw [property]
    simp_all
  all_goals split <;> simp_all

end Ty

@[simp] theorem describeFields_respelled (formats : Formats) (fields : List Field) :
    describeFields (classes.respelled u) formats fields =
      describeFields classes formats fields := by
  induction fields with
  | nil => rfl
  | cons e fields ih => simp only [describeFields, Ty.property_respelled, ih]

@[simp] theorem ClassDecl.schema_respelled (formats : Formats) (d : ClassDecl)
    (fields : List Field) :
    (d.respelled u).schema (classes.respelled u) formats fields =
      d.schema classes formats fields := by
  simp only [schema, describeFields_respelled, identity_respelled, name_respelled,
    description_respelled]

/-- The same demand over classes with other annotations. -/
def Demand.respelled (u : Respelling) : Demand → Demand
  | .types ts => .types ts
  | .models ms => .models ms
  | .model d => .model (d.respelled u)

theorem Ty.demand_respelled (formats : Formats) (t : Ty) :
    t.demand (classes.respelled u) formats =
      (t.demand classes formats).map (Demand.respelled u) := by
  unfold demand
  split
  next => rfl
  next =>
    simp only [model?_respelled, Registry.unions_respelled]
    cases formats.models? t with
    | some ms =>
      split <;> rfl
    | none =>
      cases t.unwrap classes.unions <;> cases t.model? classes <;>
        grind [Demand.respelled, Except.map]

end RouteAtlas
