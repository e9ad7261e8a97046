import RouteAtlas.Proofs.BuildSteps
import RouteAtlas.Route.Parameter

/-!
The parameters of a rule from the places of its leaves. A leaf has its own parameter, and what is
noted on it depends on the text around it alone and on the leaves on the other sides of the
alternatives around it. An alternative further out adds its note behind the others, and changes
neither the order of the leaves nor their names.
-/

namespace RouteAtlas

namespace ParamRule

variable {α : Type}

/-- The leaves in order. -/
def leaves : ParamRule α → List α
  | .leaf a => [a]
  | .empty => []
  | .foreign _ => []
  | .both l r => l.leaves ++ r.leaves
  | .either l r => l.leaves ++ r.leaves
  | .noted r _ => r.leaves

/-- A leaf and what stands around it. -/
structure Place (α : Type) where
  leaf : α
  /-- What is noted on the leaf itself, or else null. -/
  text : Value
  /-- The leaves on the other side of each alternative around the leaf, the innermost first. -/
  rivals : List (List α)

/-- The places of the leaves, within alternatives that have these on their other sides. -/
def placesIn (around : List (List α)) : ParamRule α → List (Place α)
  | .leaf a => [⟨a, .null, around⟩]
  | .empty => []
  | .foreign _ => []
  | .both l r => placesIn around l ++ placesIn around r
  | .either l r => placesIn (r.leaves :: around) l ++ placesIn (l.leaves :: around) r
  | .noted (.leaf a) n => [⟨a, n.message?.getD .null, around⟩]
  | .noted r _ => placesIn around r

def places (r : ParamRule α) : List (Place α) := placesIn [] r

/-- That the leaf is optional where those of the other side are satisfied, by their names. -/
def rivalNote (param : α → SimpleParameter) (kind : String) (others : List α) : String :=
  "Optional if the following " ++ kind ++ " are satisfied: [" ++
    Text.join ", " (others.filterMap fun a => (param a).name.filter (· ≠ "")) ++ "]"

namespace Place

variable (param : α → SimpleParameter) (kind : String)

/-- The notes on the other sides that have leaves. -/
def notes (p : Place α) : List String :=
  (p.rivals.filter (! ·.isEmpty)).map (rivalNote param kind)

/-- What is noted on the leaf; where there are notes, its text unless it is empty, and behind it
the notes. -/
def description (p : Place α) : Value :=
  if (p.notes param kind).isEmpty then p.text
  else .str (Text.join " "
    ((if p.text.isTrue then [p.text.text] else []) ++ p.notes param kind))

/-- The parameter of the leaf alone with the description that its place gives it. -/
def documented (p : Place α) : SimpleParameter :=
  { param p.leaf with description := p.description param kind }

/-- The place within more alternatives. -/
def within (outer : List (List α)) (p : Place α) : Place α := { p with rivals := p.rivals ++ outer }

end Place

theorem leaf_placesIn (around : List (List α)) (r : ParamRule α) :
    (placesIn around r).map (·.leaf) = r.leaves := by
  fun_induction placesIn around r with
  | case1 around a => rfl
  | case2 around => rfl
  | case3 around v => rfl
  | case4 around l r ihl ihr => rw [List.map_append, ihl, ihr, leaves]
  | case5 around l r ihl ihr => rw [List.map_append, ihl, ihr, leaves]
  | case6 around a n => rfl
  | case7 around r n _ ih => exact ih

theorem leaf_places (r : ParamRule α) : r.places.map (·.leaf) = r.leaves := leaf_placesIn [] r

/-- Text around anything but a leaf is not taken up. -/
theorem placesIn_noted (around : List (List α)) {r : ParamRule α} (h : ∀ a, r ≠ .leaf a)
    (n : Note) : placesIn around (.noted r n) = placesIn around r := by
  cases r with
  | leaf a => exact absurd rfl (h a)
  | _ => rfl

/-- Alternatives further out come behind those that are there. -/
theorem placesIn_append (around outer : List (List α)) (r : ParamRule α) :
    placesIn (around ++ outer) r = (placesIn around r).map (·.within outer) := by
  fun_induction placesIn around r with
  | case1 around a => rfl
  | case2 around => rfl
  | case3 around v => rfl
  | case4 around l r ihl ihr => rw [placesIn, ihl, ihr, List.map_append]
  | case5 around l r ihl ihr =>
    rw [placesIn, ← List.cons_append, ← List.cons_append, ihl, ihr, List.map_append]
  | case6 around a n => rfl
  | case7 around r n hr ih => rw [placesIn_noted _ hr, ih]

theorem places_both (l r : ParamRule α) : (both l r).places = l.places ++ r.places := rfl

/-- Each side of an alternative lies within the other. -/
theorem places_either (l r : ParamRule α) :
    (either l r).places =
      l.places.map (·.within [r.leaves]) ++ r.places.map (·.within [l.leaves]) := by
  have hl : placesIn [r.leaves] l = l.places.map (·.within [r.leaves]) := placesIn_append [] _ l
  have hr : placesIn [l.leaves] r = r.places.map (·.within [l.leaves]) := placesIn_append [] _ r
  rw [places, placesIn, hl, hr]

theorem places_noted {r : ParamRule α} (h : ∀ a, r ≠ .leaf a) (n : Note) :
    (noted r n).places = r.places :=
  placesIn_noted [] h n

end ParamRule

namespace Text

theorem join_concat (sep : String) {parts : List String} (h : parts ≠ []) (last : String) :
    join sep (parts ++ [last]) = join sep parts ++ sep ++ last := by
  rw [join, String.intercalate_append_of_ne_nil h (List.cons_ne_nil _ _),
    String.intercalate_singleton]
  rfl

theorem join_ne_empty (sep : String) {parts : List String} {s : String} (hs : s ∈ parts)
    (hne : s ≠ "") : join sep parts ≠ "" := by
  induction parts with
  | nil => cases hs
  | cons p rest ih =>
    cases rest with
    | nil =>
      rw [List.mem_singleton.mp hs] at hne
      rwa [join, String.intercalate_singleton]
    | cons q rest =>
      rw [join, String.intercalate_cons_of_ne_nil (List.cons_ne_nil _ _)]
      rcases List.mem_cons.mp hs with rfl | hs
      · simp [String.append_eq_empty_iff, hne]
      · have hrest : sep.intercalate (q :: rest) ≠ "" := ih hs
        simp [String.append_eq_empty_iff, hrest]

end Text

namespace ParamRule

variable {α : Type} (param : α → SimpleParameter) (kind : String)

theorem rivalNote_ne_empty (others : List α) : rivalNote param kind others ≠ "" := by
  intro h
  have hbracket : "]" = "" := (String.append_eq_empty_iff.mp h).2
  exact absurd hbracket (by decide)

namespace Place

theorem notes_within {side : List α} (h : side ≠ []) (p : Place α) :
    (p.within [side]).notes param kind = p.notes param kind ++ [rivalNote param kind side] := by
  simp [notes, within, List.filter_append, h]

/-- A side without leaves leaves the parameter alone. -/
theorem documented_within_nil (p : Place α) :
    (p.within [[]]).documented param kind = p.documented param kind := by
  have hnotes : (p.within [[]]).notes param kind = p.notes param kind := by
    simp [notes, within, List.filter_append]
  rw [documented, documented, description, hnotes, description]
  rfl

theorem notes_ne_empty (p : Place α) : ∀ n ∈ p.notes param kind, n ≠ "" := by
  intro n hn
  obtain ⟨side, -, rfl⟩ := List.mem_map.mp hn
  exact rivalNote_ne_empty param kind side

/-- A note behind a description, be it of the leaf alone or of notes as well. -/
theorem description_within {side : List α} (h : side ≠ []) (p : Place α) :
    (p.within [side]).description param kind =
      .str (if (p.description param kind).isTrue then
          (p.description param kind).text ++ " " ++ rivalNote param kind side
        else rivalNote param kind side) := by
  have hnotes := notes_ne_empty param kind p
  rw [description, notes_within param kind h, description]
  generalize p.notes param kind = notes at hnotes ⊢
  generalize rivalNote param kind side = note
  -- Behind notes the text is never empty; by itself it may be.
  cases notes with
  | nil => cases ht : p.text.isTrue <;> simp [within, ht, Text.join]
  | cons n rest =>
    have htrue (front : List String) :
        (Value.str (Text.join " " (front ++ n :: rest))).isTrue = true := by
      have hne : Text.join " " (front ++ n :: rest) ≠ "" :=
        Text.join_ne_empty " " (by simp) (hnotes n List.mem_cons_self)
      simp [Value.isTrue, hne]
    simp only [within, List.cons_append, List.isEmpty_cons, Bool.false_eq_true, if_false, htrue,
      if_true, Value.text_str]
    rw [← Text.join_concat " " (by simp), List.append_assoc]
    rfl

/-- The leaves of another side are noted behind the description. -/
theorem documented_within {side : List α} (h : side ≠ []) (p : Place α) :
    (p.within [side]).documented param kind =
      (p.documented param kind).append (rivalNote param kind side) := by
  rw [documented, description_within param kind h]
  rfl

theorem map_documented_within {side : List α} (h : side ≠ []) (ps : List (Place α)) :
    (ps.map (·.within [side])).map (·.documented param kind) =
      (ps.map (·.documented param kind)).map (·.append (rivalNote param kind side)) := by
  simp only [List.map_map, Function.comp_def, documented_within param kind h]

/-- Without alternatives around it and without text, a leaf is documented as it is alone. -/
theorem documented_alone {a : α} (h : (param a).description = .null) :
    documented param kind ⟨a, .null, []⟩ = param a := by
  show { param a with description := .null } = param a
  rw [← h]

end Place

theorem orNote_documented (ps : List (Place α)) :
    SimpleParameter.orNote (ps.map (·.documented param kind)) kind =
      rivalNote param kind (ps.map (·.leaf)) := by
  have hnames : (ps.map (·.documented param kind)).filterMap (fun p => p.name.filter (· ≠ "")) =
      (ps.map (·.leaf)).filterMap fun a => (param a).name.filter (· ≠ "") := by
    rw [List.filterMap_map, List.filterMap_map]
    rfl
  unfold SimpleParameter.orNote SimpleParameter.nameList rivalNote
  rw [hnames]

/-- Each side of an alternative is documented within the other. -/
theorem alternatives_documented (ps qs : List (Place α)) :
    SimpleParameter.alternatives (ps.map (·.documented param kind))
        (qs.map (·.documented param kind)) kind =
      (ps.map (·.within [qs.map (·.leaf)])).map (·.documented param kind) ++
        (qs.map (·.within [ps.map (·.leaf)])).map (·.documented param kind) := by
  cases ps with
  | nil => simp [SimpleParameter.alternatives, Place.documented_within_nil, Function.comp_def]
  | cons p ps =>
    cases qs with
    | nil => simp [SimpleParameter.alternatives, Place.documented_within_nil, Function.comp_def]
    | cons q qs =>
      rw [Place.map_documented_within _ _ (by simp), Place.map_documented_within _ _ (by simp),
        ← orNote_documented, ← orNote_documented]
      simp [SimpleParameter.alternatives, SimpleParameter.annotateOr]

/-- A rule whose leaves have their parameters documents each of them by its place. -/
theorem collect_eq_places {make : α → Except Fault SimpleParameter} {r : ParamRule α}
    (hmake : ∀ a ∈ r.leaves, make a = .ok (param a))
    (hbare : ∀ a ∈ r.leaves, (param a).description = .null) :
    r.collect make kind = .ok (r.places.map (·.documented param kind)) := by
  -- The induction is on rules with nothing around them: an alternative adds itself behind what each
  -- of its sides has.
  fun_induction collect make kind r with
  | case1 a =>
    rw [hmake a List.mem_cons_self]
    have halone := Place.documented_alone param kind (hbare a List.mem_cons_self)
    exact congrArg (fun p => Except.ok [p]) halone.symm
  | case2 => rfl
  | case3 v => rfl
  | case4 l r ihl ihr =>
    obtain ⟨hml, hmr⟩ := List.forall_mem_append.mp hmake
    obtain ⟨hbl, hbr⟩ := List.forall_mem_append.mp hbare
    rw [ihl hml hbl, ihr hmr hbr, places_both, List.map_append]
    rfl
  | case5 l r ihl ihr =>
    obtain ⟨hml, hmr⟩ := List.forall_mem_append.mp hmake
    obtain ⟨hbl, hbr⟩ := List.forall_mem_append.mp hbare
    rw [ihl hml hbl, ihr hmr hbr, places_either, List.map_append, ← leaf_places l,
      ← leaf_places r, ← alternatives_documented]
    rfl
  | case6 a n =>
    rw [hmake a List.mem_cons_self]
    have hnoted : (noted (leaf a) n).places = [⟨a, n.message?.getD .null, []⟩] := rfl
    rw [hnoted]
    cases n.message? with
    | some m => rfl
    | none =>
      have halone := Place.documented_alone param kind (hbare a List.mem_cons_self)
      exact congrArg (fun p => Except.ok [p]) halone.symm
  | case7 r n hr ih =>
    rw [ih hmake hbare, places_noted hr]

end ParamRule

theorem description_of_checkedParameter {name required : Value} {p q : SimpleParameter}
    (h : checkedParameter name .null required p = .ok q) : q.description = .null := by
  obtain ⟨_, _, h₁, _, rfl⟩ := Checked.exists_of_seq_ok (Checked.exists_of_toExcept_ok h)
  obtain ⟨_, d, h₂, hd, rfl⟩ := Checked.exists_of_seq_ok h₁
  obtain ⟨_, _, rfl⟩ := Checked.exists_of_map_ok h₂
  cases Checked.ok.inj hd
  rfl

theorem QueryLeaf.description_of_parameter {classes : Registry} {a : QueryLeaf}
    {p : SimpleParameter} (h : a.parameter classes = .ok p) : p.description = .null := by
  obtain ⟨_, _, h⟩ := exists_of_bind_ok h
  obtain ⟨_, _, h⟩ := exists_of_bind_ok h
  exact description_of_checkedParameter h

theorem HeaderLeaf.description_of_parameter {classes : Registry} {a : HeaderLeaf}
    {p : SimpleParameter} (h : a.parameter classes = .ok p) : p.description = .null := by
  obtain ⟨_, _, h⟩ := exists_of_bind_ok h
  exact description_of_checkedParameter h

namespace ParamRule

/-- Where the leaves of a rule have their parameters, the rule has one for each leaf in order: that
of the leaf alone, with the description of its place. -/
theorem parameters_eq_places (classes : Registry) :
    (∀ (r : QueryRule) (param : QueryLeaf → SimpleParameter),
      (∀ a ∈ r.leaves, a.parameter classes = .ok (param a)) →
        QueryRule.parameters classes r = .ok (r.places.map (·.documented param "params")) ∧
          r.places.map (·.leaf) = r.leaves) ∧
    ∀ (r : HeaderRule) (param : HeaderLeaf → SimpleParameter),
      (∀ a ∈ r.leaves, a.parameter classes = .ok (param a)) →
        HeaderRule.parameters classes r = .ok (r.places.map (·.documented param "headers")) ∧
          r.places.map (·.leaf) = r.leaves := by
  constructor
  · intro r param h
    have hbare : ∀ a ∈ r.leaves, (param a).description = .null :=
      fun a ha => QueryLeaf.description_of_parameter (h a ha)
    exact ⟨collect_eq_places param "params" h hbare, leaf_places r⟩
  · intro r param h
    have hbare : ∀ a ∈ r.leaves, (param a).description = .null :=
      fun a ha => HeaderLeaf.description_of_parameter (h a ha)
    exact ⟨collect_eq_places param "headers" h hbare, leaf_places r⟩

/-- An integer of the query string. -/
def number (name : String) : QueryLeaf := ⟨.str name, .scalar .int, .plain .null, .null⟩

/-- A page that is named, or else a limit and where to begin. -/
def pageQuery : QueryRule :=
  .either (.noted (.leaf (number "page")) (.text (.str "The page.")))
    (.both (.leaf (number "limit"))
      (.either (.leaf (number "offset")) (.noted (.either (.leaf (number "after")) .empty)
        (.text (.str "unread")))))

def tokenHeaders : HeaderRule :=
  .either (.both (.leaf (.capture (.str "User") (.scalar .str))) (.leaf (.mapper (.str ""))))
    (.noted (.leaf (.require (.str "Token"))) (.text (.str "")))

theorem parameters_eq_places_pages :
    (QueryRule.parameters ∅ pageQuery).map (·.map (·.description.text)) =
      .ok ["The page. Optional if the following params are satisfied: [limit, offset, after]",
        "Optional if the following params are satisfied: [page]",
        "Optional if the following params are satisfied: [after]" ++
          " Optional if the following params are satisfied: [page]",
        "Optional if the following params are satisfied: [offset]" ++
          " Optional if the following params are satisfied: [page]"] ∧
    (HeaderRule.parameters ∅ tokenHeaders).map (·.map (·.description.text)) =
      .ok ["Optional if the following headers are satisfied: [Token]",
        "Optional if the following headers are satisfied: [Token]",
        "Optional if the following headers are satisfied: [User]"] := by
  have hquery : ∀ a ∈ pageQuery.leaves, a.parameter ∅ =
      .ok ⟨some a.name.text, .null, true, "integer", some "int64", .null, none, none⟩ := by
    have hleaves : pageQuery.leaves =
        [number "page", number "limit", number "offset", number "after"] := rfl
    simp only [hleaves, List.forall_mem_cons]
    exact ⟨rfl, rfl, rfl, rfl, List.forall_mem_nil _⟩
  have hheaders : ∀ a ∈ tokenHeaders.leaves, a.parameter ∅ =
      .ok ⟨some a.name.text, .null, true, "string", none, .null, none, none⟩ := by
    have hleaves : tokenHeaders.leaves =
        [.capture (.str "User") (.scalar .str), .mapper (.str ""), .require (.str "Token")] := rfl
    simp only [hleaves, List.forall_mem_cons]
    exact ⟨rfl, rfl, rfl, List.forall_mem_nil _⟩
  rw [((parameters_eq_places ∅).1 pageQuery _ hquery).1,
    ((parameters_eq_places ∅).2 tokenHeaders _ hheaders).1]
  exact ⟨congrArg Except.ok (by decide +kernel), congrArg Except.ok (by decide +kernel)⟩

end ParamRule

end RouteAtlas
