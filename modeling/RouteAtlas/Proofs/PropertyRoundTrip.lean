import RouteAtlas.Proofs.EncodedFields
import RouteAtlas.Proofs.StoredForm

/-!
Reading a document that has been written gives its stored form: every property, parameter and body
schema is read as the form that it was written as.
-/

namespace RouteAtlas

open Check Checked Entries

theorem descriptionField_of_pick {es : List (Value × Value)} {o : Option String}
    (h : pick es ["description"] = o.map .str) : descriptionField es = .ok o := optional_text? h

theorem mem_text {e : String × Value} {key s : String} (h : e ∈ text key s) : e.1 = key := by
  rw [List.mem_singleton.mp h]

theorem mem_text? {e : String × Value} {key : String} {o : Option String} (h : e ∈ text? key o) :
    e.1 = key := by
  cases o with
  | none => cases h
  | some s => rw [List.mem_singleton.mp h]

theorem mem_texts {e : String × Value} {key : String} {ss : List String} (h : e ∈ texts key ss) :
    e.1 = key := by
  rw [List.mem_singleton.mp h]

theorem mem_bool? {e : String × Value} {key : String} {o : Option Bool} (h : e ∈ bool? key o) :
    e.1 = key := by
  cases o with
  | none => cases h
  | some s => rw [List.mem_singleton.mp h]

theorem mem_value? {e : String × Value} {key : String} {o : Option Value} (h : e ∈ value? key o) :
    e.1 = key := by
  cases o with
  | none => cases h
  | some s => rw [List.mem_singleton.mp h]

theorem list_any (vs : List Value) : list any (.list vs) = .ok vs := by
  have h : items any 0 (vs.map id) = .ok (vs.map id) := items_of_forall id id (fun _ _ => rfl) 0
  simpa [list] using h

/-- The entries that a scalar is written as. -/
def Primitive.entries (p : Primitive) : Entries :=
  text "type" p.type ++ text? "format" p.format ++ text? "description" p.description ++
    value? "enum" (p.enum.map fun vs => .list (Value.plains vs))

theorem decodePrimitiveFrom_entries (p : Primitive) :
    decodePrimitiveFrom p.entries.raw = .ok p.stored := by
  have htype : required p.entries.raw ["type"] text = .ok p.type :=
    required_of_pick (v := .str p.type) (by simp [Primitive.entries]) rfl
  have hformat : optional p.entries.raw ["format"] none (nullable text) = .ok p.format :=
    optional_text? (by simp [Primitive.entries])
  have hdescription : descriptionField p.entries.raw = .ok p.description :=
    descriptionField_of_pick (by simp [Primitive.entries])
  have henum : optional p.entries.raw ["enum"] none (nullable (list any)) =
      .ok (p.enum.map Value.plains) :=
    optional_nullable (fun vs => .list (Value.plains vs)) Value.plains (by simp [Primitive.entries])
      (fun vs _ => list_any (Value.plains vs)) (fun _ h => by cases h)
  have hothers : noOthers p.entries.raw
      [some "type", some "format", some "description", some "enum"] = .ok () := by
    refine noOthers_of_forall fun e he => ?_
    simp only [Primitive.entries, List.mem_append] at he
    rcases he with ((he | he) | he) | he
    · rw [mem_text he]
      rfl
    · rw [mem_text? he]
      rfl
    · rw [mem_text? he]
      rfl
    · rw [mem_value? he]
      rfl
  simp [decodePrimitiveFrom, htype, hformat, hdescription, henum, hothers, Primitive.stored]

theorem decodePrimitive_encode (p : Primitive) : decodePrimitive p.encode = .ok p.stored :=
  decodePrimitiveFrom_entries p

/-- The entries that a property is written as. -/
def Property.entries : Property → Entries
  | .primitive p => p.entries
  | .ref n d => text "$ref" (referenceStart ++ n) ++ text? "description" d
  | .array items u d =>
    text "type" "array" ++ [("items", items.encode)] ++ bool? "uniqueItems" u ++
      text? "description" d
  | .map values d =>
    text "type" "object" ++ [("additionalProperties", values.encode)] ++ text? "description" d

theorem Property.encode_eq (p : Property) : p.encode = Value.object p.entries := by
  cases p <;> rfl

/-- The properties under the keys of written entries. -/
theorem childProperty_raw (es : Entries) (k : String) (ks : List String) :
    childProperty (decodeChildren es.raw) (k :: ks) =
      ((es.lookup k).map decodeProperty).or (childProperty (decodeChildren es.raw) ks) := by
  rw [childProperty]
  congr 1
  induction es with
  | nil => rfl
  | cons e es ih =>
    obtain ⟨n, v⟩ := e
    by_cases h : n = k
    · subst h
      simp [raw, decodeChildren]
    · rw [lookup_cons_of_ne _ _ (Ne.symm h), ← ih]
      simp [raw, decodeChildren, h]

@[simp] theorem lookup_text (name key s : String) :
    (Entries.text name s).lookup key = if key = name then some (.str s) else none := by
  by_cases h : key = name
  · simp [Entries.text, h]
  · simp [Entries.text, lookup_cons_of_ne _ _ h, h]

@[simp] theorem lookup_value? (name key : String) (o : Option Value) :
    (value? name o).lookup key = if key = name then o else none := by
  cases o with
  | none => simp [value?]
  | some v =>
    by_cases h : key = name
    · simp [value?, h]
    · simp [value?, lookup_cons_of_ne _ _ h, h]

@[simp] theorem lookup_text? (name key : String) (o : Option String) :
    (text? name o).lookup key = if key = name then o.map .str else none := by
  cases o with
  | none => simp [text?]
  | some s => exact lookup_text name key s

theorem isOk_decodeRefFrom {es : List (Value × Value)} (h : pick es ["$ref", "ref"] = none) :
    (decodeRefFrom es).isOk = false := by
  simp [decodeRefFrom, isOk_required_of_missing h]

theorem isOk_requiredChild {cs : Children} {keys : List String} (h : childProperty cs keys = none) :
    (requiredChild cs keys).isOk = false := by
  rw [requiredChild, isOk_at, h]
  rfl

theorem requiredChild_of_some {cs : Children} {keys : List String} {p : Property}
    (h : childProperty cs keys = some (.ok p)) : requiredChild cs keys = .ok p := by
  rw [requiredChild, h]
  rfl

theorem isOk_decodeArrayFrom {es : List (Value × Value)} {cs : Children}
    (h : childProperty cs ["items"] = none) : (decodeArrayFrom es cs).isOk = false := by
  simp [decodeArrayFrom, isOk_requiredChild h]

theorem isOk_decodeMapFrom {es : List (Value × Value)} {cs : Children}
    (h : childProperty cs ["additionalProperties", "additional_properties"] = none) :
    (decodeMapFrom es cs).isOk = false := by
  simp [decodeMapFrom, isOk_requiredChild h]

theorem referenceName_append (n : String) : referenceName (referenceStart ++ n) = n := by
  have hstart : Text.startsWith referenceStart (referenceStart ++ n) = true := by
    simp [Text.startsWith]
  have hdrop : (referenceStart ++ n).toList.drop referenceStart.length = n.toList := by
    rw [String.toList_append, ← String.length_toList, List.drop_left]
  rw [referenceName, Text.dropStart?, if_pos hstart, hdrop, Option.getD_some, String.ofList_toList]

theorem decodeRefFrom_entries (n : String) (d : Option String) :
    decodeRefFrom (Property.ref n d).entries.raw = .ok (.ref n d) := by
  have href : required (Property.ref n d).entries.raw ["$ref", "ref"] reference = .ok n := by
    refine required_of_pick (v := .str (referenceStart ++ n)) (by simp [Property.entries]) ?_
    rw [reference, referenceName_append]
  have hdescription : descriptionField (Property.ref n d).entries.raw = .ok d :=
    descriptionField_of_pick (by simp [Property.entries])
  have hkey : pickKey (Property.ref n d).entries.raw ["$ref", "ref"] = some "$ref" := by
    simp [Property.entries]
  have hothers : noOthers (Property.ref n d).entries.raw [some "$ref", some "description"] =
      .ok () := by
    refine noOthers_of_forall fun e he => ?_
    simp only [Property.entries, List.mem_append] at he
    rcases he with he | he
    · rw [mem_text he]
      rfl
    · rw [mem_text? he]
      rfl
  simp only [decodeRefFrom, href, hdescription, hkey, hothers, map_ok, seq_ok]

theorem decodeArrayFrom_entries {items : Property} (u : Option Bool) (d : Option String)
    (h : decodeProperty items.encode = .ok items.stored) :
    decodeArrayFrom (Property.array items u d).entries.raw
        (decodeChildren (Property.array items u d).entries.raw) =
      .ok (.array items.stored u d) := by
  have htype : optional (Property.array items u d).entries.raw ["type"] () (word "array") =
      .ok () :=
    optional_of_pick (v := .str "array") (by simp [Property.entries]) rfl
  have hitems : requiredChild (decodeChildren (Property.array items u d).entries.raw) ["items"] =
      .ok items.stored := by
    refine requiredChild_of_some ?_
    rw [childProperty_raw]
    simp [Property.entries, List.lookup_append, h]
  have hunique : optional (Property.array items u d).entries.raw ["uniqueItems", "unique_items"]
      none (nullable bool) = .ok u := by
    have hall : optional (Property.array items u d).entries.raw ["uniqueItems", "unique_items"]
        none (nullable bool) = .ok (u.map id) :=
      optional_nullable Value.bool id (by simp [Property.entries]) (fun _ _ => rfl)
        (fun _ hn => by cases hn)
    simpa using hall
  have hdescription : descriptionField (Property.array items u d).entries.raw = .ok d :=
    descriptionField_of_pick (by simp [Property.entries])
  have hothers : noOthers (Property.array items u d).entries.raw [some "type", some "items",
      pickKey (Property.array items u d).entries.raw ["uniqueItems", "unique_items"],
      some "description"] = .ok () := by
    refine noOthers_of_forall fun e he => ?_
    simp only [Property.entries, List.mem_append] at he
    rcases he with ((he | he) | he) | he
    · rw [mem_text he]
      rfl
    · rw [List.mem_singleton.mp he]
      rfl
    · cases u with
      | none => cases he
      | some b =>
        rw [mem_bool? he]
        simp [Property.entries]
    · rw [mem_text? he]
      simp
  simp only [decodeArrayFrom, htype, hitems, hunique, hdescription, hothers, map_ok, seq_ok]

theorem decodeMapFrom_entries {values : Property} (d : Option String)
    (h : decodeProperty values.encode = .ok values.stored) :
    decodeMapFrom (Property.map values d).entries.raw
        (decodeChildren (Property.map values d).entries.raw) = .ok (.map values.stored d) := by
  have htype : optional (Property.map values d).entries.raw ["type"] () (word "object") = .ok () :=
    optional_of_pick (v := .str "object") (by simp [Property.entries]) rfl
  have hvalues : requiredChild (decodeChildren (Property.map values d).entries.raw)
      ["additionalProperties", "additional_properties"] = .ok values.stored := by
    refine requiredChild_of_some ?_
    rw [childProperty_raw]
    simp [Property.entries, List.lookup_append, h]
  have hdescription : descriptionField (Property.map values d).entries.raw = .ok d :=
    descriptionField_of_pick (by simp [Property.entries])
  have hkey : pickKey (Property.map values d).entries.raw
      ["additionalProperties", "additional_properties"] = some "additionalProperties" := by
    simp [Property.entries]
  have hothers : noOthers (Property.map values d).entries.raw
      [some "type", some "additionalProperties", some "description"] = .ok () := by
    refine noOthers_of_forall fun e he => ?_
    simp only [Property.entries, List.mem_append] at he
    rcases he with (he | he) | he
    · rw [mem_text he]
      rfl
    · rw [List.mem_singleton.mp he]
      rfl
    · rw [mem_text? he]
      rfl
  simp only [decodeMapFrom, htype, hvalues, hdescription, hkey, hothers, map_ok, seq_ok]

theorem decodeProperty_object (es : Entries) :
    decodeProperty (Value.object es) =
      firstOf (alternative "RefProperty" (decodeRefFrom es.raw) ::
        inlineForms es.raw (decodeChildren es.raw)) := by
  rw [Value.object, decodeProperty]
  rfl

theorem isOk_alternative {α : Type} (name : String) (c : Checked α) :
    (alternative name c).isOk = c.isOk := isOk_at name c

theorem isOk_asBody {c : Checked Property} (h : c.isOk = false) : (asBody c).isOk = false := by
  cases c with
  | ok => cases h
  | bad => rfl

/-- Of the forms of a written property other than a reference, its own is the first that fits. -/
def FitsInline (p : Property) : Prop :=
  ∃ n, (inlineForms p.entries.raw (decodeChildren p.entries.raw))[n]? = some (.ok p.stored) ∧
    ∀ c ∈ (inlineForms p.entries.raw (decodeChildren p.entries.raw)).take n, c.isOk = false

theorem fitsInline_primitive (p : Primitive) : FitsInline (.primitive p) := by
  have hitems : childProperty (decodeChildren (Property.primitive p).entries.raw) ["items"] =
      none := by
    rw [childProperty_raw]
    simp [Property.entries, Primitive.entries, List.lookup_append, childProperty]
  have hvalues : childProperty (decodeChildren (Property.primitive p).entries.raw)
      ["additionalProperties", "additional_properties"] = none := by
    rw [childProperty_raw, childProperty_raw]
    simp [Property.entries, Primitive.entries, List.lookup_append, childProperty]
  refine ⟨2, ?_, fun c hc => ?_⟩
  · show some (alternative _ (Property.primitive <$> decodePrimitiveFrom p.entries.raw)) = _
    rw [decodePrimitiveFrom_entries]
    rfl
  · simp only [inlineForms, List.take_succ_cons, List.take_zero, List.mem_cons, List.not_mem_nil,
      or_false] at hc
    rcases hc with rfl | rfl
    · rw [isOk_alternative]
      exact isOk_decodeArrayFrom hitems
    · rw [isOk_alternative]
      exact isOk_decodeMapFrom hvalues

theorem fitsInline_array {items : Property} (u : Option Bool) (d : Option String)
    (h : decodeProperty items.encode = .ok items.stored) : FitsInline (.array items u d) := by
  refine ⟨0, ?_, by simp⟩
  rw [inlineForms, decodeArrayFrom_entries u d h]
  rfl

theorem fitsInline_map {values : Property} (d : Option String)
    (h : decodeProperty values.encode = .ok values.stored) : FitsInline (.map values d) := by
  have hitems : childProperty (decodeChildren (Property.map values d).entries.raw) ["items"] =
      none := by
    have hne : "items" ≠ "additionalProperties" := by decide
    rw [childProperty_raw]
    simp [Property.entries, List.lookup_append, lookup_cons_of_ne _ _ hne, childProperty,
      -List.lookup_eq_none_iff]
  refine ⟨1, ?_, fun c hc => ?_⟩
  · rw [inlineForms, decodeMapFrom_entries d h]
    rfl
  · rw [List.mem_singleton.mp hc, isOk_alternative]
    exact isOk_decodeArrayFrom hitems

theorem decodeProperty_of_fitsInline {p : Property} (h : FitsInline p)
    (href : pick p.entries.raw ["$ref", "ref"] = none) :
    decodeProperty p.encode = .ok p.stored := by
  obtain ⟨n, hn, hbad⟩ := h
  rw [Property.encode_eq, decodeProperty_object]
  refine firstOf_of_getElem? (n := n + 1) hn fun c hc => ?_
  rcases List.mem_cons.mp hc with rfl | hc
  · rw [isOk_alternative]
    exact isOk_decodeRefFrom href
  · exact hbad c hc

theorem pick_ref_primitive (p : Primitive) : pick p.entries.raw ["$ref", "ref"] = none := by
  simp [Primitive.entries]

theorem pick_ref_array (items : Property) (u : Option Bool) (d : Option String) :
    pick (Property.array items u d).entries.raw ["$ref", "ref"] = none := by
  simp [Property.entries]

theorem pick_ref_map (values : Property) (d : Option String) :
    pick (Property.map values d).entries.raw ["$ref", "ref"] = none := by
  simp [Property.entries]

/-- A property is read back as the form that it was written as, at any depth. -/
theorem decodeProperty_encode (p : Property) : decodeProperty p.encode = .ok p.stored := by
  induction p with
  | primitive p =>
    exact decodeProperty_of_fitsInline (fitsInline_primitive p) (pick_ref_primitive p)
  | ref n d =>
    rw [Property.encode_eq, decodeProperty_object, decodeRefFrom_entries]
    exact firstOf_of_getElem? (n := 0) rfl (by simp)
  | array items u d ih =>
    exact decodeProperty_of_fitsInline (fitsInline_array u d ih) (pick_ref_array items u d)
  | map values d ih =>
    exact decodeProperty_of_fitsInline (fitsInline_map d ih) (pick_ref_map values d)

/-- The entries that the schema of a body is written as. -/
def BodySchema.entries : BodySchema → Entries
  | .model n _ => text "$ref" (referenceStart ++ n)
  | .array items u d => (Property.array items u d).entries
  | .map values d => (Property.map values d).entries
  | .primitive p => p.entries

theorem BodySchema.encode_eq (b : BodySchema) : b.encode = Value.object b.entries := by
  cases b <;> rfl

theorem decodeBodySchema_object (es : Entries) :
    decodeBodySchema (Value.object es) =
      firstOf (alternative "RefModel" (decodeRefModelFrom es.raw) ::
        (inlineForms es.raw (decodeChildren es.raw)).map asBody) := rfl

theorem decodeBodySchema_of_fitsInline {b : BodySchema} {p : Property}
    (he : b.entries = p.entries) (hb : asBody (.ok p.stored) = .ok b.stored) (h : FitsInline p)
    (href : pick p.entries.raw ["$ref", "ref"] = none) :
    decodeBodySchema b.encode = .ok b.stored := by
  obtain ⟨n, hn, hbad⟩ := h
  rw [BodySchema.encode_eq, decodeBodySchema_object, he]
  refine firstOf_of_getElem? (n := n + 1) ?_ fun c hc => ?_
  · rw [List.getElem?_cons_succ, List.getElem?_map, hn, Option.map_some, hb]
  rw [List.take_succ_cons, ← List.map_take] at hc
  rcases List.mem_cons.mp hc with rfl | hc
  · rw [isOk_alternative, decodeRefModelFrom, isOk_seq, isOk_map, isOk_required_of_missing href]
    rfl
  · obtain ⟨c, hmem, rfl⟩ := List.mem_map.mp hc
    exact isOk_asBody (hbad c hmem)

/-- The schema of a body is read back as the form that it was written as. -/
theorem decodeBodySchema_encode (b : BodySchema) : decodeBodySchema b.encode = .ok b.stored := by
  cases b with
  | model n id =>
    have href : required (BodySchema.model n id).entries.raw ["$ref", "ref"] reference = .ok n := by
      refine required_of_pick (v := .str (referenceStart ++ n)) (by simp [BodySchema.entries]) ?_
      rw [reference, referenceName_append]
    have hid : optional (BodySchema.model n id).entries.raw ["id"] none (nullable text) =
        .ok none :=
      optional_of_missing (by simp [BodySchema.entries])
    rw [BodySchema.encode_eq, decodeBodySchema_object, decodeRefModelFrom, href, hid]
    exact firstOf_of_getElem? (n := 0) rfl (by simp)
  | array items u d =>
    exact decodeBodySchema_of_fitsInline (p := .array items u d) rfl rfl
      (fitsInline_array u d (decodeProperty_encode items)) (pick_ref_array items u d)
  | map values d =>
    exact decodeBodySchema_of_fitsInline (p := .map values d) rfl rfl
      (fitsInline_map d (decodeProperty_encode values)) (pick_ref_map values d)
  | primitive p =>
    exact decodeBodySchema_of_fitsInline (p := .primitive p) rfl rfl (fitsInline_primitive p)
      (pick_ref_primitive p)

end RouteAtlas
