import RouteAtlas.Proofs.LostDefaults
import RouteAtlas.Proofs.PropertyRoundTrip

/-!
Reading a whole document that has been written gives its stored form, where every name stands once
in its place and bodies have names.
-/

namespace RouteAtlas

open Check Checked Entries

/-- What can be read back: a description that is a text or null, and a body that has a name. -/
def Parameter.Readable : Parameter → Prop
  | .simple _ p => p.description.isTextOrNull = true
  | .body b => b.name ≠ none

/-- No name is repeated where names are keys, and what is in it can be read back. -/
structure Operation.Readable (op : Operation) : Prop where
  parameters : ∀ p ∈ op.parameters, p.Readable
  responses : (op.responses.map (·.1)).Nodup

structure PathItem.Readable (item : PathItem) : Prop where
  operations : ∀ v op, item.slot v = some op → op.Readable
  parameters : ∀ p ∈ item.parameters, p.Readable

def Schema.Readable (s : Schema) : Prop := (s.properties.map (·.1)).Nodup

structure Document.Readable (d : Document) : Prop where
  paths : (d.paths.map (·.1)).Nodup
  items : ∀ e ∈ d.paths, e.2.Readable
  definitions : (d.definitions.map (·.1)).Nodup
  schemas : ∀ e ∈ d.definitions, e.2.Readable

/-- The entries that a model is written as. -/
def Schema.entries (s : Schema) : Entries :=
  text "title" s.name ++ text "type" s.type ++ text? "description" s.description ++
    [("properties", Value.object (s.properties.map fun p => (p.1, p.2.encode)))] ++
    value? "required" (s.required.map fun names => .list (names.map .str))

theorem decodeSchema_encode {s : Schema} (h : s.Readable) :
    decodeSchema s.encode = .ok s.stored := by
  have hid : optional s.entries.raw ["id"] none (nullable text) = .ok none :=
    optional_of_missing (by simp [Schema.entries])
  have hname : required s.entries.raw ["title", "name"] text = .ok s.name :=
    required_of_pick (v := .str s.name) (by simp [Schema.entries]) rfl
  have htype : optional s.entries.raw ["type"] "object" text = .ok s.type :=
    optional_of_pick (v := .str s.type) (by simp [Schema.entries]) rfl
  have hdescription : descriptionField s.entries.raw = .ok s.description :=
    descriptionField_of_pick (by simp [Schema.entries])
  have hproperties : optional s.entries.raw ["properties"] [] (dict decodeProperty) =
      .ok (s.properties.map fun p => (p.1, p.2.stored)) := by
    refine optional_of_pick
      (v := Value.object (s.properties.map fun p => (p.1, p.2.encode)))
      (by simp [Schema.entries]) ?_
    exact dict_of_forall h fun e _ => decodeProperty_encode e.2
  have hrequired : optional s.entries.raw ["required"] none (nullable texts) = .ok s.required := by
    have hall : optional s.entries.raw ["required"] none (nullable texts) =
        .ok (s.required.map id) :=
      optional_nullable (fun names => .list (names.map Value.str)) id (by simp [Schema.entries])
        (fun names _ => texts_str names) (fun _ hn => by cases hn)
    simpa using hall
  show decodeSchemaFrom s.entries.raw = _
  simp only [decodeSchemaFrom, hid, hname, htype, hdescription, hproperties, hrequired, map_ok,
    seq_ok]
  rfl

/-- The entries that a parameter other than a body is written as. -/
def SimpleParameter.entries (l : Location) (p : SimpleParameter) : Entries :=
  text? "name" p.name ++ any? "description" p.description ++
    [("required", .bool p.required)] ++ text "type" p.type ++ text? "format" p.format ++
    any? "default" p.default ++ value? "items" (p.items.map Primitive.encode) ++
    text? "collectionFormat" p.collectionFormat ++ text "in" l.word

def BodyParameter.entries (b : BodyParameter) : Entries :=
  text "in" "body" ++ text? "name" b.name ++ text? "description" b.description ++
    [("required", .bool b.required)] ++ value? "schema" (b.schema.map BodySchema.encode)

theorem word_self (w : String) : word w (.str w) = .ok () := by simp [word]

theorem isOk_word_of_ne {w w' : String} (h : w' ≠ w) : (word w (.str w')).isOk = false := by
  simp [word, h, fail, isOk]

theorem Primitive.encode_ne_null (p : Primitive) : p.encode ≠ .null := fun h => by cases h

theorem BodySchema.encode_ne_null (b : BodySchema) : b.encode ≠ .null := fun h => by
  rw [BodySchema.encode_eq] at h
  cases h

theorem Property.encode_ne_null (p : Property) : p.encode ≠ .null := fun h => by
  rw [Property.encode_eq] at h
  cases h

theorem Value.exists_ofText? {v : Value} (h : v.isTextOrNull = true) : ∃ o, v = .ofText? o := by
  cases v with
  | null => exact ⟨none, rfl⟩
  | str s => exact ⟨some s, rfl⟩
  | _ => cases h

theorem SimpleParameter.get?_entries (l : Location) (p : SimpleParameter) {key : String}
    (hdescription : "description" ≠ key) (hdefault : "default" ≠ key) :
    (p.entries l).get? key = get? (text? "name" p.name ++ [("required", .bool p.required)] ++
      text "type" p.type ++ text? "format" p.format ++
        value? "items" (p.items.map Primitive.encode) ++
      text? "collectionFormat" p.collectionFormat ++ text "in" l.word) key := by
  simp only [entries, get?_append, get?_any?_of_ne hdescription, get?_any?_of_ne hdefault,
    Option.none_or]

theorem decodeSimpleFrom_entries (l : Location) {p : SimpleParameter}
    (h : p.description.isTextOrNull = true) :
    decodeSimpleFrom l (p.entries l).raw = .ok (.simple l p.stored) := by
  obtain ⟨o, ho⟩ := Value.exists_ofText? h
  have hname : optional (p.entries l).raw ["name"] none (nullable text) = .ok p.name :=
    optional_text? (by simp [SimpleParameter.get?_entries])
  have hdescription : descriptionField (p.entries l).raw = .ok o :=
    descriptionField_of_pick
      (by simp [SimpleParameter.entries, ho, any?_ofText?, get?_any?_of_ne])
  have hrequired : optional (p.entries l).raw ["required"] (decide (l = .path)) bool =
      .ok p.required :=
    optional_of_pick (v := .bool p.required) (by simp [SimpleParameter.get?_entries]) rfl
  have htype : optional (p.entries l).raw ["type"] "string" text = .ok p.type :=
    optional_of_pick (v := .str p.type) (by simp [SimpleParameter.get?_entries]) rfl
  have hformat : optional (p.entries l).raw ["format"] none (nullable text) = .ok p.format :=
    optional_text? (by simp [SimpleParameter.get?_entries])
  have hdefault : optional (p.entries l).raw ["default"] .null any = .ok p.default.plain := by
    by_cases hp : p.default = .null
    · rw [hp]
      exact optional_of_missing (by simp [SimpleParameter.entries, hp, get?_any?_of_ne])
    · refine optional_of_pick (v := p.default.plain) ?_ rfl
      simp [SimpleParameter.entries, any?_of_ne _ hp, get?_any?_of_ne]
  have hitems : optional (p.entries l).raw ["items"] none (nullable decodePrimitive) =
      .ok (p.items.map Primitive.stored) :=
    optional_nullable Primitive.encode Primitive.stored (by simp [SimpleParameter.get?_entries])
      (fun q _ => decodePrimitive_encode q) Primitive.encode_ne_null
  have hcollection : optional (p.entries l).raw ["collectionFormat", "collection_format"] none
      (nullable text) = .ok p.collectionFormat :=
    optional_text? (by simp [SimpleParameter.get?_entries])
  have hin : optional (p.entries l).raw ["in", "location"] () (word l.word) = .ok () :=
    optional_of_pick (v := .str l.word) (by simp [SimpleParameter.get?_entries]) (word_self l.word)
  have hstored : SimpleParameter.stored p = { p.stored with description := .ofText? o } := by
    rw [← ho]
    rfl
  simp only [decodeSimpleFrom, hname, hdescription, hrequired, htype, hformat, hdefault, hitems,
    hcollection, hin, map_ok, seq_ok]
  rw [hstored]
  rfl

theorem decodeBodyFrom_entries {b : BodyParameter} (h : b.name ≠ none) :
    decodeBodyFrom b.entries.raw = .ok (.body b.stored) := by
  obtain ⟨n, hn⟩ := Option.ne_none_iff_exists'.mp h
  have hin : optional b.entries.raw ["in", "location"] () (word "body") = .ok () :=
    optional_of_pick (v := .str "body") (by simp [BodyParameter.entries]) (word_self "body")
  have hname : optional b.entries.raw ["name"] (some "body") (nullable text) = .ok b.name := by
    rw [hn]
    exact optional_of_pick (v := .str n) (by simp [BodyParameter.entries, hn]) rfl
  have hdescription : descriptionField b.entries.raw = .ok b.description :=
    descriptionField_of_pick (by simp [BodyParameter.entries])
  have hrequired : optional b.entries.raw ["required"] true bool = .ok b.required :=
    optional_of_pick (v := .bool b.required) (by simp [BodyParameter.entries]) rfl
  have hschema : optional b.entries.raw ["schema", "schema_"] none (nullable decodeBodySchema) =
      .ok (b.schema.map BodySchema.stored) :=
    optional_nullable BodySchema.encode BodySchema.stored (by simp [BodyParameter.entries])
      (fun s _ => decodeBodySchema_encode s) BodySchema.encode_ne_null
  simp only [decodeBodyFrom, hin, hname, hdescription, hrequired, hschema, map_ok, seq_ok]
  rfl

/-- A reader for one place refuses what is written for another. -/
theorem isOk_optional_word_of_ne {es : List (Value × Value)} {w w' : String}
    (h : pick es ["in", "location"] = some (.str w')) (hne : w' ≠ w) :
    (optional es ["in", "location"] () (word w)).isOk = false := by
  rw [Check.optional, h]
  exact (isOk_at _ _).trans (isOk_word_of_ne hne)

/-- The reading of data as a parameter for one place. -/
def simpleCandidate (es : List (Value × Value)) (name : String) (l : Location) :
    Candidate Parameter :=
  ⟨simpleCount es, simpleConverts es, alternative name (decodeSimpleFrom l es)⟩

def bodyCandidate (es : List (Value × Value)) : Candidate Parameter :=
  ⟨bodyCount es, bodyConverts es, alternative "BodyParameter" (decodeBodyFrom es)⟩

variable {es : List (Value × Value)} {l : Location} {w : String}

theorem isOk_simpleCandidate_of_ne (h : pick es ["in", "location"] = some (.str w))
    (hne : w ≠ l.word) (name : String) : (simpleCandidate es name l).result.isOk = false := by
  rw [simpleCandidate, isOk_alternative]
  simp [decodeSimpleFrom, isOk_optional_word_of_ne h hne]

theorem isOk_bodyCandidate_of_ne (h : pick es ["in", "location"] = some (.str w))
    (hne : w ≠ "body") : (bodyCandidate es).result.isOk = false := by
  rw [bodyCandidate, isOk_alternative]
  simp [decodeBodyFrom, isOk_optional_word_of_ne h hne]

theorem decodeParameter_object (es : Entries) :
    decodeParameter (Value.object es) = bestOf [simpleCandidate es.raw "PathParameter" .path,
      simpleCandidate es.raw "QueryParameter" .query,
      simpleCandidate es.raw "HeaderParameter" .header, bodyCandidate es.raw] := rfl

theorem decodeParameter_encode_body {b : BodyParameter} (h : (Parameter.body b).Readable) :
    decodeParameter (Parameter.body b).encode = .ok (.body b.stored) := by
  have hin : pick b.entries.raw ["in", "location"] = some (.str "body") := by
    simp [BodyParameter.entries]
  have hbody : (bodyCandidate b.entries.raw).result = .ok (.body b.stored) := by
    rw [bodyCandidate, decodeBodyFrom_entries h]
    rfl
  have hsimple (name : String) (l : Location) :
      (simpleCandidate b.entries.raw name l).result.isOk = false :=
    isOk_simpleCandidate_of_ne hin (by cases l <;> decide) name
  show decodeParameter (Value.object b.entries) = _
  rw [decodeParameter_object]
  refine bestOf_of_unique [_, _, _] [] (c := bodyCandidate b.entries.raw)
    (fun d hd => ?_) (by simp) hbody
  simp only [List.mem_cons, List.not_mem_nil, or_false] at hd
  rcases hd with rfl | rfl | rfl <;> exact hsimple _ _

/-- Of the candidates for a parameter, only the one for its own place takes it. -/
theorem decodeParameter_encode_simple (l : Location) {p : SimpleParameter}
    (h : p.description.isTextOrNull = true) :
    decodeParameter (Parameter.simple l p).encode = .ok (.simple l p.stored) := by
  have hin : pick (p.entries l).raw ["in", "location"] = some (.str l.word) := by
    simp [SimpleParameter.entries]
  have hself (name : String) : (simpleCandidate (p.entries l).raw name l).result =
      .ok (.simple l p.stored) := by
    rw [simpleCandidate, decodeSimpleFrom_entries l h]
    rfl
  have hother (name : String) (l' : Location) (hne : l.word ≠ l'.word) :
      (simpleCandidate (p.entries l).raw name l').result.isOk = false :=
    isOk_simpleCandidate_of_ne hin hne name
  have hbody : (bodyCandidate (p.entries l).raw).result.isOk = false :=
    isOk_bodyCandidate_of_ne hin (by cases l <;> decide)
  show decodeParameter (Value.object (p.entries l)) = _
  rw [decodeParameter_object]
  cases l with
  | path =>
    refine bestOf_of_unique [] _ (by simp) (fun d hd => ?_) (hself _)
    simp only [List.mem_cons, List.not_mem_nil, or_false] at hd
    rcases hd with rfl | rfl | rfl
    · exact hother _ _ (by decide)
    · exact hother _ _ (by decide)
    · exact hbody
  | query =>
    refine bestOf_of_unique [_] _ (fun d hd => ?_) (fun d hd => ?_) (hself _)
    · rw [List.mem_singleton.mp hd]
      exact hother _ _ (by decide)
    · simp only [List.mem_cons, List.not_mem_nil, or_false] at hd
      rcases hd with rfl | rfl
      · exact hother _ _ (by decide)
      · exact hbody
  | header =>
    refine bestOf_of_unique [_, _] _ (fun d hd => ?_) (fun d hd => ?_) (hself _)
    · simp only [List.mem_cons, List.not_mem_nil, or_false] at hd
      rcases hd with rfl | rfl
      · exact hother _ _ (by decide)
      · exact hother _ _ (by decide)
    · rw [List.mem_singleton.mp hd]
      exact hbody

/-- A parameter is read back for the place that it was written for. -/
theorem decodeParameter_encode {p : Parameter} (h : p.Readable) :
    decodeParameter p.encode = .ok p.stored := by
  cases p with
  | body b => exact decodeParameter_encode_body h
  | simple l p => exact decodeParameter_encode_simple l h

theorem decodeParameters_encode {ps : List Parameter} (h : ∀ p ∈ ps, p.Readable) :
    list decodeParameter (.list (ps.map Parameter.encode)) = .ok (ps.map Parameter.stored) :=
  items_of_forall Parameter.encode Parameter.stored
    (fun p hp => decodeParameter_encode (h p hp)) 0

def Response.entries (r : Response) : Entries :=
  text "description" r.description ++ value? "schema" (r.schema.map Property.encode)

theorem decodeResponse_encode (r : Response) : decodeResponse r.encode = .ok r.stored := by
  have hdescription : required r.entries.raw ["description"] text = .ok r.description :=
    required_of_pick (v := .str r.description) (by simp [Response.entries]) rfl
  have hschema : optional r.entries.raw ["schema", "schema_"] none (nullable decodeProperty) =
      .ok (r.schema.map Property.stored) :=
    optional_nullable Property.encode Property.stored (by simp [Response.entries])
      (fun p _ => decodeProperty_encode p) Property.encode_ne_null
  have he : r.encode = Value.object r.entries := rfl
  rw [he, decodeResponse, object_raw]
  simp only [hdescription, hschema, map_ok, seq_ok]
  rfl

def Operation.entries (op : Operation) : Entries :=
  texts "tags" op.tags ++ text? "summary" op.summary ++
    text? "description" op.description ++ texts "consumes" op.consumes ++
    texts "produces" op.produces ++ text? "operationId" op.operationId ++
    [("parameters", .list (op.parameters.map Parameter.encode)),
      ("responses", Value.object (op.responses.map fun r => (r.1, r.2.encode)))]

theorem decodeOperation_encode {op : Operation} (h : op.Readable) :
    decodeOperation op.encode = .ok op.stored := by
  have htags : optional op.entries.raw ["tags"] [] texts = .ok op.tags :=
    optional_of_pick (v := .list (op.tags.map .str)) (by simp [Operation.entries])
      (texts_str op.tags)
  have hsummary : optional op.entries.raw ["summary"] none (nullable text) = .ok op.summary :=
    optional_text? (by simp [Operation.entries])
  have hdescription : descriptionField op.entries.raw = .ok op.description :=
    descriptionField_of_pick (by simp [Operation.entries])
  have hconsumes : optional op.entries.raw ["consumes"] [] texts = .ok op.consumes :=
    optional_of_pick (v := .list (op.consumes.map .str)) (by simp [Operation.entries])
      (texts_str op.consumes)
  have hproduces : optional op.entries.raw ["produces"] [] texts = .ok op.produces :=
    optional_of_pick (v := .list (op.produces.map .str)) (by simp [Operation.entries])
      (texts_str op.produces)
  have hid : optional op.entries.raw ["operationId", "operation_id"] none (nullable text) =
      .ok op.operationId :=
    optional_text? (by simp [Operation.entries])
  have hparameters : optional op.entries.raw ["parameters"] [] (list decodeParameter) =
      .ok (op.parameters.map Parameter.stored) :=
    optional_of_pick (v := .list (op.parameters.map Parameter.encode))
      (by simp [Operation.entries]) (decodeParameters_encode h.parameters)
  have hresponses : optional op.entries.raw ["responses"] [] (dict decodeResponse) =
      .ok (op.responses.map fun r => (r.1, r.2.stored)) :=
    optional_of_pick (v := Value.object (op.responses.map fun r => (r.1, r.2.encode)))
      (by simp [Operation.entries])
      (dict_of_forall h.responses fun r _ => decodeResponse_encode r.2)
  have he : op.encode = Value.object op.entries := rfl
  rw [he, decodeOperation, object_raw]
  simp only [htags, hsummary, hdescription, hconsumes, hproduces, hid, hparameters, hresponses,
    map_ok, seq_ok]
  rfl

theorem Operation.encode_ne_null (op : Operation) : op.encode ≠ .null := fun h => by cases h

theorem decodePathItem_encode {item : PathItem} (h : item.Readable) :
    decodePathItem item.encode = .ok item.stored := by
  have hverb : ∀ v : Verb, optional item.entries.raw [v.key] none (nullable decodeOperation) =
      .ok ((item.slot v).map Operation.stored) := by
    intro v
    refine optional_nullable Operation.encode Operation.stored ?_
      (fun op hop => decodeOperation_encode (h.operations v op hop)) Operation.encode_ne_null
    rw [pick_cons, item.get?_entries v, pick_nil, Option.or_none]
  have hparameters : optional item.entries.raw ["parameters"] [] (list decodeParameter) =
      .ok (item.parameters.map Parameter.stored) :=
    optional_of_pick (v := .list (item.parameters.map Parameter.encode))
      (by simp [PathItem.entries]) (decodeParameters_encode h.parameters)
  rw [PathItem.encode_eq, decodePathItem, object_raw]
  simp only [hverb, hparameters, map_ok, seq_ok]
  rfl

def Info.entries (i : Info) : Entries :=
  text "title" i.title ++ text "version" i.version ++ text? "description" i.description

theorem decodeInfo_encode (i : Info) : decodeInfo i.encode = .ok i := by
  have htitle : required i.entries.raw ["title"] text = .ok i.title :=
    required_of_pick (v := .str i.title) (by simp [Info.entries]) rfl
  have hversion : required i.entries.raw ["version"] text = .ok i.version :=
    required_of_pick (v := .str i.version) (by simp [Info.entries]) rfl
  have hdescription : descriptionField i.entries.raw = .ok i.description :=
    descriptionField_of_pick (by simp [Info.entries])
  have he : i.encode = Value.object i.entries := rfl
  rw [he, decodeInfo, object_raw]
  simp only [htitle, hversion, hdescription, map_ok, seq_ok]

/-- Where the definitions have their titles, none is given. -/
theorem withTitles_object {es : Entries}
    (h : ∀ e ∈ es, e.1 = "definitions" → ∀ ds, e.2 = .map ds →
      ds.map (fun d => (d.1, withTitle d.1 d.2)) = ds) :
    withTitles (Value.object es) = Value.object es := by
  unfold withTitles Value.object
  simp only [List.map_map, Value.map.injEq]
  refine List.map_congr_left fun e he => ?_
  obtain ⟨n, v⟩ := e
  simp only [Function.comp_apply]
  split
  next ds heq =>
    cases heq
    rw [h _ he rfl ds rfl]
  next => rfl

/-- A written model has its title. -/
theorem withTitle_encode (key : Value) (s : Schema) : withTitle key s.encode = s.encode := by
  have htitle : (get? s.entries "title").isSome = true := by simp [Schema.entries]
  show Value.map (if (get? s.entries "title").isSome = true then _ else _) = _
  rw [if_pos htitle]
  rfl

namespace Document

def entries (d : Document) : Entries :=
  text "swagger" d.swagger ++ [("info", d.info.encode)] ++ text? "host" d.host ++
    text? "basePath" d.basePath ++ texts "schemes" d.schemes ++ texts "consumes" d.consumes ++
    texts "produces" d.produces ++
    [("paths", Value.object (d.paths.map fun p => (p.1, p.2.encode))),
      ("definitions", Value.object (d.definitions.map fun s => (s.1, s.2.encode)))]

theorem withTitles_encode (d : Document) : withTitles d.encode = d.encode := by
  refine withTitles_object fun e he hkey ds hds => ?_
  simp only [List.mem_append, List.mem_cons, List.not_mem_nil, or_false] at he
  rcases he with ((((((he | rfl) | he) | he) | he) | he) | he) | (rfl | rfl)
  · exact absurd ((mem_text he).symm.trans hkey) (by decide)
  · exact absurd (show "info" = "definitions" from hkey) (by decide)
  · exact absurd ((mem_text? he).symm.trans hkey) (by decide)
  · exact absurd ((mem_text? he).symm.trans hkey) (by decide)
  · exact absurd ((mem_texts he).symm.trans hkey) (by decide)
  · exact absurd ((mem_texts he).symm.trans hkey) (by decide)
  · exact absurd ((mem_texts he).symm.trans hkey) (by decide)
  · exact absurd (show "paths" = "definitions" from hkey) (by decide)
  · cases hds
    simp [withTitle_encode]

theorem decodeDocument_encode {d : Document} (h : d.Readable) :
    decodeDocument d.encode = .ok d.stored := by
  have hswagger : optional d.entries.raw ["swagger"] "2.0" text = .ok d.swagger :=
    optional_of_pick (v := .str d.swagger) (by simp [entries]) rfl
  have hinfo : required d.entries.raw ["info"] decodeInfo = .ok d.info :=
    required_of_pick (v := d.info.encode) (by simp [entries]) (decodeInfo_encode d.info)
  have hhost : optional d.entries.raw ["host"] none (nullable text) = .ok d.host :=
    optional_text? (by simp [entries])
  have hbase : optional d.entries.raw ["basePath", "base_path"] none (nullable text) =
      .ok d.basePath :=
    optional_text? (by simp [entries])
  have hschemes : optional d.entries.raw ["schemes"] [] texts = .ok d.schemes :=
    optional_of_pick (v := .list (d.schemes.map .str)) (by simp [entries]) (texts_str d.schemes)
  have hconsumes : optional d.entries.raw ["consumes"] [] texts = .ok d.consumes :=
    optional_of_pick (v := .list (d.consumes.map .str)) (by simp [entries]) (texts_str d.consumes)
  have hproduces : optional d.entries.raw ["produces"] [] texts = .ok d.produces :=
    optional_of_pick (v := .list (d.produces.map .str)) (by simp [entries]) (texts_str d.produces)
  have hpaths : optional d.entries.raw ["paths"] [] (dict decodePathItem) =
      .ok (d.paths.map fun p => (p.1, p.2.stored)) :=
    optional_of_pick (v := Value.object (d.paths.map fun p => (p.1, p.2.encode)))
      (by simp [entries])
      (dict_of_forall h.paths fun p hp => decodePathItem_encode (h.items p hp))
  have hdefinitions : optional d.entries.raw ["definitions"] [] (dict decodeSchema) =
      .ok (d.definitions.map fun s => (s.1, s.2.stored)) :=
    optional_of_pick (v := Value.object (d.definitions.map fun s => (s.1, s.2.encode)))
      (by simp [entries])
      (dict_of_forall h.definitions fun s hs => decodeSchema_encode (h.schemas s hs))
  have he : d.encode = Value.object d.entries := rfl
  rw [he, decodeDocument, object_raw]
  simp only [hswagger, hinfo, hhost, hbase, hschemes, hconsumes, hproduces, hpaths, hdefinitions,
    map_ok, seq_ok]
  rfl

/-- A document that has been written is read back in its stored form. -/
theorem ofData_encode {d : Document} (h : d.Readable) : ofData d.encode = .ok d.stored := by
  rw [ofData, withTitles_encode, decodeDocument_encode h]

/-- What a document is written as is accepted and read as its stored form, which is written in the
same way again exactly if the document loses no default; and every property, body schema and
parameter is read as the variant that it was. -/
theorem ofData_encode_of_readable {d : Document} (h : d.Readable) :
    ofData d.encode = .ok d.stored ∧ (d.stored.encode = d.encode ↔ ¬ d.LosesDefault) ∧
      (∀ p : Property, ∃ q, decodeProperty p.encode = .ok q ∧ q.form = p.form) ∧
      (∀ b : BodySchema, ∃ c, decodeBodySchema b.encode = .ok c ∧ c.form = b.form) ∧
      ∀ p : Parameter, p.Readable →
        ∃ q, decodeParameter p.encode = .ok q ∧ q.locationWord = p.locationWord :=
  ⟨ofData_encode h, encode_stored_iff,
    fun p => ⟨p.stored, decodeProperty_encode p, p.form_stored⟩,
    fun b => ⟨b.stored, decodeBodySchema_encode b, b.form_stored⟩,
    fun p hp => ⟨p.stored, decodeParameter_encode hp, p.locationWord_stored⟩⟩

/-- What answers with goods: a query whose values are not plain, and a body of a model with its
identity. -/
def goodsOperation : Operation where
  tags := []
  summary := some "Goods"
  description := none
  consumes := []
  produces := ["application/json"]
  operationId := none
  parameters :=
    [.simple .query ⟨some "colours", .null, false, "array", none,
      .tuple [.str "red", .date ⟨2024, 1, 1⟩], some ⟨"string", none, none, some [.null]⟩,
      some "multi"⟩,
    .body ⟨some "body", none, true, some (.model "Good" (some "shop.Good"))⟩]
  responses := [("200", ⟨"OK", some (.map (.array (.ref "Good" none) none none) none)⟩)]

/-- Goods by shelf. -/
def shop : Document :=
  { ofInfo ⟨"Shop", "1", none⟩ with
    paths := [("/goods/\x7bshelf\x7d",
      { PathItem.empty with
        get := some goodsOperation
        parameters :=
          [.simple .path ⟨some "shelf", .null, true, "string", none, .null, none, none⟩] })]
    definitions := [("Good", ⟨some "shop.Good", "Good", "object", none,
      [("parts", .array (.ref "Good" (some "A part.")) (some true) none),
        ("sizes", .map (.primitive ⟨"integer", some "int64", none, none⟩) none)],
      some ["parts"]⟩)] }

theorem readable_shop : shop.Readable where
  paths := by decide
  items := by
    intro e he
    rw [List.mem_singleton.mp he]
    refine ⟨fun v op hop => ?_, by simp [Parameter.Readable, Value.isTextOrNull]⟩
    cases v <;> cases hop
    exact ⟨by simp [goodsOperation, Parameter.Readable, Value.isTextOrNull], by decide⟩
  definitions := by decide
  schemas := by
    intro e he
    rw [List.mem_singleton.mp he]
    show ["parts", "sizes"].Nodup
    decide

/-- Of the shop's parameters one has a default, and that is no number. -/
theorem not_losesDefault_shop : ¬ shop.LosesDefault := by
  rintro ⟨e, he, hlost⟩
  rw [List.mem_singleton.mp he] at hlost
  rcases hlost with ⟨v, op, hop, hlost⟩ | hlost
  · cases v <;> cases hop
    simp [Operation.LosesDefault, goodsOperation, Parameter.LosesDefault, Value.IsUnheld] at hlost
  · simp [Parameter.LosesDefault, Value.IsUnheld] at hlost

theorem ofData_encode_of_readable_shop :
    shop.Readable ∧ ofData shop.encode = .ok shop.stored ∧ shop.stored.encode = shop.encode := by
  obtain ⟨hread, hwrite, -⟩ := ofData_encode_of_readable readable_shop
  exact ⟨readable_shop, hread, hwrite.mpr not_losesDefault_shop⟩

/-- Loads up to a weight, which has no bound unless one is given. -/
def loadsOperation : Operation where
  tags := []
  summary := none
  description := none
  consumes := []
  produces := []
  operationId := none
  parameters :=
    [.simple .query
      ⟨some "upTo", .null, false, "number", some "double", .unbounded, none, none⟩]
  responses := [("200", ⟨"OK", none⟩)]

def scales : Document :=
  { ofInfo ⟨"Scales", "1", none⟩ with
    paths := [("/loads", PathItem.empty.setSlot .get loadsOperation)] }

theorem readable_scales : scales.Readable where
  paths := by decide
  items := by
    intro e he
    rw [List.mem_singleton.mp he]
    refine ⟨fun v op hop => ?_, fun p hp => by cases hp⟩
    cases v <;> cases hop
    exact ⟨by simp [loadsOperation, Parameter.Readable, Value.isTextOrNull], by decide⟩
  definitions := by decide
  schemas := fun e he => by cases he

theorem losesDefault_loadsOperation : loadsOperation.LosesDefault :=
  ⟨_, List.mem_singleton_self _, Value.isUnheld_unbounded⟩

/-- A document that is read back from what it is written as, and written otherwise then. -/
theorem encode_ne_of_scales :
    scales.Readable ∧ ∃ d, ofData scales.encode = .ok d ∧ d.encode ≠ scales.encode := by
  have hlost : scales.LosesDefault :=
    ⟨_, List.mem_singleton_self _, Or.inl ⟨.get, _, rfl, losesDefault_loadsOperation⟩⟩
  exact ⟨readable_scales, scales.stored, ofData_encode readable_scales,
    fun h => encode_stored_iff.mp h hlost⟩

end Document

end RouteAtlas
