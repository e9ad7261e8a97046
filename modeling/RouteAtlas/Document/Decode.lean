import RouteAtlas.Document.Checked
import RouteAtlas.Document.Encode

/-! A document from plain data. Where a place admits several forms, the one that fits is chosen. -/

namespace RouteAtlas

open Checked Check

/-- The name behind the start that a reference may have. -/
def referenceName (s : String) : String := (Text.dropStart? referenceStart s).getD s

/-- A reference; bytes stand for the bare name. -/
def reference (v : Value) : Checked String :=
  match v with
  | .str s => .ok (referenceName s)
  | v => text v

def descriptionField (es : List (Value × Value)) : Checked (Option String) :=
  optional es ["description"] none (nullable text)

/-- The issues of an alternative lie under its name. -/
def alternative {α : Type} (name : String) (c : Checked α) : Checked α := at_ name c

/-- The first alternative that fits, or the issues of all. -/
def firstOf {α : Type} (cs : List (Checked α)) : Checked α :=
  match cs.find? isOk with
  | some c => c
  | none => .bad (cs.flatMap issues)

def decodePrimitiveFrom (es : List (Value × Value)) : Checked Primitive :=
  (fun type format description enum _ => ⟨type, format, description, enum⟩) <$>
    required es ["type"] text <*>
    optional es ["format"] none (nullable text) <*>
    descriptionField es <*>
    optional es ["enum"] none (nullable (list any)) <*>
    noOthers es [some "type", some "format", some "description", some "enum"]

def decodePrimitive (v : Value) : Checked Primitive := object decodePrimitiveFrom v

def decodeRefFrom (es : List (Value × Value)) : Checked Property :=
  (fun name description _ => .ref name description) <$>
    required es ["$ref", "ref"] reference <*>
    descriptionField es <*>
    noOthers es [pickKey es ["$ref", "ref"], some "description"]

/-- A mapping with the property that each of its values is. -/
abbrev Children := List (Value × Checked Property)

/-- The property under the first of these keys. -/
def childProperty (cs : Children) : List String → Option (Checked Property)
  | [] => none
  | k :: ks =>
    ((cs.find? fun c => match c.1 with
      | .str s => s = k
      | _ => false).map (·.2)).or (childProperty cs ks)

def requiredChild (cs : Children) (keys : List String) : Checked Property :=
  at_ (keys.headD "") ((childProperty cs keys).getD (fail "missing"))

def decodeArrayFrom (es : List (Value × Value)) (cs : Children) : Checked Property :=
  (fun _ items unique description _ => .array items unique description) <$>
    optional es ["type"] () (word "array") <*>
    requiredChild cs ["items"] <*>
    optional es ["uniqueItems", "unique_items"] none (nullable bool) <*>
    descriptionField es <*>
    noOthers es [some "type", some "items", pickKey es ["uniqueItems", "unique_items"],
      some "description"]

def decodeMapFrom (es : List (Value × Value)) (cs : Children) : Checked Property :=
  (fun _ values description _ => .map values description) <$>
    optional es ["type"] () (word "object") <*>
    requiredChild cs ["additionalProperties", "additional_properties"] <*>
    descriptionField es <*>
    noOthers es [some "type", pickKey es ["additionalProperties", "additional_properties"],
      some "description"]

/-- The forms of a property other than a reference. -/
def inlineForms (es : List (Value × Value)) (cs : Children) : List (Checked Property) :=
  [alternative "ArrayProperty" (decodeArrayFrom es cs),
    alternative "MapProperty" (decodeMapFrom es cs),
    alternative "PrimitiveProperty" (Property.primitive <$> decodePrimitiveFrom es)]

def noForm {α : Type} (names : List String) : Checked α :=
  .bad (names.map fun n => ⟨[.str n], "model_type"⟩)

def propertyForms : List String :=
  ["RefProperty", "ArrayProperty", "MapProperty", "PrimitiveProperty"]

def bodyForms : List String := ["RefModel", "ArrayProperty", "MapProperty", "PrimitiveProperty"]

mutual

def decodeProperty : Value → Checked Property
  | .map es =>
    let cs := decodeChildren es
    firstOf (alternative "RefProperty" (decodeRefFrom es) :: inlineForms es cs)
  | _ => noForm propertyForms

def decodeChildren : List (Value × Value) → Children
  | [] => []
  | (k, v) :: r => (k, decodeProperty v) :: decodeChildren r

end

/-- What is no mapping has no keys to choose by; a text or a row that holds one of them as a part is
asked for what is under it. -/
def withoutKeys (v : Value) : Except Fault Property :=
  let holds (key : String) : Bool := match v with
    | .str s => Text.contains key s
    | .list vs => vs.any (Value.same (.str key))
    | _ => false
  match v with
  | .str _ | .list _ =>
    if !holds "$ref" && (holds "items" || holds "additionalProperties") then
      .error (.type (.badPosition v.kindName "str"))
    else .error (.invalid [⟨[], "model_type"⟩])
  | v => .error (.noKeys v.kindName)

mutual

/-- The property of one form only, chosen by the keys that are there, and so are its parts. -/
def propertyByKeys : Value → Except Fault Property
  | .map es =>
    let parts := partsByKeys es
    let part (key : String) := parts.find? fun c => match c.1 with
      | .str s => s = key
      | _ => false
    if (Value.lookup "$ref" es).isSome then (decodeRefFrom es).toExcept
    else match part "items", part "additionalProperties" with
      | some (k, p), _ => do (decodeArrayFrom es [(k, .ok (← p))]).toExcept
      | none, some (k, p) => do (decodeMapFrom es [(k, .ok (← p))]).toExcept
      | none, none => (Property.primitive <$> decodePrimitiveFrom es).toExcept
  | v => withoutKeys v

def partsByKeys : List (Value × Value) → List (Value × Except Fault Property)
  | [] => []
  | (k, v) :: r => (k, propertyByKeys v) :: partsByKeys r

end

def decodeSchemaFrom (es : List (Value × Value)) : Checked Schema :=
  Schema.mk <$>
    optional es ["id"] none (nullable text) <*>
    required es ["title", "name"] text <*>
    optional es ["type"] "object" text <*>
    descriptionField es <*>
    optional es ["properties"] [] (dict decodeProperty) <*>
    optional es ["required"] none (nullable texts)

def decodeSchema (v : Value) : Checked Schema := object decodeSchemaFrom v

def decodeRefModelFrom (es : List (Value × Value)) : Checked BodySchema :=
  BodySchema.model <$> required es ["$ref", "ref"] reference <*>
    optional es ["id"] none (nullable text)

/-- A property as the schema of a body; a reference is none. -/
def BodySchema.ofProperty? : Property → Option BodySchema
  | .primitive p => some (.primitive p)
  | .array items u d => some (.array items u d)
  | .map values d => some (.map values d)
  | .ref _ _ => none

def asBody (c : Checked Property) : Checked BodySchema :=
  match c with
  | .bad is => .bad is
  | .ok p =>
    match BodySchema.ofProperty? p with
    | some b => .ok b
    | none => fail "model_type"

def decodeBodySchema : Value → Checked BodySchema
  | .map es =>
    firstOf (alternative "RefModel" (decodeRefModelFrom es) ::
      (inlineForms es (decodeChildren es)).map asBody)
  | _ => noForm bodyForms

def decodeSimpleFrom (l : Location) (es : List (Value × Value)) : Checked Parameter :=
  (fun name description required type format default items collectionFormat _ =>
      .simple l ⟨name, .ofText? description, required, type, format, default, items,
        collectionFormat⟩) <$>
    optional es ["name"] none (nullable text) <*>
    descriptionField es <*>
    optional es ["required"] (l = .path) bool <*>
    optional es ["type"] "string" text <*>
    optional es ["format"] none (nullable text) <*>
    optional es ["default"] .null any <*>
    optional es ["items"] none (nullable decodePrimitive) <*>
    optional es ["collectionFormat", "collection_format"] none (nullable text) <*>
    optional es ["in", "location"] () (word l.word)

def decodeBodyFrom (es : List (Value × Value)) : Checked Parameter :=
  (fun _ name description required schema => .body ⟨name, description, required, schema⟩) <$>
    optional es ["in", "location"] () (word "body") <*>
    optional es ["name"] (some "body") (nullable text) <*>
    descriptionField es <*>
    optional es ["required"] true bool <*>
    optional es ["schema", "schema_"] none (nullable decodeBodySchema)

/-- How many of the fields, each under some of its keys, are given. -/
def givenCount (es : List (Value × Value)) (fields : List (List String)) : Nat :=
  (fields.filter fun keys => (pick es keys).isSome).length

mutual

/-- How many fields the data of a property gives, inner properties included. -/
def propertyCount : Value → Nat
  | .map es => es.length + childCount es
  | _ => 0

def childCount : List (Value × Value) → Nat
  | [] => 0
  | (k, v) :: r =>
    (match k with
      | .str s =>
        if ["items", "additionalProperties", "additional_properties"].contains s then
          propertyCount v
        else 0
      | _ => 0) + childCount r

end

def simpleCount (es : List (Value × Value)) : Nat :=
  givenCount es [["name"], ["description"], ["required"], ["type"], ["format"], ["default"],
    ["items"], ["collectionFormat", "collection_format"], ["in", "location"]] +
    match pick es ["items"] with
    | some (.map is) => is.length
    | _ => 0

def bodySchemaCount : Value → Nat
  | .map es =>
    if (decodeRefModelFrom es).isOk then givenCount es [["$ref", "ref"], ["id"]]
    else propertyCount (.map es)
  | _ => 0

def bodyCount (es : List (Value × Value)) : Nat :=
  givenCount es [["in", "location"], ["name"], ["description"], ["required"], ["schema", "schema_"]]
  +
    match pick es ["schema", "schema_"] with
    | some v => bodySchemaCount v
    | none => 0

/-- Is the value of a field of this name converted because it is not of the field's kind? -/
def isConverted (key : String) : Value → Bool
  | .bytes _ => true
  | .str _ | .int _ | .float _ => ["required", "uniqueItems", "unique_items"].contains key
  | .set _ | .tuple _ => key = "enum"
  | _ => false

/-- Is one of these fields converted? -/
def convertsField (es : List (Value × Value)) (fields : List (List String)) : Bool :=
  fields.any fun keys => ((pick es keys).map (isConverted (keys.headD ""))).getD false

mutual

/-- Is a field of the data of a property converted? -/
def propertyConverts : Value → Bool
  | .map es => entryConverts es
  | _ => false

def entryConverts : List (Value × Value) → Bool
  | [] => false
  | (k, v) :: r =>
    (match k with
      | .str s =>
        if ["items", "additionalProperties", "additional_properties"].contains s then
          propertyConverts v
        else isConverted s v
      | _ => false) || entryConverts r

end

def simpleConverts (es : List (Value × Value)) : Bool :=
  convertsField es [["name"], ["description"], ["required"], ["type"], ["format"],
    ["collectionFormat", "collection_format"]] ||
    ((pick es ["items"]).map propertyConverts).getD false

def bodyConverts (es : List (Value × Value)) : Bool :=
  convertsField es [["name"], ["description"], ["required"]] ||
    match pick es ["schema", "schema_"] with
    | some (.map s) =>
      if (decodeRefModelFrom s).isOk then convertsField s [["$ref", "ref"], ["id"]]
      else propertyConverts (.map s)
    | _ => false

/-- A way to read data: how many fields it takes, whether it converts one, and its result. -/
structure Candidate (α : Type) where
  fields : Nat
  converts : Bool
  result : Checked α

/-- Does the candidate take more fields, or as many without converting any? -/
def Candidate.isBetter {α : Type} (c d : Candidate α) : Bool :=
  d.fields < c.fields || (d.fields = c.fields && d.converts && !c.converts)

/-- The result of the best candidate, of equals the earliest; or the issues of all. -/
def bestOf {α : Type} (cs : List (Candidate α)) : Checked α :=
  let good := cs.filter fun c => c.result.isOk
  match good.find? fun c => good.all fun d => !d.isBetter c with
  | some c => c.result
  | none => .bad (cs.flatMap fun c => c.result.issues)

def decodeParameter : Value → Checked Parameter
  | .map es =>
    let simple (name : String) (l : Location) : Candidate Parameter :=
      ⟨simpleCount es, simpleConverts es, alternative name (decodeSimpleFrom l es)⟩
    bestOf [simple "PathParameter" .path, simple "QueryParameter" .query,
      simple "HeaderParameter" .header,
      ⟨bodyCount es, bodyConverts es, alternative "BodyParameter" (decodeBodyFrom es)⟩]
  | _ => noForm ["PathParameter", "QueryParameter", "HeaderParameter", "BodyParameter"]

def decodeResponse : Value → Checked Response :=
  object fun es =>
    Response.mk <$> required es ["description"] text <*>
      optional es ["schema", "schema_"] none (nullable decodeProperty)

def decodeOperation : Value → Checked Operation :=
  object fun es =>
    Operation.mk <$>
      optional es ["tags"] [] texts <*>
      optional es ["summary"] none (nullable text) <*>
      descriptionField es <*>
      optional es ["consumes"] [] texts <*>
      optional es ["produces"] [] texts <*>
      optional es ["operationId", "operation_id"] none (nullable text) <*>
      optional es ["parameters"] [] (list decodeParameter) <*>
      optional es ["responses"] [] (dict decodeResponse)

def decodePathItem : Value → Checked PathItem :=
  object fun es =>
    let verb (v : Verb) := optional es [v.key] none (nullable decodeOperation)
    PathItem.mk <$> verb .get <*> verb .put <*> verb .post <*> verb .delete <*> verb .patch <*>
      verb .options <*> optional es ["parameters"] [] (list decodeParameter)

def decodeInfo : Value → Checked Info :=
  object fun es =>
    Info.mk <$> required es ["title"] text <*> required es ["version"] text <*> descriptionField es

def decodeDocument : Value → Checked Document :=
  object fun es =>
    Document.mk <$>
      optional es ["swagger"] "2.0" text <*>
      required es ["info"] decodeInfo <*>
      optional es ["host"] none (nullable text) <*>
      optional es ["basePath", "base_path"] none (nullable text) <*>
      optional es ["schemes"] [] texts <*>
      optional es ["consumes"] [] texts <*>
      optional es ["produces"] [] texts <*>
      optional es ["paths"] [] (dict decodePathItem) <*>
      optional es ["definitions"] [] (dict decodeSchema)

/-- Gives a schema its key as title, unless it has one. -/
def withTitle (key : Value) (schema : Value) : Value :=
  match schema with
  | .map es => .map (if (Value.lookup "title" es).isSome then es else (.str "title", key) :: es)
  | v => v

/-- Gives every definition a title. -/
def withTitles (v : Value) : Value :=
  match v with
  | .map es => .map (es.map fun e =>
      match e with
      | (.str "definitions", .map ds) =>
        (.str "definitions", .map (ds.map fun d => (d.1, withTitle d.1 d.2)))
      | e => e)
  | v => v

/-- A document from the data of a file. -/
def Document.ofData (v : Value) : Checked Document := decodeDocument (withTitles v)

end RouteAtlas
