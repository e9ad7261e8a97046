import RouteAtlas.Document.Encode
import RouteAtlas.Proofs.PlainValues

/-!
What is left of a document in a file: models lose their identities, and the values of enumerations
and defaults become plain. Nothing more is lost a second time.
-/

namespace RouteAtlas

def Primitive.stored (p : Primitive) : Primitive := { p with enum := p.enum.map Value.plains }

def Property.stored : Property → Property
  | .primitive p => .primitive p.stored
  | .ref n d => .ref n d
  | .array items u d => .array items.stored u d
  | .map values d => .map values.stored d

def Schema.stored (s : Schema) : Schema :=
  { s with
    id := none
    properties := s.properties.map fun p => (p.1, p.2.stored) }

def BodySchema.stored : BodySchema → BodySchema
  | .model n _ => .model n none
  | .array items u d => .array items.stored u d
  | .map values d => .map values.stored d
  | .primitive p => .primitive p.stored

def SimpleParameter.stored (p : SimpleParameter) : SimpleParameter :=
  { p with
    default := p.default.plain
    items := p.items.map Primitive.stored }

def BodyParameter.stored (b : BodyParameter) : BodyParameter :=
  { b with schema := b.schema.map BodySchema.stored }

def Parameter.stored : Parameter → Parameter
  | .simple l p => .simple l p.stored
  | .body b => .body b.stored

def Response.stored (r : Response) : Response := { r with schema := r.schema.map Property.stored }

def Operation.stored (op : Operation) : Operation :=
  { op with
    parameters := op.parameters.map Parameter.stored
    responses := op.responses.map fun r => (r.1, r.2.stored) }

def PathItem.stored (item : PathItem) : PathItem where
  get := item.get.map Operation.stored
  put := item.put.map Operation.stored
  post := item.post.map Operation.stored
  delete := item.delete.map Operation.stored
  patch := item.patch.map Operation.stored
  options := item.options.map Operation.stored
  parameters := item.parameters.map Parameter.stored

/-- The document as a file gives it back. -/
def Document.stored (d : Document) : Document :=
  { d with
    paths := d.paths.map fun p => (p.1, p.2.stored)
    definitions := d.definitions.map fun s => (s.1, s.2.stored) }

/-- The variants that a property is made of, at every depth. -/
inductive Form where
  | primitive
  | reference
  | array (items : Form)
  | map (values : Form)

def Property.form : Property → Form
  | .primitive _ => .primitive
  | .ref _ _ => .reference
  | .array items _ _ => .array items.form
  | .map values _ => .map values.form

def BodySchema.form : BodySchema → Form
  | .model _ _ => .reference
  | .array items _ _ => .array items.form
  | .map values _ => .map values.form
  | .primitive _ => .primitive

theorem Property.form_stored (p : Property) : p.stored.form = p.form := by
  induction p with
  | primitive => rfl
  | ref => rfl
  | array items _ _ ih => rw [stored, form, ih, form]
  | map values _ ih => rw [stored, form, ih, form]

theorem BodySchema.form_stored (b : BodySchema) : b.stored.form = b.form := by
  cases b <;> simp [stored, form, Property.form_stored]

theorem Parameter.locationWord_stored (p : Parameter) :
    p.stored.locationWord = p.locationWord := by
  cases p <;> rfl

theorem Primitive.stored_stored (p : Primitive) : p.stored.stored = p.stored := by
  simp only [stored, Option.map_map]
  congr 2
  funext vs
  exact Value.plains_plains vs

theorem Property.stored_stored (p : Property) : p.stored.stored = p.stored := by
  induction p with
  | primitive p => rw [stored, stored, Primitive.stored_stored]
  | ref => rfl
  | array items _ _ ih => rw [stored, stored, ih]
  | map values _ ih => rw [stored, stored, ih]

theorem Schema.stored_stored (s : Schema) : s.stored.stored = s.stored := by
  simp [stored, Property.stored_stored]

theorem BodySchema.stored_stored (b : BodySchema) : b.stored.stored = b.stored := by
  cases b <;> simp [stored, Property.stored_stored, Primitive.stored_stored]

theorem Parameter.stored_stored (p : Parameter) : p.stored.stored = p.stored := by
  cases p with
  | simple l p =>
    simp [stored, SimpleParameter.stored, Value.plain_plain, Function.comp_def,
      Primitive.stored_stored]
  | body b =>
    simp [stored, BodyParameter.stored, Function.comp_def, BodySchema.stored_stored]

theorem Response.stored_stored (r : Response) : r.stored.stored = r.stored := by
  simp [stored, Function.comp_def, Property.stored_stored]

theorem Operation.stored_stored (op : Operation) : op.stored.stored = op.stored := by
  simp [stored, Function.comp_def, Parameter.stored_stored, Response.stored_stored]

theorem PathItem.stored_stored (item : PathItem) : item.stored.stored = item.stored := by
  simp [stored, Function.comp_def, Operation.stored_stored, Parameter.stored_stored]

theorem Primitive.encode_stored (p : Primitive) : p.stored.encode = p.encode := by
  simp [encode, stored, Function.comp_def, Value.plains_plains]

theorem Property.encode_stored (p : Property) : p.stored.encode = p.encode := by
  induction p with
  | primitive p => exact p.encode_stored
  | ref => rfl
  | array items _ _ ih => rw [stored, encode, ih, encode]
  | map values _ ih => rw [stored, encode, ih, encode]

theorem Schema.encode_stored (s : Schema) : s.stored.encode = s.encode := by
  simp [encode, stored, Function.comp_def, Property.encode_stored]

theorem BodySchema.encode_stored (b : BodySchema) : b.stored.encode = b.encode := by
  cases b with
  | model => rfl
  | array items u d => exact (Property.array items u d).encode_stored
  | map values d => exact (Property.map values d).encode_stored
  | primitive p => exact p.encode_stored

theorem Response.encode_stored (r : Response) : r.stored.encode = r.encode := by
  simp [encode, stored, Function.comp_def, Property.encode_stored]

end RouteAtlas
