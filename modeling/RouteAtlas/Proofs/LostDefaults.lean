import RouteAtlas.Proofs.EncodedFields
import RouteAtlas.Proofs.StoredForm

/-!
The stored form is written as the document is, but for defaults that no file holds. A default that
is infinite or no number at all is written as null; null is read as no default, and so the next
time nothing is written.
-/

namespace RouteAtlas

open Entries

theorem Value.object_inj {es fs : Entries} : Value.object es = Value.object fs ↔ es = fs := by
  have hentry : Function.Injective fun e : String × Value => (Value.str e.1, e.2) := by
    intro e f h
    obtain ⟨hk, hv⟩ := Prod.mk.inj h
    exact Prod.ext (Value.str.inj hk) hv
  rw [object, object, Value.map.injEq, List.map_inj_right hentry]

/-- An entry that was written as null is left out where it is written again. -/
theorem Entries.any?_plain_iff (key : String) {v : Value} :
    any? key v.plain = any? key v ↔ ¬ v.IsUnheld := by
  by_cases hnull : v = .null
  · subst hnull
    simp [Value.plain, Value.IsUnheld]
  · rw [any?_of_ne key hnull]
    by_cases hu : v.IsUnheld
    · rw [Value.plain_eq_null_iff.mpr (Or.inr hu)]
      simp [hu]
    · have hplain : v.plain ≠ .null := fun hp =>
        (Value.plain_eq_null_iff.mp hp).elim hnull hu
      rw [any?_of_ne key hplain, Value.plain_plain]
      simp [hu]

/-- The number beyond all others, which is `1e999` in a file that is written by hand. -/
def Value.unbounded : Value := .float (.ofBits 0x7ff0000000000000)

theorem Value.isUnheld_unbounded : unbounded.IsUnheld := isUnheld_float.mpr (by decide +kernel)

/-- The parameter has a default that no file holds. -/
def Parameter.LosesDefault : Parameter → Prop
  | .simple _ p => p.default.IsUnheld
  | .body _ => False

def Operation.LosesDefault (op : Operation) : Prop := ∃ p ∈ op.parameters, p.LosesDefault

def PathItem.LosesDefault (item : PathItem) : Prop :=
  (∃ v op, item.slot v = some op ∧ op.LosesDefault) ∨ ∃ p ∈ item.parameters, p.LosesDefault

def Document.LosesDefault (d : Document) : Prop := ∃ e ∈ d.paths, e.2.LosesDefault

theorem Parameter.encode_stored_iff {p : Parameter} :
    p.stored.encode = p.encode ↔ ¬ p.LosesDefault := by
  cases p with
  | simple l p =>
    rw [LosesDefault, ← any?_plain_iff "default"]
    simp only [stored, encode, SimpleParameter.encode, SimpleParameter.stored, Value.object_inj,
      List.append_assoc, List.append_cancel_left_eq, List.append_cancel_right_eq, Option.map_map,
      Function.comp_def, Primitive.encode_stored]
  | body b =>
    simp [LosesDefault, stored, encode, BodyParameter.encode, BodyParameter.stored,
      Function.comp_def, BodySchema.encode_stored]

theorem map_encode_stored_iff {ps : List Parameter} :
    (ps.map Parameter.stored).map Parameter.encode = ps.map Parameter.encode ↔
      ¬ ∃ p ∈ ps, p.LosesDefault := by
  simp [List.map_inj_left, Parameter.encode_stored_iff]

theorem Operation.encode_stored_iff {op : Operation} :
    op.stored.encode = op.encode ↔ ¬ op.LosesDefault := by
  rw [LosesDefault, ← map_encode_stored_iff]
  simp only [encode, stored, Value.object_inj, List.append_cancel_left_eq, List.cons.injEq,
    Prod.mk.injEq, Value.list.injEq, List.map_map, Function.comp_def, Response.encode_stored,
    true_and, and_true]

namespace PathItem

/-- The entries that the item of a path is written as. -/
def entries (item : PathItem) : Entries :=
  (Verb.all.flatMap fun v => value? v.key ((item.slot v).map Operation.encode)) ++
    [("parameters", .list (item.parameters.map Parameter.encode))]

theorem encode_eq (item : PathItem) : item.encode = Value.object item.entries := by
  have hops : ∀ vs : List Verb,
      (vs.filterMap fun v => (item.slot v).map fun op => (v, op)).map
        (fun o => (o.1.key, o.2.encode)) =
      vs.flatMap fun v => value? v.key ((item.slot v).map Operation.encode) := by
    intro vs
    induction vs with
    | nil => rfl
    | cons v vs ih =>
      rw [List.flatMap_cons, ← ih]
      cases h : item.slot v <;> simp [value?, h]
  rw [encode, operations, hops]
  rfl

theorem get?_entries (item : PathItem) (v : Verb) :
    get? item.entries v.key = (item.slot v).map Operation.encode := by
  cases v <;> simp [entries, Verb.all, Verb.key]

theorem slot_stored (item : PathItem) (v : Verb) :
    item.stored.slot v = (item.slot v).map Operation.stored := by cases v <;> rfl

/-- Items are written alike exactly if their operations and their parameters are. -/
theorem encode_eq_encode_iff {item other : PathItem} :
    item.encode = other.encode ↔
      (∀ v, (item.slot v).map Operation.encode = (other.slot v).map Operation.encode) ∧
        item.parameters.map Parameter.encode = other.parameters.map Parameter.encode := by
  rw [encode_eq, encode_eq, Value.object_inj]
  constructor
  · intro h
    refine ⟨fun v => by rw [← get?_entries, ← get?_entries, h], ?_⟩
    have hlast := congrArg List.getLast? h
    simpa [entries] using hlast
  · rintro ⟨hslots, hparameters⟩
    simp only [entries, hslots, hparameters]

theorem encode_stored_iff {item : PathItem} :
    item.stored.encode = item.encode ↔ ¬ item.LosesDefault := by
  have hslot (v : Verb) :
      (item.stored.slot v).map Operation.encode = (item.slot v).map Operation.encode ↔
        ¬ ∃ op, item.slot v = some op ∧ op.LosesDefault := by
    rw [slot_stored]
    cases item.slot v <;> simp [Operation.encode_stored_iff]
  rw [encode_eq_encode_iff, LosesDefault, not_or, not_exists]
  exact and_congr (forall_congr' hslot) map_encode_stored_iff

end PathItem

/-- The stored form is written as the document is exactly if the document loses no default. -/
theorem Document.encode_stored_iff {d : Document} :
    d.stored.encode = d.encode ↔ ¬ d.LosesDefault := by
  simp only [encode, stored, Value.object_inj, List.append_cancel_left_eq, List.cons.injEq,
    Prod.mk.injEq, List.map_map, Function.comp_def, Schema.encode_stored, List.map_inj_left,
    true_and, and_true, PathItem.encode_stored_iff, LosesDefault, not_exists, not_and]

end RouteAtlas
