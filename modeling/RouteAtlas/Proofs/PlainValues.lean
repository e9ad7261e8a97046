import RouteAtlas.Json.Writer

/-! Plain data is plain already: writing a value down and reading it back changes it only once. -/

namespace RouteAtlas.Value

theorem plain_bytesText (bs : List UInt8) : plain (bytesText bs) = bytesText bs := by
  unfold bytesText
  split
  next => rfl
  next e he =>
    unfold plain bytesText
    rw [he]

theorem plainKey_plainKey (v : Value) : plainKey (plainKey v) = plainKey v := by
  cases v with
  | bytes bs =>
    show plainKey (bytesText bs) = bytesText bs
    unfold bytesText
    split
    next => rfl
    next e he =>
      show bytesText bs = .bytes bs
      rw [bytesText, he]
  | _ => rfl

/-- Entries one after the other, where a repeated key keeps its place and takes the last value. -/
def entered (es : List (Value × Value)) : List (Value × Value) :=
  es.foldl (fun acc e => putEntry e.1 e.2 acc) []

/-- No key is the same as an earlier one. -/
def KeysDiffer (es : List (Value × Value)) : Prop :=
  es.Pairwise fun e f => same e.1 f.1 = false

theorem mem_putEntry {k v : Value} {es : List (Value × Value)} {e : Value × Value}
    (h : e ∈ putEntry k v es) :
    (e.1 = k ∨ ∃ f ∈ es, f.1 = e.1) ∧ (e.2 = v ∨ ∃ f ∈ es, f.2 = e.2) := by
  induction es with
  | nil =>
    rw [List.mem_singleton.mp h]
    exact ⟨Or.inl rfl, Or.inl rfl⟩
  | cons f es ih =>
    obtain ⟨k', v'⟩ := f
    unfold putEntry at h
    split at h
    next =>
      rcases List.mem_cons.mp h with rfl | h
      · exact ⟨Or.inr ⟨_, List.mem_cons_self, rfl⟩, Or.inl rfl⟩
      · have he := List.mem_cons_of_mem (k', v') h
        exact ⟨Or.inr ⟨e, he, rfl⟩, Or.inr ⟨e, he, rfl⟩⟩
    next =>
      rcases List.mem_cons.mp h with rfl | h
      · exact ⟨Or.inr ⟨_, List.mem_cons_self, rfl⟩, Or.inr ⟨_, List.mem_cons_self, rfl⟩⟩
      · obtain ⟨hk, hv⟩ := ih h
        exact ⟨hk.imp_right fun ⟨g, hg, he⟩ => ⟨g, List.mem_cons_of_mem _ hg, he⟩,
          hv.imp_right fun ⟨g, hg, he⟩ => ⟨g, List.mem_cons_of_mem _ hg, he⟩⟩

/-- What holds of all keys and of all values still holds when they are entered. -/
theorem forall_foldl_putEntry {P Q : Value → Prop} {es acc : List (Value × Value)}
    (hes : ∀ e ∈ es, P e.1 ∧ Q e.2) (hacc : ∀ e ∈ acc, P e.1 ∧ Q e.2) :
    ∀ e ∈ es.foldl (fun acc e => putEntry e.1 e.2 acc) acc, P e.1 ∧ Q e.2 := by
  induction es generalizing acc with
  | nil => exact hacc
  | cons f es ih =>
    rw [List.foldl_cons]
    refine ih (fun e he => hes e (List.mem_cons_of_mem _ he)) fun e he => ?_
    obtain ⟨hP, hQ⟩ := hes f List.mem_cons_self
    obtain ⟨hk, hv⟩ := mem_putEntry he
    constructor
    · rcases hk with hk | ⟨g, hg, hk⟩
      · exact hk ▸ hP
      · exact hk ▸ (hacc g hg).1
    · rcases hv with hv | ⟨g, hg, hv⟩
      · exact hv ▸ hQ
      · exact hv ▸ (hacc g hg).2

theorem keysDiffer_putEntry {k v : Value} {es : List (Value × Value)} (h : KeysDiffer es) :
    KeysDiffer (putEntry k v es) := by
  induction es with
  | nil => exact List.pairwise_singleton _ _
  | cons f es ih =>
    obtain ⟨k', v'⟩ := f
    obtain ⟨hf, hes⟩ := List.pairwise_cons.mp h
    unfold putEntry
    split
    next => exact List.pairwise_cons.mpr ⟨hf, hes⟩
    next hne =>
      refine List.pairwise_cons.mpr ⟨fun e he => ?_, ih hes⟩
      rcases (mem_putEntry he).1 with hk | ⟨g, hg, hk⟩
      · rw [hk]
        simpa using hne
      · rw [← hk]
        exact hf g hg

theorem keysDiffer_foldl {es acc : List (Value × Value)} (h : KeysDiffer acc) :
    KeysDiffer (es.foldl (fun acc e => putEntry e.1 e.2 acc) acc) := by
  induction es generalizing acc with
  | nil => exact h
  | cons e es ih => exact ih (keysDiffer_putEntry h)

theorem putEntry_of_new {k v : Value} {es : List (Value × Value)}
    (h : ∀ e ∈ es, same e.1 k = false) : putEntry k v es = es ++ [(k, v)] := by
  induction es with
  | nil => rfl
  | cons f es ih =>
    have hf := h f List.mem_cons_self
    rw [putEntry, if_neg (by simp [hf]), ih fun e he => h e (List.mem_cons_of_mem _ he),
      List.cons_append]

theorem foldl_putEntry_of_keysDiffer {es acc : List (Value × Value)}
    (h : KeysDiffer (acc ++ es)) :
    es.foldl (fun acc e => putEntry e.1 e.2 acc) acc = acc ++ es := by
  induction es generalizing acc with
  | nil => simp
  | cons f es ih =>
    have hnew : ∀ e ∈ acc, same e.1 f.1 = false := fun e he =>
      (List.pairwise_append.mp h).2.2 e he f List.mem_cons_self
    rw [List.foldl_cons, putEntry_of_new hnew, ih (by simpa using h)]
    simp

/-- Entering again what has been entered changes nothing. -/
theorem entered_entered (es : List (Value × Value)) : entered (entered es) = entered es := by
  have h : KeysDiffer (entered es) := keysDiffer_foldl List.Pairwise.nil
  exact foldl_putEntry_of_keysDiffer (show KeysDiffer ([] ++ entered es) from h)

theorem plainEntries_of_fixed {es : List (Value × Value)}
    (h : ∀ e ∈ es, plainKey e.1 = e.1 ∧ plain e.2 = e.2) : plainEntries es = es := by
  induction es with
  | nil => rfl
  | cons e es ih =>
    obtain ⟨hk, hv⟩ := h e List.mem_cons_self
    rw [plainEntries, hk, hv, ih fun f hf => h f (List.mem_cons_of_mem _ hf)]

theorem plain_map (es : List (Value × Value)) :
    plain (.map es) = .map (entered (plainEntries es)) := by rw [plain, entered]

mutual

theorem plain_plain : ∀ v : Value, plain (plain v) = plain v
  | .null | .bool _ | .int _ | .str _ | .date _ | .moment _ => by simp [plain]
  | .float x => by by_cases hx : x.isFinite = true <;> simp [plain, hx]
  | .bytes bs => by
    show plain (bytesText bs) = bytesText bs
    exact plain_bytesText bs
  | .list vs | .tuple vs | .set vs => by simp [plain, plains_plains vs]
  | .map es => by
    have hfixed : ∀ e ∈ entered (plainEntries es), plainKey e.1 = e.1 ∧ plain e.2 = e.2 :=
      forall_foldl_putEntry (P := fun k => plainKey k = k) (Q := fun v => plain v = v)
        (plainEntries_fixed es) (fun e he => by cases he)
    rw [plain_map, plain_map, plainEntries_of_fixed hfixed, entered_entered]

theorem plains_plains : ∀ vs : List Value, plains (plains vs) = plains vs
  | [] => rfl
  | v :: vs => by simp [plains, plain_plain v, plains_plains vs]

theorem plainEntries_fixed : ∀ es : List (Value × Value),
    ∀ e ∈ plainEntries es, plainKey e.1 = e.1 ∧ plain e.2 = e.2
  | [], _, h => by cases h
  | (k, v) :: es, e, h => by
    rcases List.mem_cons.mp h with rfl | h
    · exact ⟨plainKey_plainKey k, plain_plain v⟩
    · exact plainEntries_fixed es e h

end

/-- A number that is infinite or none at all: no file holds it. -/
def IsUnheld (v : Value) : Prop := ∃ x : Float, v = .float x ∧ x.isFinite = false

theorem isUnheld_float {x : Float} : IsUnheld (.float x) ↔ x.isFinite = false := by
  constructor
  · rintro ⟨y, hy, hf⟩
    cases hy
    exact hf
  · exact fun hf => ⟨x, rfl, hf⟩

/-- Nothing but null and the numbers that are not finite is written as null. -/
theorem plain_eq_null_iff {v : Value} : v.plain = .null ↔ v = .null ∨ v.IsUnheld := by
  cases v with
  | null => simp [plain]
  | float x =>
    rw [isUnheld_float]
    cases hx : x.isFinite <;> simp [plain, hx]
  | bytes bs =>
    have hb : bytesText bs ≠ .null := by
      unfold bytesText
      split <;> simp
    simp [plain, hb, IsUnheld]
  | _ => simp [plain, IsUnheld]

end RouteAtlas.Value
