import RouteAtlas.Document.Decode
import RouteAtlas.Proofs.NamedEntries

/-! The fields of an object that has been written entry by entry, as they are read back. -/

namespace RouteAtlas

open Check Checked

namespace Entries

/-- The entries as an object holds them. -/
def raw (es : Entries) : List (Value × Value) := es.map fun e => (.str e.1, e.2)

/-- The value that an object of these entries has under a key. -/
def get? (es : Entries) (key : String) : Option Value := Value.lookup key es.raw

@[simp] theorem get?_append (xs ys : Entries) (key : String) :
    get? (xs ++ ys) key = (get? ys key).or (get? xs key) := by
  induction xs with
  | nil => simp [get?, raw, Value.lookup]
  | cons e xs ih =>
    simp only [get?, raw, List.cons_append, List.map_cons, List.map_append, Value.lookup] at ih ⊢
    rw [ih]
    cases Value.lookup key (ys.map fun e => (Value.str e.1, e.2)) <;> rfl

@[simp] theorem get?_cons (name key : String) (v : Value) (es : Entries) :
    get? ((name, v) :: es) key = (get? es key).or (if name = key then some v else none) := by
  simp only [get?, raw, List.map_cons, Value.lookup]
  cases Value.lookup key (es.map fun e => (Value.str e.1, e.2)) <;> rfl

@[simp] theorem get?_nil (key : String) : get? [] key = none := rfl

@[simp] theorem get?_text (name key s : String) :
    get? (text name s) key = if name = key then some (.str s) else none := by
  simp [text]

@[simp] theorem get?_text? (name key : String) (o : Option String) :
    get? (text? name o) key = if name = key then o.map .str else none := by
  cases o <;> simp [text?]

@[simp] theorem get?_bool? (name key : String) (o : Option Bool) :
    get? (bool? name o) key = if name = key then o.map .bool else none := by
  cases o <;> simp [bool?]

@[simp] theorem get?_texts (name key : String) (ss : List String) :
    get? (texts name ss) key = if name = key then some (.list (ss.map .str)) else none := by
  simp [texts]

@[simp] theorem get?_value? (name key : String) (o : Option Value) :
    get? (value? name o) key = if name = key then o else none := by
  cases o <;> simp [value?]

@[simp] theorem any?_null (key : String) : any? key .null = [] := rfl

theorem any?_of_ne (key : String) {v : Value} (h : v ≠ .null) : any? key v = [(key, v.plain)] := by
  cases v <;> first | rfl | exact absurd rfl h

theorem get?_any?_of_ne {name key : String} (h : name ≠ key) (v : Value) :
    get? (any? name v) key = none := by
  by_cases hv : v = .null
  · rw [hv, any?, get?_nil]
  · simp [any?_of_ne name hv, h]

theorem any?_ofText? (key : String) (o : Option String) :
    any? key (Value.ofText? o) = text? key o := by
  cases o <;> rfl

end Entries

@[simp] theorem pick_nil (es : Entries) : pick es.raw [] = none := rfl

@[simp] theorem pick_cons (es : Entries) (k : String) (ks : List String) :
    pick es.raw (k :: ks) = (es.get? k).or (pick es.raw ks) := rfl

@[simp] theorem pickKey_cons (es : Entries) (k : String) (ks : List String) :
    pickKey es.raw (k :: ks) = if (es.get? k).isSome then some k else pickKey es.raw ks := rfl

namespace Checked

variable {α β : Type}

@[simp] theorem isOk_map (f : α → β) (x : Checked α) : (f <$> x).isOk = x.isOk := by
  cases x <;> rfl

@[simp] theorem isOk_seq (f : Checked (α → β)) (x : Checked α) :
    (f <*> x).isOk = (f.isOk && x.isOk) := by
  cases f <;> cases x <;> rfl

@[simp] theorem isOk_within (step : Value) (x : Checked α) : (within step x).isOk = x.isOk := by
  cases x <;> rfl

@[simp] theorem isOk_at (key : String) (x : Checked α) : (at_ key x).isOk = x.isOk :=
  isOk_within _ x

theorem items_of_forall (encode : α → Value) (g : α → β) {f : Value → Checked β} {xs : List α}
    (h : ∀ x ∈ xs, f (encode x) = .ok (g x)) (i : Nat) :
    items f i (xs.map encode) = .ok (xs.map g) := by
  induction xs generalizing i with
  | nil => rfl
  | cons x xs ih =>
    have hx := h x List.mem_cons_self
    have hxs := ih (fun y hy => h y (List.mem_cons_of_mem _ hy)) (i + 1)
    simp [items, hx, hxs]

end Checked

namespace Check

variable {α β : Type}

theorem object_raw (f : List (Value × Value) → Checked α) (es : Entries) :
    object f (Value.object es) = f es.raw := rfl

theorem required_of_pick {es : List (Value × Value)} {keys : List String} {f : Value → Checked α}
    {v : Value} {a : α} (h : pick es keys = some v) (hf : f v = .ok a) :
    required es keys f = .ok a := by
  simp [required, h, hf]

theorem isOk_required_of_missing {es : List (Value × Value)} {keys : List String}
    {f : Value → Checked α} (h : pick es keys = none) : (required es keys f).isOk = false := by
  rw [required, h, isOk_at]
  rfl

theorem optional_of_pick {es : List (Value × Value)} {keys : List String} {d a : α}
    {f : Value → Checked α} {v : Value} (h : pick es keys = some v) (hf : f v = .ok a) :
    optional es keys d f = .ok a := by
  simp [optional, h, hf]

theorem optional_of_missing {es : List (Value × Value)} {keys : List String} {d : α}
    {f : Value → Checked α} (h : pick es keys = none) : optional es keys d f = .ok d := by
  simp [optional, h]

/-- A field that may be left out, or else is written in some way. -/
theorem optional_nullable (encode : α → Value) (g : α → β) {es : List (Value × Value)}
    {keys : List String} {f : Value → Checked β} {o : Option α} (h : pick es keys = o.map encode)
    (hf : ∀ a ∈ o, f (encode a) = .ok (g a)) (hn : ∀ a, encode a ≠ .null) :
    optional es keys none (nullable f) = .ok (o.map g) := by
  cases o with
  | none => exact optional_of_missing h
  | some a =>
    refine optional_of_pick h ?_
    have hfa := hf a rfl
    unfold nullable
    split
    next hnull => exact absurd hnull (hn a)
    next => simp [hfa]

theorem optional_text? {es : List (Value × Value)} {keys : List String} {o : Option String}
    (h : pick es keys = o.map .str) : optional es keys none (nullable text) = .ok o := by
  have hall : optional es keys none (nullable text) = .ok (o.map id) :=
    optional_nullable Value.str id h (fun _ _ => rfl) (fun _ hn => by cases hn)
  simpa using hall

theorem texts_str (ss : List String) : texts (.list (ss.map .str)) = .ok ss := by
  have h : items text 0 (ss.map .str) = .ok (ss.map id) :=
    items_of_forall Value.str id (fun _ _ => rfl) 0
  simpa [texts, list] using h

theorem entries_of_forall {f : Value → Checked β} {encode : α → Value} {g : α → β}
    {es : List (String × α)} (h : ∀ e ∈ es, f (encode e.2) = .ok (g e.2)) :
    entries f (Entries.raw (es.map fun e => (e.1, encode e.2))) =
      .ok (es.map fun e => (e.1, g e.2)) := by
  induction es with
  | nil => rfl
  | cons e es ih =>
    have he := h e List.mem_cons_self
    have hes := ih fun d hd => h d (List.mem_cons_of_mem _ hd)
    simp only [Entries.raw, List.map_cons, List.map_map] at hes ⊢
    simp [entries, text, he, hes]

/-- A mapping of distinct names is read back entry by entry. -/
theorem dict_of_forall {f : Value → Checked β} {encode : α → Value} {g : α → β}
    {es : List (String × α)} (hn : (es.map (·.1)).Nodup)
    (h : ∀ e ∈ es, f (encode e.2) = .ok (g e.2)) :
    dict f (Value.object (es.map fun e => (e.1, encode e.2))) =
      .ok (es.map fun e => (e.1, g e.2)) := by
  have hes := entries_of_forall h
  have hnames : ((es.map fun e => (e.1, g e.2)).map (·.1)).Nodup := by
    simpa [Function.comp_def] using hn
  show lastOfNames <$> entries f (Entries.raw (es.map fun e => (e.1, encode e.2))) = _
  rw [hes, map_ok, lastOfNames_of_nodup hnames]

/-- Where every key is known there are no others. -/
theorem noOthers_of_forall {es : Entries} {known : List (Option String)}
    (h : ∀ e ∈ es, known.contains (some e.1) = true) : noOthers es.raw known = .ok () := by
  unfold noOthers
  rw [if_pos]
  rw [List.isEmpty_iff, List.flatMap_eq_nil_iff]
  intro e he
  obtain ⟨d, hd, rfl⟩ := List.mem_map.mp he
  simpa using List.contains_iff_mem.mp (h d hd)

end Check

variable {α : Type}

/-- The first form that fits is taken, and those before it do not count. -/
theorem firstOf_of_getElem? {cs : List (Checked α)} {n : Nat} {a : α} (h : cs[n]? = some (.ok a))
    (hbad : ∀ c ∈ cs.take n, c.isOk = false) : firstOf cs = .ok a := by
  have hnone : (cs.take n).find? isOk = none := by
    rw [List.find?_eq_none]
    intro c hc
    simp [hbad c hc]
  obtain ⟨hn, hcn⟩ := List.getElem?_eq_some_iff.mp h
  have hsplit : cs = cs.take n ++ .ok a :: cs.drop (n + 1) := by
    rw [← hcn, ← List.drop_eq_getElem_cons hn, List.take_append_drop]
  rw [firstOf, hsplit, List.find?_append, hnone, Option.none_or, List.find?_cons_of_pos rfl]

/-- Where one candidate alone fits, it is the best. -/
theorem bestOf_of_unique (pre post : List (Candidate α)) {c : Candidate α} {a : α}
    (hpre : ∀ d ∈ pre, d.result.isOk = false) (hpost : ∀ d ∈ post, d.result.isOk = false)
    (hc : c.result = .ok a) : bestOf (pre ++ c :: post) = .ok a := by
  have hgood : (pre ++ c :: post).filter (fun d => d.result.isOk) = [c] := by
    have hp : pre.filter (fun d => d.result.isOk) = [] :=
      List.filter_eq_nil_iff.mpr fun d hd => by simp [hpre d hd]
    have hq : post.filter (fun d => d.result.isOk) = [] :=
      List.filter_eq_nil_iff.mpr fun d hd => by simp [hpost d hd]
    have hself : c.result.isOk = true := by
      rw [hc]
      rfl
    rw [List.filter_append, List.filter_cons, if_pos hself, hp, hq, List.nil_append]
  have hself : c.isBetter c = false := by
    simp [Candidate.isBetter]
  unfold bestOf
  simp only [hgood]
  simp [hself, hc]

end RouteAtlas
