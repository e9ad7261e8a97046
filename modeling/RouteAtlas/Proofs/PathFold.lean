import Mathlib
import RouteAtlas.Proofs.BuildSteps
import RouteAtlas.Proofs.NamedEntries

/-!
The paths of a document after a build: for every template and verb the last action that writes there
decides, all else stays as it was, and new templates come behind the old ones in the order in which
they are first met.
-/

namespace RouteAtlas

/-- The operation at a template and a verb. -/
def operationAt (paths : List (String × PathItem)) (template : String) (v : Verb) :
    Option Operation := (paths.lookup template).bind (·.slot v)

namespace Action

/-- The templates of the path of an action; a path that cannot be rendered has none. -/
def templates (a : Action) : List String :=
  match a.path.templates with
  | .ok ts => ts
  | .error _ => []

/-- Does the action document a template under a verb? -/
def writes (a : Action) (template : String) (v : Verb) : Bool :=
  match Verb.ofMethod a.method with
  | .ok w => w = v && a.templates.contains template
  | .error _ => false

end Action

namespace Document

theorem slot_itemAt (paths : List (String × PathItem)) (t : String) (v : Verb) :
    (itemAt paths t).slot v = operationAt paths t v := by
  unfold itemAt operationAt
  cases paths.lookup t with
  | none => cases v <;> rfl
  | some item => rfl

theorem operationAt_putOperation_self (paths : List (String × PathItem))
    (op : String × Verb × Operation) :
    operationAt (putOperation paths op) op.1 op.2.1 = some op.2.2 := by
  simp [operationAt, putOperation, lookup_replaceOrAppend_self]

theorem operationAt_putOperation_of_ne {paths : List (String × PathItem)}
    {op : String × Verb × Operation} {t : String} {v : Verb} (h : ¬(op.1 = t ∧ op.2.1 = v)) :
    operationAt (putOperation paths op) t v = operationAt paths t v := by
  by_cases ht : t = op.1
  · have hv : v ≠ op.2.1 := fun hv => h ⟨ht.symm, hv.symm⟩
    subst ht
    calc operationAt (putOperation paths op) op.1 v
      _ = ((itemAt paths op.1).setSlot op.2.1 op.2.2).slot v := by
        simp [operationAt, putOperation, lookup_replaceOrAppend_self]
      _ = (itemAt paths op.1).slot v := PathItem.slot_setSlot_of_ne _ _ hv
      _ = operationAt paths op.1 v := slot_itemAt paths op.1 v
  · simp only [operationAt, putOperation, lookup_replaceOrAppend_of_ne _ _ ht]

theorem setSlot_of_slot {item : PathItem} {v : Verb} {op : Operation} (h : item.slot v = some op) :
    item.setSlot v op = item := by
  cases v <;> simp only [PathItem.slot] at h <;> simp only [PathItem.setSlot, ← h]

/-- An operation that stands at its place is not put in anew. -/
theorem putOperation_of_operationAt {paths : List (String × PathItem)}
    {op : String × Verb × Operation} (h : operationAt paths op.1 op.2.1 = some op.2.2) :
    putOperation paths op = paths := by
  obtain ⟨item, hitem, hslot⟩ := Option.bind_eq_some_iff.mp h
  have hat : itemAt paths op.1 = item := by rw [itemAt, hitem, Option.getD_some]
  rw [putOperation, hat, setSlot_of_slot hslot]
  exact replaceOrAppend_of_lookup hitem

theorem parameters_putOperation (paths : List (String × PathItem))
    (op : String × Verb × Operation) (t : String) :
    (itemAt (putOperation paths op) t).parameters = (itemAt paths t).parameters := by
  by_cases ht : t = op.1
  · subst ht
    rw [putOperation, itemAt, lookup_replaceOrAppend_self]
    exact PathItem.parameters_setSlot _ _ _
  · rw [putOperation, itemAt, lookup_replaceOrAppend_of_ne _ _ ht, itemAt]

theorem names_putOperation (paths : List (String × PathItem)) (op : String × Verb × Operation) :
    (putOperation paths op).map (·.1) = addName (paths.map (·.1)) op.1 :=
  names_replaceOrAppend _ _ _

/-- Operations of one verb write at their templates and nowhere else. -/
theorem operationAt_putOperations {a : Action} {classes : Registry} {formats : Formats} {w : Verb}
    {ops : List (String × Verb × Operation)} (paths : List (String × PathItem)) (t : String)
    (v : Verb)
    (h : ∀ o ∈ ops, o.2.1 = w ∧ a.operation classes formats o.1 = .ok o.2.2) :
    (w = v ∧ t ∈ ops.map (·.1) →
      ∃ op, a.operation classes formats t = .ok op ∧
        operationAt (putOperations paths ops) t v = some op) ∧
    (¬(w = v ∧ t ∈ ops.map (·.1)) →
      operationAt (putOperations paths ops) t v = operationAt paths t v) := by
  induction ops generalizing paths with
  | nil => exact ⟨fun hw => by simp at hw, fun _ => rfl⟩
  | cons o ops ih =>
    obtain ⟨how, hop⟩ := h o List.mem_cons_self
    obtain ⟨hin, hout⟩ := ih (putOperation paths o) fun o ho => h o (List.mem_cons_of_mem _ ho)
    constructor
    · rintro ⟨hv, ht⟩
      by_cases hrest : t ∈ ops.map (·.1)
      · exact hin ⟨hv, hrest⟩
      · -- The template comes no more behind this operation, which is therefore the one that stays.
        have hto : o.1 = t := by
          rcases List.mem_cons.mp ht with ht | ht
          · exact ht.symm
          · exact absurd ht hrest
        refine ⟨o.2.2, hto ▸ hop, ?_⟩
        have hself := operationAt_putOperation_self paths o
        rw [hto, how, hv] at hself
        exact (hout fun hh => hrest hh.2).trans hself
    · intro hne
      have hrest : ¬(w = v ∧ t ∈ ops.map (·.1)) := fun hh =>
        hne ⟨hh.1, List.mem_cons_of_mem _ hh.2⟩
      have ho : ¬(o.1 = t ∧ o.2.1 = v) := fun hh =>
        hne ⟨how.symm.trans hh.2, by simp [hh.1]⟩
      exact (hout hrest).trans (operationAt_putOperation_of_ne ho)

theorem parameters_putOperations (paths : List (String × PathItem))
    (ops : List (String × Verb × Operation)) (t : String) :
    (itemAt (putOperations paths ops) t).parameters = (itemAt paths t).parameters := by
  induction ops generalizing paths with
  | nil => rfl
  | cons o ops ih => exact (ih (putOperation paths o)).trans (parameters_putOperation paths o t)

theorem names_putOperations (paths : List (String × PathItem))
    (ops : List (String × Verb × Operation)) :
    (putOperations paths ops).map (·.1) = (ops.map (·.1)).foldl addName (paths.map (·.1)) := by
  induction ops generalizing paths with
  | nil => rfl
  | cons o ops ih =>
    rw [List.map_cons, List.foldl_cons, ← names_putOperation]
    exact ih (putOperation paths o)

/-- Something is done to the items of all paths before or after operations are put in. -/
theorem map_putOperations {g : PathItem → PathItem} {f : Operation → Operation}
    (hempty : g .empty = .empty)
    (hslot : ∀ item v op, g (item.setSlot v op) = (g item).setSlot v (f op))
    (paths : List (String × PathItem)) (ops : List (String × Verb × Operation)) :
    (putOperations paths ops).map (fun p => (p.1, g p.2)) =
      putOperations (paths.map fun p => (p.1, g p.2)) (ops.map fun o => (o.1, o.2.1, f o.2.2)) := by
  induction ops generalizing paths with
  | nil => rfl
  | cons o ops ih =>
    have hitem : g (itemAt paths o.1) = itemAt (paths.map fun p => (p.1, g p.2)) o.1 := by
      rw [itemAt, itemAt, lookup_map]
      cases paths.lookup o.1 with
      | none => exact hempty
      | some item => rfl
    have hstep : (putOperation paths o).map (fun p => (p.1, g p.2)) =
        putOperation (paths.map fun p => (p.1, g p.2)) (o.1, o.2.1, f o.2.2) := by
      rw [putOperation, map_replaceOrAppend, hslot, hitem, putOperation]
    rw [List.map_cons]
    show (putOperations (putOperation paths o) ops).map _ =
      putOperations (putOperation _ (o.1, o.2.1, f o.2.2)) _
    rw [ih, hstep]

/-- What one action does to the paths. -/
theorem paths_of_merge {classes : Registry} {formats : Formats} {strict : Bool} {d e : Document}
    {a : Action} {ts : List Takeover} (h : d.merge classes formats strict a = .ok (e, ts)) :
    (∀ t v, if a.writes t v then
        ∃ op, a.operation classes formats t = .ok op ∧ operationAt e.paths t v = some op
      else operationAt e.paths t v = operationAt d.paths t v) ∧
    (∀ t, (itemAt e.paths t).parameters = (itemAt d.paths t).parameters) ∧
    e.paths.map (·.1) = a.templates.foldl addName (d.paths.map (·.1)) := by
  obtain ⟨c, hc, h⟩ := exists_of_merge h
  obtain ⟨m, -, rfl⟩ := exists_of_apply h
  obtain ⟨w, ts, hw, ht, ho, -⟩ := Action.exists_of_contribution hc
  obtain ⟨hnames, hops⟩ := Action.operations_spec ho
  have hts : a.templates = ts := by simp [Action.templates, ht]
  refine ⟨?_, parameters_putOperations d.paths c.operations, ?_⟩
  · intro t v
    obtain ⟨hin, hout⟩ := operationAt_putOperations d.paths t v hops
    have hwrites : a.writes t v = true ↔ w = v ∧ t ∈ c.operations.map (·.1) := by
      simp [Action.writes, hw, hts, hnames]
    split
    next hy => exact hin (hwrites.mp hy)
    next hn => exact hout fun hh => hn (hwrites.mpr hh)
  · rw [names_putOperations, hnames, hts]

/-- What a run of actions does to the paths, from any document on. -/
theorem paths_of_extend {classes : Registry} {formats : Formats} {strict : Bool} {d e : Document}
    {actions : List Action} (h : (d.extend classes formats strict actions).result = .ok e) :
    (∀ t v, match actions.reverse.find? (·.writes t v) with
      | some a => ∃ op, a.operation classes formats t = .ok op ∧ operationAt e.paths t v = some op
      | none => operationAt e.paths t v = operationAt d.paths t v) ∧
    (∀ t, (itemAt e.paths t).parameters = (itemAt d.paths t).parameters) ∧
    e.paths.map (·.1) = (actions.flatMap Action.templates).foldl addName (d.paths.map (·.1)) := by
  induction actions generalizing d with
  | nil =>
    cases Except.ok.inj h
    exact ⟨fun _ _ => rfl, fun _ => rfl, rfl⟩
  | cons a as ih =>
    obtain ⟨d', ts, hstep, hrest⟩ := exists_of_run_cons h
    obtain ⟨hop, hpar, hnames⟩ := paths_of_merge hstep
    obtain ⟨hop', hpar', hnames'⟩ := ih hrest
    refine ⟨?_, fun t => (hpar' t).trans (hpar t), ?_⟩
    · intro t v
      have hlater := hop' t v
      have hfirst := hop t v
      rw [List.reverse_cons, List.find?_append]
      cases hf : as.reverse.find? (·.writes t v) with
      | some b => simpa [hf] using hlater
      | none =>
        -- No later action writes here, so what this one leaves is what stays.
        rw [hf] at hlater
        simp only [Option.none_or, List.find?_singleton]
        by_cases hw : a.writes t v = true
        · simp only [hw, if_true] at hfirst ⊢
          obtain ⟨op, ho, hs⟩ := hfirst
          exact ⟨op, ho, hlater.trans hs⟩
        · simp only [hw] at hfirst ⊢
          exact hlater.trans hfirst
    · rw [hnames', hnames, List.flatMap_cons, List.foldl_append]

/-- The paths that a build starts from. -/
def pathsBefore (previous : Option Document) : List (String × PathItem) :=
  match previous with
  | some d => d.paths
  | none => []

theorem paths_start (info : Option Info) (previous : Option Document) :
    (start info previous).paths = pathsBefore previous := by
  cases previous <;> cases info <;> rfl

/-- The paths of a build: at every template and verb stands the operation of the last action that
writes there, and for want of one what stood there before; parameters of paths stay as they are; and
behind the templates that were there come the new ones in the order in which they are first met. -/
theorem paths_of_build {classes : Registry} {formats : Formats} {strict : Bool}
    {info : Option Info} {previous : Option Document} {actions : List Action} {d : Document}
    (h : (build classes formats strict info previous actions).result = .ok d) :
    (∀ t v, match actions.reverse.find? (·.writes t v) with
      | some a => ∃ op, a.operation classes formats t = .ok op ∧ operationAt d.paths t v = some op
      | none => operationAt d.paths t v = operationAt (pathsBefore previous) t v) ∧
    (∀ t, (itemAt d.paths t).parameters = (itemAt (pathsBefore previous) t).parameters) ∧
    d.paths.map (·.1) = (pathsBefore previous).map (·.1) ++
      ((actions.flatMap Action.templates).filter
        (· ∉ (pathsBefore previous).map (·.1))).eraseDups := by
  obtain ⟨hop, hpar, hnames⟩ := paths_of_extend h
  rw [paths_start] at hop hpar hnames
  exact ⟨hop, hpar, by rw [hnames, foldl_addName]⟩

/-- Users, all of them or one, under a summary. -/
def usersAction (summary : String) : Action where
  method := "GET"
  path := .noted (.both (.literal (.str "users"))
    (.either (.literal (.str "")) (.capture (.str "id") (.scalar .int) .null)))
    (.summary (.str summary))
  query := .empty
  headers := .empty
  results := [.ofType (.scalar .str)]
  body := .absent
  consumes := []
  produces := []

/-- An operation that says nothing about itself. -/
def bareOperation : Operation := ⟨[], none, none, [], [], none, [], []⟩

/-- A document that knows users already, and how to add one. -/
def usersDocument : Document :=
  { ofInfo ⟨"Users", "1", none⟩ with
    paths := [("/old", .empty), ("/users", PathItem.empty.setSlot .post bareOperation)] }

theorem paths_of_build_users :
    ∃ d, (build ∅ .standard false none (some usersDocument)
        [usersAction "List", usersAction "Find"]).result = .ok d ∧
      (∃ op, (usersAction "Find").operation ∅ .standard "/users" = .ok op ∧
        operationAt d.paths "/users" .get = some op) ∧
      operationAt d.paths "/users" .post = some bareOperation ∧
      d.paths.map (·.1) = ["/old", "/users", "/users/\x7bid\x7d"] := by
  have hok : (build ∅ .standard false none (some usersDocument)
      [usersAction "List", usersAction "Find"]).result.isOk = true := by cbv
  obtain ⟨d, hd⟩ := exists_of_isOk hok
  obtain ⟨hop, -, hnames⟩ := paths_of_build hd
  have hget := hop "/users" .get
  have hpost := hop "/users" .post
  have hfound : [usersAction "List", usersAction "Find"].reverse.find?
      (·.writes "/users" .get) = some (usersAction "Find") := by cbv
  have hnone : [usersAction "List", usersAction "Find"].reverse.find?
      (·.writes "/users" .post) = none := by cbv
  rw [hfound] at hget
  rw [hnone] at hpost
  refine ⟨d, hd, hget, hpost, hnames.trans ?_⟩
  cbv

end Document

end RouteAtlas
