import RouteAtlas.Proofs.BuildCommand
import RouteAtlas.Proofs.TabbedRows

/-!
The command that lists operations. Where tables are plain text, what it puts out is read back as the
rows of the operations, unless a template or a summary has a tab or an end of a line in it.
-/

namespace RouteAtlas

namespace Text.Cutting

variable {cut : Cutting} {s : String}

instance (cut : Cutting) (s : String) : Decidable (cut.Keeps s) :=
  List.decidableBAll _ s.toList

theorem keeps_of_not_isSeparator (h : s.toList.any isSeparator = false) : cut.Keeps s := by
  intro c hc
  have hc' : isSeparator c = false := by simpa using List.any_eq_false.mp h c hc
  obtain ⟨htab, hend⟩ := Bool.or_eq_false_iff.mp hc'
  refine ⟨of_decide_eq_false htab, ?_⟩
  cases hcut : cut.isEnd c with
  | false => rfl
  | true => exact absurd (cut.endsLine_of_isEnd c hcut) (by simp [hend])

/-- The name of an operation can be kept in a cell if its template can. -/
theorem keeps_operationId {template method : String} {v : Verb}
    (hv : Verb.ofMethod method = .ok v) (h : cut.Keeps template) :
    cut.Keeps (Template.operationId template method) := by
  intro c hc
  -- Only the template can bring a separator into the name.
  cases hsep : isSeparator c with
  | true => exact h c (Template.mem_of_mem_operationId hv hc hsep)
  | false =>
    have hone : cut.Keeps (.singleton c) := keeps_of_not_isSeparator (by simp [hsep])
    exact hone c (by simp)

end Text.Cutting

namespace Document

/-- The row of an operation: the verb, the template, the name of the operation, and its summary or
else a dash. -/
def listedRow (word template : String) (op : Operation) : List String :=
  [word, template, op.operationId.getD "",
    match op.summary with
    | none | some "" => "-"
    | some summary => summary]

/-- The row of the operation that a place of a path holds, if it does. -/
def listedSlot (word template : String) (slot : Option Operation) : List (List String) :=
  slot.toList.map (listedRow word template)

/-- The operations of the paths in order, and of each path those to get, put, post, delete and patch
and for its options. -/
def listed (d : Document) : List (List String) :=
  d.paths.flatMap fun (template, item) =>
    listedSlot "GET" template item.get ++ listedSlot "PUT" template item.put ++
      listedSlot "POST" template item.post ++ listedSlot "DELETE" template item.delete ++
      listedSlot "PATCH" template item.patch ++ listedSlot "OPTIONS" template item.options

end Document

/-- The name of the operation is made of the template and a spelling of the verb. -/
def Operation.IsNamedFor (op : Operation) (template : String) (v : Verb) : Prop :=
  ∃ method, Verb.ofMethod method = .ok v ∧
    op.operationId = some (Template.operationId template method)

theorem Action.isNamedFor_of_operation {classes : Registry} {formats : Formats} {a : Action}
    {template : String} {op : Operation} {v : Verb} (hv : Verb.ofMethod a.method = .ok v)
    (h : a.operation classes formats template = .ok op) : op.IsNamedFor template v := by
  obtain ⟨_, _, h⟩ := exists_of_bind_ok h
  obtain ⟨_, _, h⟩ := exists_of_bind_ok h
  obtain ⟨_, _, h⟩ := exists_of_bind_ok h
  obtain ⟨_, _, h₁, _, rfl⟩ := Checked.exists_of_seq_ok (Checked.exists_of_toExcept_ok h)
  obtain ⟨_, _, h₂, _, rfl⟩ := Checked.exists_of_seq_ok h₁
  obtain ⟨_, _, rfl⟩ := Checked.exists_of_map_ok h₂
  exact ⟨a.method, hv, rfl⟩

namespace Document

/-- All operations of paths are named for where they stand. -/
def Named (paths : List (String × PathItem)) : Prop :=
  ∀ p ∈ paths, ∀ v op, p.2.slot v = some op → op.IsNamedFor p.1 v

variable {paths : List (String × PathItem)} {classes : Registry} {formats : Formats} {strict : Bool}

theorem named_nil : Named [] := fun _ hp => absurd hp List.not_mem_nil

theorem named_itemAt (h : Named paths) (template : String) (v : Verb) {op : Operation}
    (hop : (itemAt paths template).slot v = some op) : op.IsNamedFor template v := by
  unfold itemAt at hop
  cases hl : paths.lookup template with
  | none =>
    rw [hl] at hop
    cases v <;> cases hop
  | some item =>
    rw [hl] at hop
    exact h _ (mem_of_lookup hl) v op hop

theorem named_putOperation (h : Named paths) {o : String × Verb × Operation}
    (ho : o.2.2.IsNamedFor o.1 o.2.1) : Named (putOperation paths o) := by
  intro p hp v op hop
  rcases mem_replaceOrAppend hp with rfl | hp
  · by_cases hv : v = o.2.1
    · subst hv
      rw [PathItem.slot_setSlot_self] at hop
      exact Option.some.inj hop ▸ ho
    · rw [PathItem.slot_setSlot_of_ne _ _ hv] at hop
      exact named_itemAt h o.1 v hop
  · exact h p hp v op hop

theorem named_putOperations (h : Named paths) {ops : List (String × Verb × Operation)}
    (hops : ∀ o ∈ ops, o.2.2.IsNamedFor o.1 o.2.1) : Named (putOperations paths ops) := by
  induction ops generalizing paths with
  | nil => exact h
  | cons o ops ih =>
    obtain ⟨ho, hops⟩ := List.forall_mem_cons.mp hops
    exact ih (named_putOperation h ho) hops

theorem named_of_merge {d e : Document} {a : Action} {ts : List Takeover} (hd : Named d.paths)
    (h : d.merge classes formats strict a = .ok (e, ts)) : Named e.paths := by
  obtain ⟨c, hc, h⟩ := exists_of_merge h
  obtain ⟨v, _, hv, _, hops, -⟩ := Action.exists_of_contribution hc
  rw [paths_of_apply h]
  refine named_putOperations hd fun o ho => ?_
  obtain ⟨hverb, hop⟩ := (Action.operations_spec hops).2 o ho
  exact Action.isNamedFor_of_operation (hverb ▸ hv) hop

/-- Building names all operations, if those that there are have their names. -/
theorem named_of_extend {d e : Document} {actions : List Action} (hd : Named d.paths)
    (h : (d.extend classes formats strict actions).result = .ok e) : Named e.paths :=
  run_invariant (P := fun d => Named d.paths) hd
    (fun _ _ _ _ _ hd' hstep => named_of_merge hd' hstep)
    h

theorem mem_operations {item : PathItem} {o : Verb × Operation} :
    o ∈ item.operations ↔ item.slot o.1 = some o.2 := by
  obtain ⟨v, op⟩ := o
  have hall : v ∈ Verb.all := by cases v <;> decide
  simp only [PathItem.operations, List.mem_filterMap, Option.map_eq_some_iff, Prod.mk.injEq]
  constructor
  · rintro ⟨_, -, _, hslot, rfl, rfl⟩
    exact hslot
  · exact fun hslot => ⟨v, hall, op, hslot, rfl, rfl⟩

theorem operationRow_eq_listedRow {op : Operation} {template : String} {v : Verb}
    (h : op.IsNamedFor template v) :
    operationRow template (v, op) = listedRow v.word template op := by
  obtain ⟨method, hv, hid⟩ := h
  have hname : cellText op.operationId = op.operationId.getD "" := by
    have hne : Template.operationId template method ≠ "" := Template.operationId_ne_empty hv
    simp [cellText, hid, Option.filter, hne]
  have hsummary : cellText op.summary = match op.summary with
      | none | some "" => "-"
      | some summary => summary := by
    split
    next hs => rw [hs]; rfl
    next hs => rw [hs]; rfl
    next summary hne hs =>
      have hne : ¬summary = "" := hne
      simp [cellText, hs, Option.filter, hne]
  rw [operationRow, hname, hsummary]
  rfl

theorem rows_operations {item : PathItem} {template : String}
    (h : ∀ v op, item.slot v = some op → op.IsNamedFor template v) :
    item.operations.map (operationRow template) =
      Verb.all.flatMap fun v => listedSlot v.word template (item.slot v) := by
  rw [PathItem.operations, List.filterMap_eq_flatMap_toList, List.map_flatMap]
  refine List.flatMap_congr fun v _ => ?_
  cases hs : item.slot v with
  | none => rfl
  | some op => exact congrArg (· :: []) (operationRow_eq_listedRow (h v op hs))

/-- Where all operations have their names, the rows that are put out are those of the listing. -/
theorem operationRows_eq_listed {d : Document} (h : Named d.paths) :
    d.operationRows = d.listed := by
  refine List.flatMap_congr fun p hp => ?_
  rw [rows_operations (h p hp)]
  simp only [Verb.all, List.flatMap_cons, List.flatMap_nil, List.append_nil, List.append_assoc]
  rfl

section

variable {cut : Text.Cutting}

theorem keeps_cellText_iff {s : Option String} :
    cut.Keeps (cellText s) ↔ ∀ text ∈ s, cut.Keeps text := by
  have hdash : cut.Keeps "-" := Text.Cutting.keeps_of_not_isSeparator (by decide)
  cases s with
  | none => exact iff_of_true hdash nofun
  | some text =>
    by_cases htext : text = ""
    · subst htext
      exact iff_of_true hdash fun text h => by cases h; exact nofun
    · simp [cellText, Option.filter, htext]

/-- All cells of a row can be kept just if the template and the summary can. -/
theorem keeps_operationRow_iff {o : Verb × Operation} {template : String}
    (h : o.2.IsNamedFor template o.1) : (∀ cell ∈ operationRow template o, cut.Keeps cell) ↔
      cut.Keeps template ∧ ∀ text ∈ o.2.summary, cut.Keeps text := by
  obtain ⟨method, hv, hid⟩ := h
  have hword : cut.Keeps o.1.word :=
    Text.Cutting.keeps_of_not_isSeparator (by cases o.1 <;> decide)
  simp only [operationRow, List.forall_mem_cons, keeps_cellText_iff]
  constructor
  · rintro ⟨-, htemplate, -, hsummary, -⟩
    exact ⟨htemplate, hsummary⟩
  · rintro ⟨htemplate, hsummary⟩
    refine ⟨hword, htemplate, fun text htext => ?_, hsummary, nofun⟩
    rw [hid] at htext
    obtain rfl := Option.some.inj htext
    exact Text.Cutting.keeps_operationId hv htemplate

theorem keeps_operationTable_iff {d : Document} (h : Named d.paths) :
    (∀ row ∈ d.operationTable.headers :: d.operationTable.rows, ∀ cell ∈ row, cut.Keeps cell) ↔
      ∀ p ∈ d.paths, ∀ o ∈ p.2.operations,
        cut.Keeps p.1 ∧ ∀ text ∈ o.2.summary, cut.Keeps text := by
  have hheaders : ∀ cell ∈ d.operationTable.headers, cut.Keeps cell := fun cell hcell =>
    Text.Cutting.keeps_of_not_isSeparator (by
      have hall : ∀ cell ∈ ["Method", "Path", "Operation ID", "Summary"],
          cell.toList.any Text.isSeparator = false := by decide
      exact hall cell hcell)
  rw [List.forall_mem_cons, and_iff_right hheaders]
  simp only [operationTable, operationRows, List.forall_mem_flatMap, List.forall_mem_map]
  refine forall₂_congr fun p hp => forall₂_congr fun o ho => ?_
  exact keeps_operationRow_iff (h p hp o.1 o.2 (mem_operations.mp ho))

end

end Document

theorem eq_ok_of_mapError {ε ε' α : Type} {x : Except ε α} {f : ε → ε'} {a : α}
    (h : x.mapError f = .ok a) : x = .ok a := by
  cases x with
  | error e => cases h
  | ok b => exact congrArg _ (Except.ok.inj h)

theorem ExitCode.number_ne_zero (code : ExitCode) : code.number ≠ 0 := by
  cases code <;> decide

theorem Outcome.exit_ofFault_ne_zero (c : Console) (t : Transcript) (f : CommandFault) :
    (ofFault c t f).exit ≠ 0 := by
  have hunexpected : ∀ m, (unexpected c t m).exit ≠ 0 := fun m => by
    rw [(unexpected_eq c t m).1]
    exact ExitCode.failure.number_ne_zero
  unfold ofFault
  split
  next => exact hunexpected _
  next code _ =>
    split
    next => exact code.number_ne_zero
    next => exact hunexpected _

namespace Course

variable {α β γ : Type} {es es' : List Effect} {c : Console} {files : FileTree}

theorem bind_assoc (x : Course α) (g : α → Course β) (k : β → Course γ) :
    (x >>= g) >>= k = x >>= fun a => g a >>= k := by
  cases hx : x.result with
  | error f => rw [bind_of_error hx, bind_of_error hx, bind_of_error rfl]
  | ok a =>
    rw [bind_of_ok hx, bind_of_ok hx]
    cases hg : (g a).result with
    | error f => rw [bind_of_error rfl, bind_of_error hg]
    | ok b => rw [bind_of_ok rfl, bind_of_ok hg, List.append_assoc]

theorem exists_of_result_bind {x : Course α} {g : α → Course β} {b : β}
    (h : (x >>= g).result = .ok b) : ∃ a, x.result = .ok a ∧ (g a).result = .ok b := by
  rw [result_bind] at h
  exact exists_of_bind_ok h

theorem eq_ok_of_ofExcept {ε : Type} {fault : ε → CommandFault} {r : Except ε α} {a : α}
    (h : (ofExcept fault r).result = .ok a) : r = .ok a := by
  rw [result_ofExcept] at h
  exact eq_ok_of_mapError h

/-- A command that gives up after remarks does not end as one that succeeds. -/
theorem exit_run_of_error {f : CommandFault} (hes : ∀ e ∈ es, e.isRemark = true) :
    ((Course.mk es (.error f)).run c files).exit ≠ 0 := by
  by_cases hshown : c.ShowsAll es
  · obtain ⟨t, ht, -⟩ := Transcript.exists_performAll (t := ⟨"", "", files⟩) hes hshown
    rw [run, ht]
    exact Outcome.exit_ofFault_ne_zero c t f
  · have hexit := (run_of_not_shows files [] (.error f) hes hshown).1
    rw [List.append_nil] at hexit
    rw [hexit]
    exact ExitCode.failure.number_ne_zero

/-- A command that puts out a table as plain text between remarks puts out that text and nothing
else, or it fails with nothing put out if the remarks before the table cannot be shown. -/
theorem run_table {table : Table} (hes : ∀ e ∈ es, e.isRemark = true)
    (hes' : ∀ e ∈ es', e.isRemark = true) (hplain : c.display = .plain) :
    let o := (Course.mk (es ++ .table table :: es') (.ok ())).run c files
    o.transcript.stdout = table.plain ∨ (o.exit ≠ 0 ∧ o.transcript.stdout = "") := by
  dsimp only
  by_cases hshown : c.ShowsAll es
  · obtain ⟨t, ht, hagrees⟩ := Transcript.exists_performAll (t := ⟨"", "", files⟩) hes hshown
    have htable : Transcript.perform c ⟨"", t.stderr, files⟩ (.table table) =
        (⟨"" ++ table.plain, t.stderr, files⟩, none) := by
      simp only [Transcript.perform, Console.tableText, hplain]
    have hrest := Transcript.performAll_remarks (c := c)
      (t := ⟨"" ++ table.plain, t.stderr, files⟩) hes'
    rw [run, Transcript.performAll_append, ht, hagrees.eq]
    dsimp only
    rw [Transcript.performAll, htable]
    dsimp only
    generalize Transcript.performAll c ⟨"" ++ table.plain, t.stderr, files⟩ es' = done at hrest
    obtain ⟨t', fault⟩ := done
    obtain ⟨⟨hstdout, -⟩, -⟩ := hrest
    rw [String.empty_append] at hstdout
    cases fault with
    | none => exact .inl hstdout
    | some fault =>
      -- A remark behind the table cannot be shown, but the table is out by then.
      have hunexpected := (Outcome.unexpected_eq c t' (fault.message c.host)).2.1
      exact .inl (hunexpected.trans hstdout)
  · obtain ⟨hexit, hstdout, -⟩ :=
      run_of_not_shows files (.table table :: es') (.ok ()) hes hshown
    exact .inr ⟨by rw [hexit]; exact ExitCode.failure.number_ne_zero, hstdout⟩

end Course

theorem Surroundings.exists_of_resolve {s : Surroundings} {config : Option FilePath}
    {target : Option String} {overrides : List (String × Value)} {c : Config}
    {actions : List Action} (h : (s.resolve config target overrides).result = .ok (c, actions)) :
    Config.resolve s.files s.root s.terminal.environment overrides config s.host = .ok c ∧
      ∃ t, (target.filter (· ≠ "")).or (c.routes.filter (· ≠ "")) = some t ∧
        loadRoutes s.classes s.modules t = .ok actions := by
  rw [Surroundings.result_resolve] at h
  obtain ⟨c', hc, h⟩ := exists_of_bind_ok h
  cases ht : (target.filter (· ≠ "")).or (c'.routes.filter (· ≠ "")) with
  | none =>
    rw [ht] at h
    cases h
  | some t =>
    rw [ht] at h
    obtain ⟨loaded, hloaded, h⟩ := exists_of_map_ok h
    cases h
    exact ⟨eq_ok_of_mapError hc, t, ht, eq_ok_of_mapError hloaded⟩

/-- The settings, the route actions that the target names, and the document that is listed. -/
structure Inspects (s : Surroundings) (config : Option FilePath) (target : Option String)
    (c : Config) (actions : List Action) (d : Document) : Prop where
  settings : Config.resolve s.files s.root s.terminal.environment [] config s.host = .ok c
  routes : ∃ t, (target.filter (· ≠ "")).or (c.routes.filter (· ≠ "")) = some t ∧
    loadRoutes s.classes s.modules t = .ok actions
  built : (Document.build s.classes .standard false none (some c.document) actions).result = .ok d

/-- The document that is listed, and the models of its actions. -/
def inspected (s : Surroundings) (config : Option FilePath) (target : Option String) :
    Course (Document × Models) := do
  let (c, actions) ← s.resolve config target []
  .perform ((c.document.extendLog s.classes false actions).map .log)
  let d ← .ofExcept .build (c.document.extend s.classes .standard false actions).result
  .perform ((collectActionsLog s.classes [] actions).map .log)
  let models ← .ofExcept .build (collectActions s.classes .standard actions)
  return (d, models)

section

variable {s : Surroundings} {config : Option FilePath} {target : Option String}

theorem isQuiet_inspected (s : Surroundings) (config : Option FilePath) (target : Option String) :
    (inspected s config target).IsQuiet := by
  have hlog : ∀ es : List LogEntry, (Course.perform (es.map .log)).IsQuiet := fun es e he => by
    obtain ⟨l, -, rfl⟩ := List.mem_map.mp he
    rfl
  refine Course.isQuiet_bind (s.isQuiet_resolve _ _ _) fun (c, actions) => ?_
  refine Course.isQuiet_bind (hlog _) fun _ => ?_
  refine Course.isQuiet_bind (Course.isQuiet_ofExcept _ _) fun d => ?_
  refine Course.isQuiet_bind (hlog _) fun _ => ?_
  exact Course.isQuiet_bind (Course.isQuiet_ofExcept _ _) fun models => nofun

theorem inspectCourse_eq (s : Surroundings) (config : Option FilePath) (target : Option String) :
    inspectCourse s config target = inspected s config target >>= fun (d, models) =>
      .perform (.table d.operationTable ::
        (nameCollisions (models.map (·.2))).map fun c => .say (collisionWarning c)) := by
  rw [inspectCourse, inspected, Course.bind_assoc]
  refine congrArg (s.resolve config target [] >>= ·) (funext fun (c, actions) => ?_)
  simp only [Course.bind_assoc]
  rfl

theorem inspects_of_result {d : Document} {models : Models}
    (h : (inspected s config target).result = .ok (d, models)) :
    ∃ c actions, Inspects s config target c actions d := by
  obtain ⟨⟨c, actions⟩, hresolve, h⟩ := Course.exists_of_result_bind h
  obtain ⟨-, -, h⟩ := Course.exists_of_result_bind h
  obtain ⟨d', hd, h⟩ := Course.exists_of_result_bind h
  obtain ⟨-, -, h⟩ := Course.exists_of_result_bind h
  obtain ⟨models', -, h⟩ := Course.exists_of_result_bind h
  cases h
  obtain ⟨hsettings, t, ht, hroutes⟩ := Surroundings.exists_of_resolve hresolve
  exact ⟨c, actions, hsettings, ⟨t, ht, hroutes⟩, Course.eq_ok_of_ofExcept hd⟩

/-- What comes to standard output, if anything does, is the table of the document that is listed;
and so it does if the command succeeds. -/
theorem exists_of_run_inspectCourse {c : Console} (hplain : c.display = .plain)
    (h : let o := (inspectCourse s config target).run c s.files
      o.exit = 0 ∨ o.transcript.stdout ≠ "") :
    ∃ settings actions d, Inspects s config target settings actions d ∧
      ((inspectCourse s config target).run c s.files).transcript.stdout =
        d.operationTable.plain := by
  have hremarks := (isQuiet_inspected s config target).remarks
  cases hresult : (inspected s config target).result with
  | error f =>
    rw [inspectCourse_eq, Course.bind_of_error hresult] at h
    rcases h with hexit | hstdout
    · exact absurd hexit (Course.exit_run_of_error hremarks)
    · exact absurd (Course.transcript_run_of_error hremarks).1 hstdout
  | ok r =>
    obtain ⟨d, models⟩ := r
    obtain ⟨settings, actions, hd⟩ := inspects_of_result hresult
    refine ⟨settings, actions, d, hd, ?_⟩
    have hwarnings : ∀ e ∈ (nameCollisions (models.map (·.2))).map fun c =>
        Effect.say (collisionWarning c), e.isRemark = true := fun e he => by
      obtain ⟨_, -, rfl⟩ := List.mem_map.mp he
      rfl
    rw [inspectCourse_eq, Course.bind_of_ok hresult] at h ⊢
    refine (Course.run_table hremarks hwarnings hplain).resolve_right ?_
    rintro ⟨hexit, hstdout⟩
    exact h.elim hexit (absurd hstdout)

end

/-- A listing that succeeds, or that puts out anything, is that of the document which is built from
the actions that the target names. Where tables are plain text it can be read back, whichever way it
is cut into lines: it gives the headers and then the rows of the operations, just if neither a
template nor a summary in the document has a tab or an end of a line in it. -/
theorem rows_of_inspect (s : Surroundings) (shared : Shared) (target : Option String)
    (hplain : (shared.console s.terminal).display = .plain)
    (h : let o := (Invocation.command shared (.inspect target)).run s
      o.exit = 0 ∨ o.transcript.stdout ≠ "") :
    ∃ settings actions d, Inspects s shared.config target settings actions d ∧
      (∀ row ∈ d.listed, row.length = 4) ∧
      ∀ cut : Text.Cutting,
        cut.rows ((Invocation.command shared (.inspect target)).run s).transcript.stdout =
            ["Method", "Path", "Operation ID", "Summary"] :: d.listed ↔
          ∀ p ∈ d.paths, ∀ o ∈ p.2.operations,
            cut.Keeps p.1 ∧ ∀ summary ∈ o.2.summary, cut.Keeps summary := by
  have hrun : (Invocation.command shared (.inspect target)).run s =
      (inspectCourse s shared.config target).run (shared.console s.terminal s.host) s.files := rfl
  dsimp only at h
  rw [hrun] at h ⊢
  obtain ⟨settings, actions, d, hd, hstdout⟩ :=
    exists_of_run_inspectCourse (c := shared.console s.terminal s.host) hplain h
  have hnamed : Document.Named d.paths := Document.named_of_extend Document.named_nil hd.built
  have hfour : ∀ row ∈ d.operationRows, row.length = 4 := fun row hrow => by
    obtain ⟨p, -, hrow⟩ := List.mem_flatMap.mp hrow
    obtain ⟨o, -, rfl⟩ := List.mem_map.mp hrow
    rfl
  have hne : ∀ row ∈ d.operationTable.headers :: d.operationTable.rows, row ≠ [] :=
    List.forall_mem_cons.mpr ⟨List.cons_ne_nil _ _, fun row hrow hnil => by
      rw [hnil] at hrow
      exact absurd (hfour [] hrow) (by decide)⟩
  have hrows := Document.operationRows_eq_listed hnamed
  refine ⟨settings, actions, d, hd, hrows ▸ hfour, fun cut => ?_⟩
  -- The names of operations need not be asked for: their cells keep what the templates keep.
  rw [← Document.keeps_operationTable_iff hnamed, ← Table.rows_plain_iff hne, ← hrows]
  exact Eq.congr (congrArg cut.rows hstdout) rfl

/-- An action for users that reads nothing and declares no results. -/
def onUsers (method : String) (summary : Value) : Action where
  method := method
  path := .noted (.literal (.str "users")) (.summary summary)
  query := .empty
  headers := .empty
  results := []
  body := .absent
  consumes := []
  produces := []

/-- A directory with nothing in it, and a module with these actions. -/
def around (actions : List Action) : Surroundings :=
  ⟨[⟨"api", [("ROUTES", .row .list (actions.map .action))]⟩], ∅, .empty, "/work", ⟨false, [], 80⟩,
    {}⟩

/-- How these actions are listed as plain text. -/
def listing (actions : List Action) : Outcome :=
  (Invocation.command ⟨true, false, false, false, none⟩ (.inspect (some "api:ROUTES"))).run
    (around actions)

theorem listing_eq (actions : List Action) :
    listing actions = (inspectCourse (around actions) none (some "api:ROUTES")).run
      ((Shared.mk true false false false none).console (around actions).terminal)
      (around actions).files :=
  rfl

theorem rowActions_map_action (classes : Registry) (target : String) (actions : List Action) :
    rowActions classes target (actions.map .action) = .ok actions := by
  induction actions with
  | nil => rfl
  | cons a actions ih => rw [List.map_cons, rowActions, ih]; rfl

theorem eq_of_inspects_around {settings : Config} {actions loaded : List Action} {d : Document}
    (h : Inspects (around actions) none (some "api:ROUTES") settings loaded d) :
    loaded = actions ∧ (Document.build ∅ .standard false none none actions).result = .ok d := by
  obtain ⟨hsettings, ⟨t, ht, hroutes⟩, hbuilt⟩ := h
  have hdefault : Config.resolve (around actions).files (around actions).root
      (around actions).terminal.environment [] none (around actions).host =
        .ok ⟨"API", "1.0.0", none, none, none, [], [], [], .json, false, none⟩ := by rfl
  have hload : loadRoutes (around actions).classes (around actions).modules "api:ROUTES" =
      .ok actions := rowActions_map_action ∅ "api:ROUTES" actions
  cases hsettings.symm.trans hdefault
  cases ht
  cases hroutes.symm.trans hload
  exact ⟨rfl, hbuilt⟩

theorem rows_of_inspect_users :
    let actions := [onUsers "GET" (.str "List users"), onUsers "POST" .null]
    (listing actions).exit = 0 ∧
      ∃ settings d, Inspects (around actions) none (some "api:ROUTES") settings actions d ∧
        d.listed = [["GET", "/users", "getUsers", "List users"],
          ["POST", "/users", "postUsers", "-"]] ∧
        Text.Cutting.atEnds.rows (listing actions).transcript.stdout =
          ["Method", "Path", "Operation ID", "Summary"] :: d.listed := by
  intro actions
  have hexit : (listing actions).exit = 0 := by decide +kernel
  obtain ⟨settings, loaded, d, hd, -, hcut⟩ :=
    rows_of_inspect (around actions) ⟨true, false, false, false, none⟩ (some "api:ROUTES") rfl
      (.inl hexit)
  obtain ⟨rfl, hbuilt⟩ := eq_of_inspects_around hd
  have hchecked : ∀ e ∈ (Document.build ∅ .standard false none none actions).result.toOption,
      e.listed = [["GET", "/users", "getUsers", "List users"],
        ["POST", "/users", "postUsers", "-"]] ∧
      ∀ p ∈ e.paths, ∀ o ∈ p.2.operations, Text.Cutting.atEnds.Keeps p.1 ∧
        ∀ summary ∈ o.2.summary, Text.Cutting.atEnds.Keeps summary := by decide +kernel
  obtain ⟨hlisted, hkeeps⟩ := hchecked d (by rw [hbuilt]; rfl)
  refine ⟨hexit, settings, d, hd, hlisted, ?_⟩
  rw [listing]
  exact (hcut _).mpr hkeeps

/-- A summary with a tab in it makes two cells of what the document has as one. -/
theorem listing_tabbed :
    let actions := [onUsers "GET" (.str "List\tusers")]
    (listing actions).exit = 0 ∧
      ∃ settings d, Inspects (around actions) none (some "api:ROUTES") settings actions d ∧
        d.listed = [["GET", "/users", "getUsers", "List\tusers"]] ∧
        ∀ cut ∈ [Text.Cutting.atFeeds, Text.Cutting.atEnds],
          cut.rows (listing actions).transcript.stdout ≠
            ["Method", "Path", "Operation ID", "Summary"] :: d.listed := by
  intro actions
  have hexit : (listing actions).exit = 0 := by decide +kernel
  obtain ⟨settings, loaded, d, hd, -⟩ :=
    exists_of_run_inspectCourse rfl (.inl (listing_eq actions ▸ hexit))
  obtain ⟨rfl, hbuilt⟩ := eq_of_inspects_around hd
  have hchecked : ∀ e ∈ (Document.build ∅ .standard false none none actions).result.toOption,
      e.listed = [["GET", "/users", "getUsers", "List\tusers"]] := by decide +kernel
  have hlisted := hchecked d (by rw [hbuilt]; rfl)
  refine ⟨hexit, settings, d, hd, hlisted, ?_⟩
  rw [hlisted]
  decide +kernel

end RouteAtlas
