import RouteAtlas.Proofs.DefinitionFold
import RouteAtlas.Proofs.RewrittenBuild
import RouteAtlas.Proofs.SummarySearch

/-!
An action with a choice of two paths and the two actions with one of them each. Where no template is
one of both paths, neither path shows in the operations of the other, so that all of them are alike
but for their summaries: the choice has one summary for both of its sides.
-/

namespace RouteAtlas

variable {classes : Registry} {formats : Formats}

def Operation.withoutSummary (op : Operation) : Operation := { op with summary := none }

namespace PathItem

def mapOperations (f : Operation → Operation) (item : PathItem) : PathItem where
  get := item.get.map f
  put := item.put.map f
  post := item.post.map f
  delete := item.delete.map f
  patch := item.patch.map f
  options := item.options.map f
  parameters := item.parameters

theorem mapOperations_setSlot (f : Operation → Operation) (item : PathItem) (v : Verb)
    (op : Operation) :
    (item.setSlot v op).mapOperations f = (item.mapOperations f).setSlot v (f op) := by
  cases v <;> rfl

end PathItem

namespace Document

/-- Paths with something done to each operation. -/
def mapOperations (f : Operation → Operation) (paths : List (String × PathItem)) :
    List (String × PathItem) := paths.map fun p => (p.1, p.2.mapOperations f)

theorem mapOperations_putOperations (f : Operation → Operation) (paths : List (String × PathItem))
    (ops : List (String × Verb × Operation)) :
    mapOperations f (putOperations paths ops) =
      putOperations (mapOperations f paths) (ops.map fun o => (o.1, o.2.1, f o.2.2)) :=
  map_putOperations rfl (PathItem.mapOperations_setSlot f) paths ops

end Document

namespace PathRule

variable {l r : PathRule}

/-- A choice has the sequences of its left side before those of its right side. -/
theorem exists_of_linearize_either {m : Linear} (h : (either l r).linearize = .ok m) :
    ∃ ml mr, l.linearize = .ok ml ∧ r.linearize = .ok mr ∧
      m.sequences = ml.sequences ++ mr.sequences := by
  have hseq := sequences_of_linearize (either l r)
  rw [h, branches, Branch.results, List.mapM_append] at hseq
  obtain ⟨ss, hss, hseq⟩ := exists_of_bind_ok hseq.symm
  obtain ⟨us, hus, hseq⟩ := exists_of_bind_ok hseq
  obtain ⟨ml, hml, rfl⟩ := exists_of_map_ok ((sequences_of_linearize l).trans hss)
  obtain ⟨mr, hmr, rfl⟩ := exists_of_map_ok ((sequences_of_linearize r).trans hus)
  exact ⟨ml, mr, hml, hmr, (Except.ok.inj hseq).symm⟩

/-- The sequences of a path with their templates. -/
structure Rendered (r : PathRule) (m : Linear) (ts : List String) : Prop where
  linearize : r.linearize = .ok m
  templates : m.sequences.mapM Step.rendered = .ok ts

theorem Rendered.templates_eq {m : Linear} {ts : List String} (h : r.Rendered m ts) :
    r.templates = .ok ts := by
  rw [PathRule.templates, h.linearize]
  exact h.templates

/-- Every path has a sequence, and so a template. -/
theorem Rendered.ne_nil {m : Linear} {ts : List String} (h : r.Rendered m ts) : ts ≠ [] := by
  have hne : m.sequences ≠ [] := by
    rw [sequences_eq_of_linearize h.linearize]
    exact fun hnil => r.branches_ne_nil (List.map_eq_nil_iff.mp hnil)
  obtain ⟨s, ss, hs⟩ := List.exists_cons_of_ne_nil hne
  have hmap := h.templates
  rw [hs] at hmap
  obtain ⟨t, ts, -, -, rfl⟩ := exists_of_mapM_cons hmap
  exact List.cons_ne_nil t ts

theorem exists_rendered_of_either {ts : List String} (h : (either l r).templates = .ok ts) :
    ∃ m ml mr ts₁ ts₂, (either l r).Rendered m ts ∧ l.Rendered ml ts₁ ∧ r.Rendered mr ts₂ ∧
      m.sequences = ml.sequences ++ mr.sequences ∧ ts = ts₁ ++ ts₂ := by
  obtain ⟨m, hm, h⟩ := exists_of_bind_ok h
  obtain ⟨ml, mr, hml, hmr, hseq⟩ := exists_of_linearize_either hm
  have happend := h
  rw [hseq, List.mapM_append] at happend
  obtain ⟨ts₁, h₁, happend⟩ := exists_of_bind_ok happend
  obtain ⟨ts₂, h₂, happend⟩ := exists_of_bind_ok happend
  exact ⟨m, ml, mr, ts₁, ts₂, ⟨hm, h⟩, ⟨hml, h₁⟩, ⟨hmr, h₂⟩, hseq, (Except.ok.inj happend).symm⟩

/-- Sequences of other templates add no parameters. -/
theorem foldlM_addParameters_of_not_mem {ss : List (List Step)} {ts : List String}
    (h : ss.mapM Step.rendered = .ok ts) {t : String} (ht : t ∉ ts)
    (acc : List SimpleParameter) :
    ss.foldlM (addParameters classes (some t)) acc = .ok acc := by
  induction ss generalizing ts with
  | nil => rfl
  | cons s ss ih =>
    obtain ⟨u, us, hu, hus, rfl⟩ := exists_of_mapM_cons h
    obtain ⟨hne, hrest⟩ := not_or.mp (List.mem_cons.not.mp ht)
    have hskip : addParameters classes (some t) acc s = .ok acc := by
      rw [addParameters, isChosen, hu]
      show (if decide (u = t) then _ else _) = _
      rw [decide_eq_false (Ne.symm hne)]
      rfl
    rw [List.foldlM_cons, hskip]
    exact ih hus hrest

variable {m ml mr : Linear} {ts ts₁ ts₂ : List String}

/-- At a template that only one side has, a choice has the parameters of that side. -/
theorem parameters_either_left (hl : l.Rendered ml ts₁) (hr : r.Rendered mr ts₂)
    (h : (either l r).linearize = .ok m) (hm : m.sequences = ml.sequences ++ mr.sequences)
    {t : String} (ht : t ∉ ts₂) :
    l.parameters classes (some t) = (either l r).parameters classes (some t) := by
  rw [parameters_eq, parameters_eq, h, hl.linearize]
  show ml.sequences.foldlM _ [] = m.sequences.foldlM _ []
  rw [hm, List.foldlM_append]
  cases ml.sequences.foldlM (addParameters classes (some t)) [] with
  | error e => rfl
  | ok acc => exact (foldlM_addParameters_of_not_mem hr.templates ht acc).symm

theorem parameters_either_right (hl : l.Rendered ml ts₁) (hr : r.Rendered mr ts₂)
    (h : (either l r).linearize = .ok m) (hm : m.sequences = ml.sequences ++ mr.sequences)
    {t : String} (ht : t ∉ ts₁) :
    r.parameters classes (some t) = (either l r).parameters classes (some t) := by
  rw [parameters_eq, parameters_eq, h, hr.linearize]
  show mr.sequences.foldlM _ [] = m.sequences.foldlM _ []
  rw [hm, List.foldlM_append, foldlM_addParameters_of_not_mem hl.templates ht]
  rfl

theorem summary_either (hl : l.Rendered ml ts₁) (hr : r.Rendered mr ts₂)
    (h : (either l r).linearize = .ok m) (hm : m.sequences = ml.sequences ++ mr.sequences) :
    ∃ sl sr, l.summary = .ok sl ∧ r.summary = .ok sr ∧
      (either l r).summary = .ok (sl.or sr) := by
  refine ⟨ml.sequences.findSome? summaryOf, mr.sequences.findSome? summaryOf, ?_, ?_, ?_⟩
  · rw [summary, hl.linearize]; rfl
  · rw [summary, hr.linearize]; rfl
  · rw [summary, h, ← List.findSome?_append, ← hm]; rfl

/-- The summary that the operations of a path have: a text, or none. -/
def Tells (r : PathRule) (text : Option String) : Prop :=
  ∃ s, r.summary = .ok s ∧ Check.nullable Check.text (s.getD .null) = .ok text

theorem Tells.unique {text text' : Option String} (h : r.Tells text) (h' : r.Tells text') :
    text = text' := by
  obtain ⟨s, hs, htext⟩ := h
  obtain ⟨s', hs', htext'⟩ := h'
  cases hs.symm.trans hs'
  exact Checked.ok.inj (htext.symm.trans htext')

theorem ne_null_of_summary {v : Value} (h : r.summary = .ok (some v)) : v ≠ .null := by
  obtain ⟨n, -, hn⟩ := exists_of_map_ok h
  obtain ⟨s, -, hs⟩ := List.exists_of_findSome?_eq_some hn
  rintro rfl
  unfold summaryOf at hs
  split at hs
  · cases hs
  next hne => exact hne hs

theorem exists_text_of_ne_null {v : Value} (hv : v ≠ .null) {text : Option String}
    (h : Check.nullable Check.text v = .ok text) : ∃ s, text = some s := by
  cases v with
  | null => exact absurd rfl hv
  | _ =>
    obtain ⟨s, -, rfl⟩ := Checked.exists_of_map_ok h
    exact ⟨s, rfl⟩

/-- A choice tells what its left side tells, or else what its right side does. -/
theorem tells_of_either {sl sr : Option Value} (hl : l.summary = .ok sl) (hr : r.summary = .ok sr)
    (h : (either l r).summary = .ok (sl.or sr)) (hmsg : ∀ v, sr = some v → ∃ s, v = .str s)
    {text : Option String} (htext : (either l r).Tells text) :
    ∃ first second, l.Tells first ∧ r.Tells second ∧ text = first.or second := by
  obtain ⟨s, hs, htext⟩ := htext
  cases hs.symm.trans h
  cases sl with
  | none => exact ⟨none, text, ⟨none, hl, rfl⟩, ⟨sr, hr, htext⟩, rfl⟩
  | some v =>
    obtain ⟨x, rfl⟩ := exists_text_of_ne_null (ne_null_of_summary hl) htext
    cases sr with
    | none => exact ⟨some x, none, ⟨some v, hl, htext⟩, ⟨none, hr, rfl⟩, rfl⟩
    | some w =>
      obtain ⟨y, rfl⟩ := hmsg w rfl
      exact ⟨some x, some y, ⟨some v, hl, htext⟩, ⟨some (.str y), hr, rfl⟩, rfl⟩

end PathRule

namespace Action

variable {a : Action}

theorem tells_of_operation {t : String} {op : Operation}
    (h : a.operation classes formats t = .ok op) : a.path.Tells op.summary := by
  obtain ⟨s, hs, h⟩ := exists_of_bind_ok h
  obtain ⟨_, _, h⟩ := exists_of_bind_ok h
  obtain ⟨_, _, h⟩ := exists_of_bind_ok h
  obtain ⟨_, _, h₁, _, rfl⟩ := Checked.exists_of_seq_ok (Checked.exists_of_toExcept_ok h)
  obtain ⟨_, _, h₂, _, rfl⟩ := Checked.exists_of_seq_ok h₁
  obtain ⟨_, htext, rfl⟩ := Checked.exists_of_map_ok h₂
  exact ⟨s, hs, Checked.of_at htext⟩

/-- With a path that has the same parameters at a template, the operation is the same but for the
summary of the path. -/
theorem operation_of_path {t : String} {op : Operation}
    (h : a.operation classes formats t = .ok op) {r : PathRule} {text : Option String}
    (hr : r.Tells text)
    (hps : r.parameters classes (some t) = a.path.parameters classes (some t)) :
    { a with path := r }.operation classes formats t = .ok { op with summary := text } := by
  obtain ⟨s, hs, htext⟩ := hr
  have hparameters : { a with path := r }.parameters classes formats (some t) =
      a.parameters classes formats (some t) := by
    rw [parameters, hps, parameters]
    rfl
  obtain ⟨_, _, h⟩ := exists_of_bind_ok h
  obtain ⟨ps, hps, h⟩ := exists_of_bind_ok h
  obtain ⟨rs, hrs, h⟩ := exists_of_bind_ok h
  obtain ⟨_, _, h₁, hproduces, rfl⟩ := Checked.exists_of_seq_ok (Checked.exists_of_toExcept_ok h)
  obtain ⟨_, _, h₂, hconsumes, rfl⟩ := Checked.exists_of_seq_ok h₁
  obtain ⟨_, _, rfl⟩ := Checked.exists_of_map_ok h₂
  have hresponses : { a with path := r }.responses classes formats = .ok rs := hrs
  rw [operation, hs, hparameters, hps, hresponses]
  show Checked.toExcept (_ <$> Checked.at_ "summary" _ <*> Checked.at_ "consumes" _ <*>
    Checked.at_ "produces" _) = _
  rw [htext, hconsumes, hproduces]
  rfl

/-- With a path that has the same parameters at some templates, an action contributes to these the
same operations but for the summary of the path. -/
theorem operations_of_path {v : Verb} {ts : List String} {ops : List (String × Verb × Operation)}
    (h : a.operations classes formats v ts = .ok ops) {r : PathRule} {text : Option String}
    (hr : r.Tells text) (hps : ∀ t ∈ ts,
      r.parameters classes (some t) = a.path.parameters classes (some t)) :
    { a with path := r }.operations classes formats v ts =
      .ok (ops.map fun o => (o.1, o.2.1, { o.2.2 with summary := text })) := by
  induction ts generalizing ops with
  | nil =>
    cases Except.ok.inj h
    rfl
  | cons t ts ih =>
    obtain ⟨ht, hts⟩ := List.forall_mem_cons.mp hps
    obtain ⟨op, hop, h⟩ := exists_of_bind_ok h
    obtain ⟨rest, hrest, h⟩ := exists_of_bind_ok h
    cases Except.ok.inj h
    rw [operations, operation_of_path hop hr ht, ih hrest hts]
    rfl

theorem exists_of_operations_append {v : Verb} {ts₁ ts₂ : List String}
    {ops : List (String × Verb × Operation)}
    (h : a.operations classes formats v (ts₁ ++ ts₂) = .ok ops) :
    ∃ ops₁ ops₂, a.operations classes formats v ts₁ = .ok ops₁ ∧
      a.operations classes formats v ts₂ = .ok ops₂ ∧ ops = ops₁ ++ ops₂ := by
  rw [operations_eq_mapM, List.mapM_append] at h
  obtain ⟨ops₁, h₁, h⟩ := exists_of_bind_ok h
  obtain ⟨ops₂, h₂, h⟩ := exists_of_bind_ok h
  rw [← operations_eq_mapM] at h₁ h₂
  exact ⟨ops₁, ops₂, h₁, h₂, (Except.ok.inj h).symm⟩

/-- An action that documents any template has a summary that can stand there. -/
theorem exists_tells_of_operations {v : Verb} {ts : List String}
    {ops : List (String × Verb × Operation)} (h : a.operations classes formats v ts = .ok ops)
    (hts : ts ≠ []) : ∃ text, a.path.Tells text := by
  obtain ⟨hnames, hops⟩ := operations_spec h
  have hne : ops ≠ [] := fun hnil => hts (by rw [← hnames, hnil, List.map_nil])
  obtain ⟨o, rest, rfl⟩ := List.exists_cons_of_ne_nil hne
  exact ⟨o.2.2.summary, tells_of_operation (hops o List.mem_cons_self).2⟩

theorem contribution_of_path {v : Verb} {r : PathRule} {m : Linear} {ts : List String}
    {ops : List (String × Verb × Operation)} {ms : Models} (hv : Verb.ofMethod a.method = .ok v)
    (hr : r.Rendered m ts) (hops : { a with path := r }.operations classes formats v ts = .ok ops)
    (hms : a.collect classes formats [] = .ok ms) :
    { a with path := r }.contribution classes formats = .ok ⟨ops, ms⟩ := by
  have hms : { a with path := r }.collect classes formats [] = .ok ms := hms
  rw [contribution, hv, hr.templates_eq]
  show (Action.operations classes formats { a with path := r } v ts).bind _ = _
  rw [hops]
  show (Action.collect classes formats { a with path := r } []).bind _ = _
  rw [hms]
  rfl

end Action

namespace Document

theorem exists_build_of_contributions {a b : Action} {c c' : Contribution} (info : Option Info)
    (previous : Option Document) (ha : a.contribution classes formats = .ok c)
    (hb : b.contribution classes formats = .ok c') :
    ∃ e, (build classes formats false info previous [a, b]).result = .ok e ∧
      e.paths = putOperations (start info previous).paths (c.operations ++ c'.operations) := by
  obtain ⟨⟨d, ts⟩, hd⟩ := exists_apply (start info previous) c
  obtain ⟨⟨e, us⟩, he⟩ := exists_apply d c'
  have hda : (start info previous).merge classes formats false a = .ok (d, ts) := by
    rw [merge, ha]
    exact hd
  have heb : d.merge classes formats false b = .ok (e, us) := by
    rw [merge, hb]
    exact he
  refine ⟨e, ?_, ?_⟩
  · rw [build, extend, run_cons_of_step _ hda, run_cons_of_step _ heb]
    rfl
  · rw [paths_of_apply he, paths_of_apply hd, putOperations, putOperations, putOperations,
      List.foldl_append]

/-- An action with a choice of paths that have no template in common documents what the two actions
with one of the paths each document, but for the summaries; and on each of its templates stands the
summary of the first path or, where that has none, of the second. -/
theorem paths_of_alternatives {a : Action} {l r : PathRule} {info : Option Info}
    {previous : Option Document} {d : Document} (ha : a.path = .either l r)
    (hapart : ({ a with path := l } : Action).templates.Disjoint
      ({ a with path := r } : Action).templates)
    (hmsg : ∀ v, r.summary = .ok (some v) → ∃ s, v = .str s)
    (h : (build classes formats false info previous [a]).result = .ok d) :
    ∃ e first second,
      (build classes formats false info previous
        [{ a with path := l }, { a with path := r }]).result = .ok e ∧
      mapOperations .withoutSummary d.paths = mapOperations .withoutSummary e.paths ∧
      l.Tells first ∧ r.Tells second ∧
      ∀ t v, a.writes t v = true →
        ∃ op, operationAt d.paths t v = some op ∧ op.summary = first.or second := by
  obtain ⟨d', _, hmerge, hrest⟩ := exists_of_run_cons h
  cases Except.ok.inj hrest
  obtain ⟨c, hc, happly⟩ := exists_of_merge hmerge
  obtain ⟨v, ts, hv, hts, hops, hms⟩ := Action.exists_of_contribution hc
  rw [ha] at hts
  obtain ⟨m, ml, mr, ts₁, ts₂, hm, hl, hr, hseq, rfl⟩ := PathRule.exists_rendered_of_either hts
  have hapart : ts₁.Disjoint ts₂ := by
    simpa [Action.templates, hl.templates_eq, hr.templates_eq] using hapart
  obtain ⟨sl, sr, hsl, hsr, hsummary⟩ := PathRule.summary_either hl hr hm.linearize hseq
  obtain ⟨text, htext⟩ := Action.exists_tells_of_operations hops hm.ne_nil
  rw [ha] at htext
  obtain ⟨first, second, hfirst, hsecond, rfl⟩ := PathRule.tells_of_either hsl hsr hsummary
    (fun w hw => hmsg w (hsr.trans (congrArg _ hw))) htext
  obtain ⟨ops₁, ops₂, h₁, h₂, hcops⟩ := Action.exists_of_operations_append hops
  have hleft := Action.operations_of_path h₁ hfirst fun t ht => by
    rw [ha, PathRule.parameters_either_left hl hr hm.linearize hseq (hapart ht)]
  have hright := Action.operations_of_path h₂ hsecond fun t ht => by
    rw [ha, PathRule.parameters_either_right hl hr hm.linearize hseq fun ht' => hapart ht' ht]
  obtain ⟨e, he, hpaths⟩ := exists_build_of_contributions info previous
    (Action.contribution_of_path hv hl hleft hms) (Action.contribution_of_path hv hr hright hms)
  refine ⟨e, first, second, he, ?_, hfirst, hsecond, fun t w hw => ?_⟩
  · rw [hpaths, paths_of_apply happly, hcops, mapOperations_putOperations,
      mapOperations_putOperations]
    simp [Operation.withoutSummary, Function.comp_def]
  · have hat := (paths_of_merge hmerge).1 t w
    rw [if_pos hw] at hat
    obtain ⟨op, hop, hat⟩ := hat
    have htells := Action.tells_of_operation hop
    rw [ha] at htells
    exact ⟨op, hat, htells.unique htext⟩

/-- All users, or the rest of a path below them. -/
def usersOrBelow : PathRule := .both (.literal (.str "users")) (.either .root .tail)

/-- One of the people, under a summary. -/
def onePerson : PathRule :=
  .noted (.both (.literal (.str "people")) (.capture (.str "id") (.scalar .int) .null))
    (.summary (.str "Find"))

theorem paths_of_alternatives_people :
    ∃ d e, (build ∅ .standard false none none
        [{ usersAction "All" with path := .either usersOrBelow onePerson }]).result = .ok d ∧
      (build ∅ .standard false none none [{ usersAction "All" with path := usersOrBelow },
        { usersAction "All" with path := onePerson }]).result = .ok e ∧
      mapOperations .withoutSummary d.paths = mapOperations .withoutSummary e.paths ∧
      ∃ op, operationAt d.paths "/users" .get = some op ∧ op.summary = some "Find" := by
  have hok : (build ∅ .standard false none none
      [{ usersAction "All" with path := .either usersOrBelow onePerson }]).result.isOk = true := by
    cbv
  obtain ⟨d, hd⟩ := exists_of_isOk hok
  have hleft : ({ usersAction "All" with path := usersOrBelow } : Action).templates =
      ["/users", "/users/\x7btail...\x7d"] := by cbv
  have hright : ({ usersAction "All" with path := onePerson } : Action).templates =
      ["/people/\x7bid\x7d"] := by cbv
  have hfind : onePerson.summary = .ok (some (.str "Find")) := by cbv
  have hnone : usersOrBelow.summary = .ok none := by cbv
  have hwrites : ({ usersAction "All" with path := .either usersOrBelow onePerson } :
      Action).writes "/users" .get = true := by cbv
  obtain ⟨e, first, second, he, hpaths, hfirst, hsecond, hsummary⟩ :=
    paths_of_alternatives rfl (by rw [hleft, hright]; simp)
      (fun v hv => ⟨"Find", (Option.some.inj (Except.ok.inj (hfind.symm.trans hv))).symm⟩) hd
  obtain ⟨op, hat, hop⟩ := hsummary _ _ hwrites
  cases hfirst.unique ⟨none, hnone, rfl⟩
  cases hsecond.unique ⟨some (.str "Find"), hfind, rfl⟩
  exact ⟨d, e, hd, he, hpaths, op, hat, hop⟩

end Document

end RouteAtlas
