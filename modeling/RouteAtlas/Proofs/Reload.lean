import RouteAtlas.Document.Dump
import RouteAtlas.Document.Load
import RouteAtlas.Proofs.Coverage
import RouteAtlas.Proofs.DefinitionFold
import RouteAtlas.Proofs.DocumentRoundTrip
import RouteAtlas.Proofs.FileContent
import RouteAtlas.Proofs.JsonRoundTrip
import RouteAtlas.Proofs.ParameterLists

/-! A built document that is written to a file comes back from it in its stored form. -/

namespace RouteAtlas

variable {classes : Registry} {formats : Formats}

theorem Value.isTextOrNull_ofText? (o : Option String) : (ofText? o).isTextOrNull = true := by
  cases o <;> rfl

theorem Step.isTextOrNull_of_captureParameter {n d : Value} {t : Ty} {p : SimpleParameter}
    (h : captureParameter classes n t d = .ok p) : p.description.isTextOrNull = true := by
  obtain ⟨_, _, h⟩ := exists_of_bind_ok h
  obtain ⟨r, -, rfl⟩ := exists_of_checkedParameter h
  exact Value.isTextOrNull_ofText? _

/-- Where texts are noted on the leaves of a rule, its parameters are described by texts. -/
theorem ParamRule.isTextOrNull_of_collect {α : Type} {make : α → Except Fault SimpleParameter}
    {kind : String} {r : ParamRule α} (hr : ∀ p ∈ r.places, p.text.isTextOrNull = true)
    (hbare : ∀ a p, make a = .ok p → p.description = .null) {ps : List SimpleParameter}
    (h : r.collect make kind = .ok ps) : ∀ p ∈ ps, p.description.isTextOrNull = true := by
  obtain ⟨param, -, rfl⟩ := exists_param_of_collect hbare h
  simp only [List.forall_mem_map]
  intro p hp
  simp only [Place.documented, Place.description]
  split
  · exact hr p hp
  · rfl

namespace Action

/-- What is noted on the leaves of the query and of the headers are texts. -/
structure HasTexts (a : Action) : Prop where
  query : ∀ p ∈ a.query.places, p.text.isTextOrNull = true
  headers : ∀ p ∈ a.headers.places, p.text.isTextOrNull = true

theorem readable_of_parameters {a : Action} (ha : a.HasTexts) {template : Option String}
    {ps : List Parameter} (h : a.parameters classes formats template = .ok ps) :
    ∀ p ∈ ps, p.Readable := by
  obtain ⟨path, query, headers, body, hpath, hquery, hheaders, hbody, rfl⟩ :=
    exists_of_parameters h
  obtain ⟨linear, -, hcaptured⟩ := PathRule.capturedIn_of_parameters hpath
  have htexts := ParamRule.isTextOrNull_of_collect ha.query
    (fun _ _ => QueryLeaf.description_of_parameter) hquery
  have hheaderTexts := ParamRule.isTextOrNull_of_collect ha.headers
    (fun _ _ => HeaderLeaf.description_of_parameter) hheaders
  simp only [List.forall_mem_append, List.forall_mem_map]
  refine ⟨⟨⟨fun p hp => ?_, htexts⟩, hheaderTexts⟩, fun p hp => ?_⟩
  · rcases hcaptured.captured p hp with rfl | ⟨s, hs, n, t, d, hstep, hq⟩
    · rfl
    · exact Step.isTextOrNull_of_captureParameter hq
  · unfold bodyParameter at hbody
    split at hbody
    next =>
      obtain ⟨s, _, rfl⟩ := exists_of_map_ok hbody
      rw [List.mem_singleton.mp hp]
      exact fun hn => by cases hn
    next =>
      cases Except.ok.inj hbody
      cases hp

theorem nodup_of_responsesFrom {rs : List ResultInfo} {acc out : List (String × Response)}
    (hacc : (acc.map (·.1)).Nodup) (h : responsesFrom classes formats acc rs = .ok out) :
    (out.map (·.1)).Nodup := by
  induction rs generalizing acc with
  | nil =>
    cases Except.ok.inj h
    exact hacc
  | cons r rs ih =>
    obtain ⟨o, _, h⟩ := exists_of_bind_ok h
    cases o with
    | none => exact ih hacc h
    | some e =>
      refine ih ?_ h
      rw [names_replaceOrAppend]
      exact nodup_addName e.1 hacc

theorem readable_of_operation {a : Action} (ha : a.HasTexts) {template : String} {op : Operation}
    (h : a.operation classes formats template = .ok op) : op.Readable := by
  obtain ⟨hps, hrs⟩ := exists_of_operation h
  exact ⟨readable_of_parameters ha hps, nodup_of_responsesFrom (by simp) hrs⟩

end Action

theorem IsModelOf.readable {d : ClassDecl} {fields : List Field} {m : String × Schema}
    (h : IsModelOf classes d fields m) : m.2.Readable := by
  obtain ⟨-, -, ps, -, hps⟩ := h.spec
  rw [Schema.Readable, hps, lastOfNames_eq_putAll]
  exact nodup_names_putAll List.nodup_nil

namespace Document

theorem readable_itemAt {paths : List (String × PathItem)} (h : ∀ e ∈ paths, e.2.Readable)
    (t : String) : (itemAt paths t).Readable := by
  unfold itemAt
  cases hl : paths.lookup t with
  | none =>
    refine ⟨fun v op hop => ?_, fun p hp => by cases hp⟩
    cases v <;> cases hop
  | some item => exact h _ (mem_of_lookup hl)

theorem readable_setSlot {item : PathItem} {v : Verb} {op : Operation} (h : item.Readable)
    (hop : op.Readable) : (item.setSlot v op).Readable := by
  refine ⟨fun w op' hw => ?_, fun p hp => ?_⟩
  · by_cases hwv : w = v
    · subst hwv
      rw [PathItem.slot_setSlot_self] at hw
      cases hw
      exact hop
    · rw [PathItem.slot_setSlot_of_ne _ _ hwv] at hw
      exact h.operations w op' hw
  · rw [PathItem.parameters_setSlot] at hp
    exact h.parameters p hp

theorem readable_putOperations {paths : List (String × PathItem)}
    {ops : List (String × Verb × Operation)} (hn : (paths.map (·.1)).Nodup)
    (h : ∀ e ∈ paths, e.2.Readable) (hops : ∀ o ∈ ops, o.2.2.Readable) :
    ((putOperations paths ops).map (·.1)).Nodup ∧
      ∀ e ∈ putOperations paths ops, e.2.Readable := by
  induction ops generalizing paths with
  | nil => exact ⟨hn, h⟩
  | cons o ops ih =>
    refine ih ?_ (fun e he => ?_) fun o ho => hops o (List.mem_cons_of_mem _ ho)
    · rw [putOperation, names_replaceOrAppend]
      exact nodup_addName o.1 hn
    · rcases mem_replaceOrAppend he with rfl | he
      · exact readable_setSlot (readable_itemAt h o.1) (hops o List.mem_cons_self)
      · exact h e he

theorem readable_of_merge {strict : Bool} {d e : Document} {a : Action} {ts : List Takeover}
    (ha : a.HasTexts) (hd : d.Readable) (h : d.merge classes .standard strict a = .ok (e, ts)) :
    e.Readable := by
  obtain ⟨c, hc, h⟩ := exists_of_merge h
  obtain ⟨m, -, rfl⟩ := exists_of_apply h
  obtain ⟨_, _, _, _, hops, _⟩ := Action.exists_of_contribution hc
  have hcol := Action.collected_of_contribution hc
  have hnodup := hcol.nodup (by simp)
  have hpaths := readable_putOperations hd.paths hd.items fun o ho =>
    Action.readable_of_operation ha ((Action.operations_spec hops).2 o ho).2
  refine ⟨hpaths.1, hpaths.2, ?_, fun s hs => ?_⟩
  · rw [definitions_of_apply hnodup h]
    exact nodup_names_putAll hd.definitions
  · rcases mem_definitions_of_apply hnodup h hs with ⟨k, hk, rfl⟩ | hs
    · obtain ⟨_, _, hmodel, -⟩ := (hcol.described k hk).resolve_left (by simp)
      exact hmodel.readable
    · exact hd.schemas s hs

theorem readable_ofInfo (info : Info) : (ofInfo info).Readable :=
  ⟨List.nodup_nil, by simp [ofInfo], List.nodup_nil, by simp [ofInfo]⟩

/-- Building keeps a document such that it can be read back. -/
theorem readable_of_extend {strict : Bool} {d e : Document} {actions : List Action}
    (hactions : ∀ a ∈ actions, a.HasTexts) (hd : d.Readable)
    (h : (d.extend classes .standard strict actions).result = .ok e) : e.Readable :=
  run_invariant (P := Readable) hd
    (fun a ha _ _ _ hd' hstep => readable_of_merge (hactions a ha) hd' hstep) h

end Document

variable {host : Host}

theorem Document.ofText_of_data {path text : String} {format : Option Format} {d : Document}
    (hd : d.Readable) (hdata : fileData host format text = .ok d.encode) :
    ofText path format text host = .ok d.stored := by
  have hobject : requireObject d.encode = .ok d.encode := rfl
  simp only [ofText, hdata, bind, Except.bind, hobject, ofData_encode hd]
  rfl

/-- A file with the text of a document gives back its stored form, where reading the text as data
gives what was written. -/
theorem FileTree.load_of_dump {t : FileTree} {path : String} {content : Bytes} {f : Format}
    {d : Document} (hd : d.Readable)
    (hread : t.readNamed? (FilePath.ofString path) = .ok (some content))
    (htext : textOf content = .ok (d.dump f))
    (hdata : fileData host (FilePath.ofString path).format? (d.dump f) = .ok d.encode) :
    t.load path host = .ok d.stored := by
  unfold load
  simp only [hread, htext, Document.ofText_of_data hd hdata]

/-- Where the name of a file does not say otherwise, JSON in it is read as what was written. -/
theorem fileData_pretty {format : Option Format} (hformat : format ≠ some .yaml) {v : Value}
    (hv : Json.holds host 0 v = true) : fileData host format (Json.pretty v) = .ok v := by
  rw [fileData, if_neg hformat, Json.parse_pretty hv]

/-- A document of which JSON holds all values comes back from a JSON file in its stored form. -/
theorem FileTree.load_of_json {t : FileTree} {path : String} {d : Document} (hd : d.Readable)
    (hformat : (FilePath.ofString path).format? ≠ some .yaml)
    (hv : Json.holds host 0 d.encode = true)
    (hread : t.readNamed? (FilePath.ofString path) = .ok (some (d.dump .json).toUTF8.toList)) :
    t.load path host = .ok d.stored :=
  load_of_dump (f := .json) hd hread (textOf_toUTF8 (Json.return_not_mem_pretty hv))
    (fileData_pretty hformat hv)

end RouteAtlas
