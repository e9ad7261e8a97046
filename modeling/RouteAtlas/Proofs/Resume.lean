import Mathlib
import RouteAtlas.Proofs.Collisions
import RouteAtlas.Proofs.PathFold
import RouteAtlas.Proofs.Reload

/-!
A build that is broken off, written to a file and taken up again from it comes to the same document
as one that runs through, where no short names collide. The loaded document has lost the identities
of its models, so models that are met again are put in anew where the other build leaves them out;
but what is put in is what stands there.
-/

namespace RouteAtlas

variable {classes : Registry}

/-- The names of the classes are names as programs write them. -/
def Registry.IsNamed (classes : Registry) : Prop :=
  ∀ k d, classes.find? k = some d → Text.isName d.name.toList = true

theorem Text.not_mem_of_isName {cs : List Char} (h : isName cs = true) : '.' ∉ cs := by
  have hdot : isNamePart '.' = false := by decide +kernel
  cases cs with
  | nil => simp
  | cons c cs =>
    simp only [isName, Bool.and_eq_true, List.all_eq_true] at h
    intro hmem
    rcases List.mem_cons.mp hmem with rfl | hmem
    · simp [isNamePart, h.1] at hdot
    · simp [h.2 _ hmem] at hdot

/-- A short name is never a full one, which has a dot in it. -/
theorem ClassDecl.name_ne_identity {d : ClassDecl} (h : Text.isName d.name.toList = true)
    (e : ClassDecl) : d.name ≠ e.identity := by
  intro he
  refine Text.not_mem_of_isName h ?_
  rw [he]
  simp [identity]

/-- Every definition is one of these models under its name, as it is or in its stored form. -/
def Following (all : Models) (definitions : List (String × Schema)) : Prop :=
  ∀ e ∈ definitions, ∃ m ∈ all, e.1 = m.2.name ∧ (e.2 = m.2 ∨ e.2 = m.2.stored)

/-- What the models of all actions of a build are: those of classes, and one for each name. -/
structure Agreed (classes : Registry) (all : Models) : Prop where
  described : ∀ m ∈ all, ∃ d fields, IsModelOf classes d fields m
  unique : ∀ m ∈ all, ∀ n ∈ all, m.2.name = n.2.name → m = n

/-- A model of an identity that stands among the definitions has its name there. -/
theorem Following.name_mem (hc : classes.Identifies) (hw : classes.IsNamed) {all : Models}
    (hall : Agreed classes all) {defs : List (String × Schema)} (hf : Following all defs)
    {n : String × Schema} (hn : n ∈ all) (hid : n.1 ∈ Document.identities defs) :
    n.2.name ∈ defs.map (·.1) := by
  obtain ⟨e, he, hen⟩ := List.mem_map.mp hid
  obtain ⟨m, hm, hname, hem⟩ := hf e he
  obtain ⟨d, fields, hd⟩ := hall.described m hm
  obtain ⟨d', fields', hd'⟩ := hall.described n hn
  refine List.mem_map.mpr ⟨e, he, hname.trans ?_⟩
  rcases hem with hem | hem
  · rw [hem, hd.schema_identity] at hen
    obtain ⟨-, -, rfl⟩ := hd.eq_of_identity hc hd' hen
    rfl
  · -- A stored model goes by its short name, which is no identity of a class.
    obtain ⟨k, hk⟩ := hd.declared
    rw [hem, hd'.identity] at hen
    exact absurd (hd.spec.1.symm.trans hen) (ClassDecl.name_ne_identity (hw k d hk) d')

/-- The definitions in their stored form. -/
def storedDefinitions (defs : List (String × Schema)) : List (String × Schema) :=
  defs.map fun e => (e.1, e.2.stored)

theorem Following.value_eq {all : Models} (hall : Agreed classes all) {m : String × Schema}
    (hm : m ∈ all) : (storedDefinitions all.named).lookup m.2.name = some m.2.stored := by
  have hmem : m.2.name ∈ all.named.map (·.1) := Models.mem_names_named.mpr ⟨m, hm, rfl⟩
  obtain ⟨s, hs⟩ := exists_lookup hmem
  obtain ⟨n, hn, heq⟩ := Models.mem_named.mp (mem_of_lookup hs)
  obtain ⟨hname, rfl⟩ := Prod.ext_iff.mp heq
  obtain rfl := hall.unique m hm n hn hname
  rw [storedDefinitions, lookup_map, hs, Option.map_some]

namespace Document

variable {strict : Bool}

/-- In their stored form, definitions take up all models that are put in, known ones or not. -/
theorem stored_of_putModels (hc : classes.Identifies) (hw : classes.IsNamed) {all : Models}
    (hall : Agreed classes all) {defs : List (String × Schema)} (hf : Following all defs)
    {ms : Models} (hms : ∀ n ∈ ms, n ∈ all) (hnodup : (ms.map (·.1)).Nodup) {m : Merging}
    (h : putModels strict defs ms = .ok m) :
    Following all m.definitions ∧
      storedDefinitions m.definitions =
        putAll (ms.map fun n => (n.2.name, n.2.stored)) (storedDefinitions defs) := by
  have hdefs := definitions_of_putModels hnodup h
  constructor
  · intro e he
    rw [hdefs] at he
    rcases mem_putAll he with he | he
    · obtain ⟨n, hn, rfl⟩ := Models.mem_named.mp he
      exact ⟨n, hms n (Models.mem_unknown.mp hn).1, rfl, Or.inl rfl⟩
    · exact hf e he
  · calc storedDefinitions m.definitions
      _ = putAll ((ms.unknown (identities defs)).map fun n => (n.2.name, n.2.stored))
          (storedDefinitions defs) := by
        rw [storedDefinitions, hdefs, map_putAll, Models.named, List.map_map]
        rfl
      _ = putAll (ms.map fun n => (n.2.name, n.2.stored)) (storedDefinitions defs) := by
        refine putAll_filter (fun name => (storedDefinitions all.named).lookup name) _ _
          (fun n hn => Following.value_eq hall (hms n hn)) (fun e he => ?_) fun n hn hp => ?_
        · obtain ⟨e, hed, rfl⟩ := List.mem_map.mp he
          obtain ⟨n, hn, hname, hen⟩ := hf e hed
          show (storedDefinitions all.named).lookup e.1 = some e.2.stored
          rw [hname]
          rcases hen with hen | hen
          · rw [hen]
            exact Following.value_eq hall hn
          · rw [hen, Schema.stored_stored]
            exact Following.value_eq hall hn
        · have hknown : n.1 ∈ identities defs := by simpa using hp
          have hmem := hf.name_mem hc hw hall (hms n hn) hknown
          simpa [storedDefinitions, Function.comp_def] using hmem

theorem stored_setSlot (item : PathItem) (v : Verb) (op : Operation) :
    (item.setSlot v op).stored = item.stored.setSlot v op.stored := by
  cases v <;> rfl

theorem stored_putOperations (paths : List (String × PathItem))
    (ops : List (String × Verb × Operation)) :
    (putOperations paths ops).map (fun p => (p.1, p.2.stored)) =
      putOperations (paths.map fun p => (p.1, p.2.stored))
        (ops.map fun o => (o.1, o.2.1, o.2.2.stored)) :=
  map_putOperations rfl stored_setSlot paths ops

/-- The stored form of a document after a contribution depends on its stored form before alone. -/
theorem stored_of_apply (hc : classes.Identifies) (hw : classes.IsNamed) {all : Models}
    (hall : Agreed classes all) {c : Contribution} (hms : ∀ n ∈ c.models, n ∈ all)
    (hnodup : (c.models.map (·.1)).Nodup) {d e : Document} {ts : List Takeover}
    (hf : Following all d.definitions) (h : d.apply strict c = .ok (e, ts)) :
    Following all e.definitions ∧
      e.stored = { d.stored with
        paths := putOperations d.stored.paths (c.operations.map fun o => (o.1, o.2.1, o.2.2.stored))
        definitions := putAll (c.models.map fun n => (n.2.name, n.2.stored))
          d.stored.definitions } := by
  obtain ⟨m, hm, rfl⟩ := exists_of_apply h
  obtain ⟨hfm, hstored⟩ := stored_of_putModels hc hw hall hf hms hnodup hm
  refine ⟨hfm, ?_⟩
  simp only [stored, stored_putOperations]
  exact congrArg _ hstored

/-- Documents of one stored form stay so when the same action is documented in both. -/
theorem stored_of_merge (hc : classes.Identifies) (hw : classes.IsNamed) {all : Models}
    (hall : Agreed classes all) {a : Action}
    (hms : ∀ c, a.contribution classes .standard = .ok c → ∀ n ∈ c.models, n ∈ all)
    {d d' e : Document} {ts : List Takeover} (hfd : Following all d.definitions)
    (hfe : Following all e.definitions) (hde : e.stored = d.stored)
    (h : d.merge classes .standard false a = .ok (d', ts)) :
    ∃ e' ts', e.merge classes .standard false a = .ok (e', ts') ∧
      Following all d'.definitions ∧ Following all e'.definitions ∧ e'.stored = d'.stored := by
  obtain ⟨c, hac, happly⟩ := exists_of_merge h
  have hnodup := (Action.collected_of_contribution hac).nodup (by simp)
  obtain ⟨⟨e', ts'⟩, he⟩ := exists_apply e c
  obtain ⟨hfd', hd'⟩ := stored_of_apply hc hw hall (hms c hac) hnodup hfd happly
  obtain ⟨hfe', he'⟩ := stored_of_apply hc hw hall (hms c hac) hnodup hfe he
  refine ⟨e', ts', ?_, hfd', hfe', by rw [he', hd', hde]⟩
  rw [merge, hac]
  exact he

theorem stored_of_extend (hc : classes.Identifies) (hw : classes.IsNamed) {all : Models}
    (hall : Agreed classes all) {actions : List Action}
    (hms : ∀ a ∈ actions, ∀ c, a.contribution classes .standard = .ok c → ∀ n ∈ c.models, n ∈ all)
    {d d' e : Document} (hfd : Following all d.definitions) (hfe : Following all e.definitions)
    (hde : e.stored = d.stored) (h : (d.extend classes .standard false actions).result = .ok d') :
    ∃ e', (e.extend classes .standard false actions).result = .ok e' ∧ e'.stored = d'.stored := by
  induction actions generalizing d e with
  | nil =>
    cases Except.ok.inj h
    exact ⟨e, rfl, hde⟩
  | cons a as ih =>
    obtain ⟨ha, has⟩ := List.forall_mem_cons.mp hms
    obtain ⟨d₁, ts, hstep, hrest⟩ := exists_of_run_cons h
    obtain ⟨e₁, ts', hstep', hfd₁, hfe₁, h₁⟩ := stored_of_merge hc hw hall ha hfd hfe hde hstep
    obtain ⟨e', he', hed⟩ := ih has hfd₁ hfe₁ h₁ hrest
    exact ⟨e', by rw [extend, run_cons_of_step as hstep']; exact he', hed⟩

theorem following_of_extend (hc : classes.Identifies) (hw : classes.IsNamed) {all : Models}
    (hall : Agreed classes all) {actions : List Action}
    (hms : ∀ a ∈ actions, ∀ c, a.contribution classes .standard = .ok c → ∀ n ∈ c.models, n ∈ all)
    {d d' : Document} (hf : Following all d.definitions)
    (h : (d.extend classes .standard strict actions).result = .ok d') :
    Following all d'.definitions := by
  refine run_invariant (P := fun d => Following all d.definitions) hf ?_ h
  intro a ha d₁ d₂ ts hf₁ hstep
  obtain ⟨c, hac, happly⟩ := exists_of_merge hstep
  have hnodup := (Action.collected_of_contribution hac).nodup (by simp)
  exact (stored_of_apply hc hw hall (hms a ha c hac) hnodup hf₁ happly).1

theorem following_stored {all : Models} {d : Document} (hf : Following all d.definitions) :
    Following all d.stored.definitions := by
  intro e he
  obtain ⟨e, hed, rfl⟩ := List.mem_map.mp he
  obtain ⟨m, hm, hname, hem⟩ := hf e hed
  refine ⟨m, hm, hname, Or.inr ?_⟩
  rcases hem with hem | hem
  · exact congrArg Schema.stored hem
  · show e.2.stored = m.2.stored
    rw [hem, Schema.stored_stored]

theorem stored_stored (d : Document) : d.stored.stored = d.stored := by
  simp [stored, Function.comp_def, PathItem.stored_stored, Schema.stored_stored]

theorem operationAt_stored (paths : List (String × PathItem)) (t : String) (v : Verb) :
    operationAt (paths.map fun p => (p.1, p.2.stored)) t v =
      (operationAt paths t v).map Operation.stored := by
  rw [operationAt, operationAt, lookup_map]
  cases paths.lookup t with
  | none => rfl
  | some item => exact item.slot_stored v

theorem map_parameters_itemAt (paths : List (String × PathItem)) (t : String) :
    (itemAt (paths.map fun p => (p.1, p.2.stored)) t).parameters =
      (itemAt paths t).parameters.map Parameter.stored := by
  rw [itemAt, itemAt, lookup_map]
  cases paths.lookup t <;> rfl

/-- Documents that are written alike have operations that are. -/
theorem map_operationAt_of_encode {d e : Document} (h : e.encode = d.encode) (t : String)
    (v : Verb) : (operationAt e.paths t v).map Operation.encode =
      (operationAt d.paths t v).map Operation.encode := by
  have hentries : e.entries = d.entries := Value.object_inj.mp h
  have hget := congrArg (Entries.get? · "paths") hentries
  have hpaths : (e.paths.map fun p => (p.1, p.2.encode)) =
      d.paths.map fun p => (p.1, p.2.encode) := by
    simpa [entries, Value.object_inj] using hget
  have hitem : (e.paths.lookup t).map PathItem.encode = (d.paths.lookup t).map PathItem.encode := by
    rw [← lookup_map, ← lookup_map, hpaths]
  unfold operationAt
  cases hi : e.paths.lookup t with
  | none =>
    rw [hi] at hitem
    rw [Option.map_eq_none_iff.mp hitem.symm]
  | some i =>
    rw [hi] at hitem
    obtain ⟨j, hj, hij⟩ := Option.map_eq_some_iff.mp hitem.symm
    rw [hj]
    exact (PathItem.encode_eq_encode_iff.mp hij.symm).1 v

/-- Documents of one stored form, of which the paths have no parameters of their own, are written
alike where their operations are. -/
theorem encode_eq_of_operations {d e : Document} (hstored : e.stored = d.stored)
    (hnodup : (e.paths.map (·.1)).Nodup) (hd : ∀ t, (itemAt d.paths t).parameters = [])
    (he : ∀ t, (itemAt e.paths t).parameters = [])
    (hops : ∀ t v, (operationAt e.paths t v).map Operation.encode =
      (operationAt d.paths t v).map Operation.encode) : e.encode = d.encode := by
  simp only [stored, Document.mk.injEq] at hstored
  obtain ⟨hswagger, hinfo, hhost, hbase, hschemes, hconsumes, hproduces, hpaths, hdefs⟩ := hstored
  have hnames : e.paths.map (·.1) = d.paths.map (·.1) := by
    have hmap := congrArg (List.map (·.1)) hpaths
    simpa [Function.comp_def] using hmap
  have hitems : (e.paths.map fun p => (p.1, p.2.encode)) =
      d.paths.map fun p => (p.1, p.2.encode) := by
    refine (map_eq_map_iff hnames hnodup).mpr fun t => ?_
    have hoe := hops t
    have hpe := he t
    have hpd := hd t
    by_cases ht : t ∈ e.paths.map (·.1)
    · obtain ⟨i, hi⟩ := exists_lookup ht
      obtain ⟨j, hj⟩ := exists_lookup (hnames ▸ ht)
      simp only [operationAt, itemAt, hi, hj, Option.bind_some, Option.getD_some] at hoe hpe hpd
      rw [hi, hj, Option.map_some, Option.map_some]
      exact congrArg some (PathItem.encode_eq_encode_iff.mpr ⟨hoe, by rw [hpe, hpd]⟩)
    · rw [lookup_of_not_mem ht, lookup_of_not_mem (hnames ▸ ht)]
  have hmodels : (e.definitions.map fun s => (s.1, s.2.encode)) =
      d.definitions.map fun s => (s.1, s.2.encode) := by
    have hmap := congrArg (List.map fun s : String × Schema => (s.1, s.2.encode)) hdefs
    simpa [Function.comp_def, Schema.encode_stored] using hmap
  simp only [encode, hswagger, hinfo, hhost, hbase, hschemes, hconsumes, hproduces, hitems, hmodels]

theorem nodup_foldl_addName {names : List String} (more : List String) (h : names.Nodup) :
    (more.foldl addName names).Nodup := by
  induction more generalizing names with
  | nil => exact h
  | cons n more ih => exact ih (nodup_addName n h)

/-- Built on from its stored form, a document is written as it is when built on from itself, but for
defaults in operations that are not written anew. -/
theorem encode_of_extend_stored {ys : List Action} {d₁ d d₂ : Document}
    (hnodup : (d₁.paths.map (·.1)).Nodup) (hbare : ∀ t, (itemAt d₁.paths t).parameters = [])
    (h : (d₁.extend classes .standard false ys).result = .ok d)
    (h₂ : (d₁.stored.extend classes .standard false ys).result = .ok d₂)
    (hstored : d₂.stored = d.stored) :
    d₂.encode = d.encode ↔ ∀ t v op, operationAt d₁.paths t v = some op → op.LosesDefault →
      ∃ a ∈ ys, a.writes t v = true := by
  obtain ⟨hops, hpars, -⟩ := paths_of_extend h
  obtain ⟨hops₂, hpars₂, hnames₂⟩ := paths_of_extend h₂
  have hnodup₂ : (d₂.paths.map (·.1)).Nodup := by
    rw [hnames₂]
    refine nodup_foldl_addName _ ?_
    simpa [stored, Function.comp_def] using hnodup
  have hbare₂ : ∀ t, (itemAt d₂.paths t).parameters = [] := fun t => by
    rw [hpars₂ t]
    exact (map_parameters_itemAt d₁.paths t).trans (by rw [hbare t, List.map_nil])
  have halike : d₂.encode = d.encode ↔ ∀ t v, (operationAt d₂.paths t v).map Operation.encode =
      (operationAt d.paths t v).map Operation.encode :=
    ⟨map_operationAt_of_encode, encode_eq_of_operations hstored hnodup₂
      (fun t => (hpars t).trans (hbare t)) hbare₂⟩
  rw [halike]
  refine forall_congr' fun t => forall_congr' fun v => ?_
  have hop := hops t v
  have hop₂ := hops₂ t v
  cases hlast : ys.reverse.find? (·.writes t v) with
  | some a =>
    -- The last action that writes here gives both the same operation.
    rw [hlast] at hop hop₂
    obtain ⟨op, ha, hat⟩ := hop
    obtain ⟨op₂, ha₂, hat₂⟩ := hop₂
    cases ha.symm.trans ha₂
    have hwrites : ∃ a ∈ ys, a.writes t v = true :=
      ⟨a, List.mem_reverse.mp (List.mem_of_find?_eq_some hlast),
        by simpa using List.find?_some hlast⟩
    simp [hat, hat₂, hwrites]
  | none =>
    rw [hlast] at hop hop₂
    have hnever : ¬ ∃ a ∈ ys, a.writes t v = true := by
      simpa using hlast
    have hat₂ : operationAt d₂.paths t v = (operationAt d₁.paths t v).map Operation.stored :=
      hop₂.trans (operationAt_stored d₁.paths t v)
    rw [hop, hat₂]
    cases operationAt d₁.paths t v with
    | none => simp
    | some op => simp [Operation.encode_stored_iff, hnever]

/-- Where short names do not collide, a build that is written to a file after the first actions and
taken up from there for the others succeeds and has the stored form of one build of all. It gives
the same data, with its order, exactly if every operation that loses a default in the file is
written anew by the others. -/
theorem encode_of_resumed_build {xs ys : List Action} {info : Option Info} {d d₁ : Document}
    {t : FileTree} {host : Host} {path : String} {content : Bytes} {f : Format}
    (hc : classes.Identifies) (hw : classes.IsNamed) (htexts : ∀ a ∈ xs, a.HasTexts)
    (hnone : schemaCollisions classes .standard (xs ++ ys) = .ok [])
    (hxs : (build classes .standard false info none xs).result = .ok d₁)
    (h : (build classes .standard false info none (xs ++ ys)).result = .ok d)
    (hread : t.readNamed? (FilePath.ofString path) = .ok (some content))
    (htext : textOf content = .ok (d₁.dump f))
    (hdata : fileData host (FilePath.ofString path).format? (d₁.dump f) = .ok d₁.encode) :
    ∃ loaded d₂, t.load path host = .ok loaded ∧
      (build classes .standard false none (some loaded) ys).result = .ok d₂ ∧
      d₂.stored = d.stored ∧
      (d₂.encode = d.encode ↔ ∀ template v op, operationAt d₁.paths template v = some op →
        op.LosesDefault → ∃ a ∈ ys, a.writes template v = true) := by
  obtain ⟨all, hcollect, hunique⟩ := eq_of_schemaCollisions hc hnone
  have hcol := collected_of_collectActions hcollect
  have hall : Agreed classes all := by
    refine ⟨fun m hm => ?_, hunique⟩
    obtain ⟨k, fields, hk, -⟩ := (hcol.described m hm).resolve_left (by simp)
    exact ⟨k, fields, hk⟩
  have hms : ∀ a ∈ xs ++ ys, ∀ c, a.contribution classes .standard = .ok c →
      ∀ n ∈ c.models, n ∈ all := fun a ha c hac => mem_of_contribution hc hcollect ha hac
  -- The build that runs through passes the document that was written.
  obtain ⟨d', hd', hys⟩ := run_append h
  obtain rfl : d₁ = d' := Except.ok.inj (hxs.symm.trans hd')
  have hstart : Following all (start info none).definitions := fun e he => by cases he
  have hf := following_of_extend hc hw hall (fun a ha => hms a (List.mem_append_left _ ha)) hstart
    hxs
  have hreadable : d₁.Readable := readable_of_extend htexts (readable_ofInfo _) hxs
  have hbare : ∀ t, (itemAt d₁.paths t).parameters = [] := fun t => (paths_of_extend hxs).2.1 t
  obtain ⟨d₂, hd₂, hstored⟩ := stored_of_extend hc hw hall
    (fun a ha => hms a (List.mem_append_right _ ha)) hf (following_stored hf) d₁.stored_stored hys
  exact ⟨d₁.stored, d₂, FileTree.load_of_dump hreadable hread htext hdata, hd₂, hstored,
    encode_of_extend_stored hreadable.paths hbare hys hd₂ hstored⟩

/-- A class of users. -/
def users : Registry where
  decls := [⟨"User", .record false, "User", "app", "User", none, [], []⟩]

/-- An action at a path that answers with a user. -/
def userAt (path : String) : Action where
  method := "GET"
  path := .literal (.str path)
  query := .empty
  headers := .empty
  results := [.ofType (.declared "User")]
  body := .absent
  consumes := []
  produces := []

/-- What is built of the user at `me`. -/
def userDocument : Document :=
  { ofInfo ⟨"API", "1.0.0", none⟩ with
    paths := [("/me", PathItem.empty.setSlot .get
      ⟨["me"], none, none, [], [], some "getMe", [], [("200", ⟨"OK", some (.ref "User" none)⟩)]⟩)]
    definitions := [("User", ⟨some "app.User", "User", "object", none, [], none⟩)] }

/-- A directory with just that document in it. -/
def userFile : FileTree :=
  FileTree.empty.put ["api.json"] (.file (userDocument.dump .json).toUTF8.toList)

/-- The one file of a directory is found under its name. -/
theorem readNamed?_api (content : Bytes) :
    (FileTree.empty.put ["api.json"] (.file content)).readNamed? (FilePath.ofString "api.json") =
      .ok (some content) := by
  have hpath : FilePath.ofString "api.json" = ⟨"", ["api.json"]⟩ := by decide +kernel
  have hfault : FilePath.fault? ⟨"", ["api.json"]⟩ = none := by decide +kernel
  have hshort : ¬ maxNameBytes < "api.json".utf8ByteSize := by decide +kernel
  have hplace : (FileTree.empty.put ["api.json"] (.file content)).place ⟨"", ["api.json"]⟩ =
      .ok ["api.json"] := by
    simp [FileTree.place, hfault, FilePath.start, FilePath.isAbsolute, FileTree.follow,
      FileTree.at?, FileTree.isBase, FileTree.descend, hshort]
  have hfind : (FileTree.empty.put ["api.json"] (.file content)).find ⟨"", ["api.json"]⟩ =
      .ok (.file content) := by
    rw [FileTree.find, hplace]
    rfl
  rw [hpath, FileTree.readNamed?, hfind, FileTree.read?, hfind]

theorem identifies_users : users.Identifies := Registry.identifies_of_nodup (by decide +kernel)

theorem isNamed_users : users.IsNamed := by
  have hname : ∀ d ∈ users.decls, Text.isName d.name.toList = true := by decide +kernel
  exact fun _ d hd => hname d (Registry.mem_of_find? hd)

theorem hasTexts_userAt (path : String) : (userAt path).HasTexts :=
  ⟨fun _ hp => (List.not_mem_nil hp).elim, fun _ hp => (List.not_mem_nil hp).elim⟩

theorem encode_of_resumed_build_users :
    ∃ d loaded d₂, (build users .standard false none none [userAt "me", userAt "you"]).result =
        .ok d ∧
      userFile.load "api.json" = .ok loaded ∧
      (build users .standard false none (some loaded) [userAt "you"]).result = .ok d₂ ∧
      d₂.encode = d.encode := by
  have htexts : ∀ a ∈ [userAt "me"], a.HasTexts := by simp [hasTexts_userAt]
  have hnone : schemaCollisions users .standard ([userAt "me"] ++ [userAt "you"]) = .ok [] := by cbv
  have hxs : (build users .standard false none none [userAt "me"]).result = .ok userDocument := by
    cbv
  have hok : (build users .standard false none none ([userAt "me"] ++ [userAt "you"])).result.isOk =
      true := by cbv
  obtain ⟨d, hd⟩ := exists_of_isOk hok
  have hholds : Json.holds {} 0 userDocument.encode = true := by cbv
  have htext := textOf_toUTF8 (Json.return_not_mem_pretty hholds)
  have hformat : (FilePath.ofString "api.json").format? ≠ some .yaml := by decide +kernel
  obtain ⟨loaded, d₂, hload, hd₂, -, hiff⟩ := encode_of_resumed_build (f := .json)
    identifies_users isNamed_users htexts hnone hxs hd (readNamed?_api _) htext
    (fileData_pretty hformat hholds)
  refine ⟨d, loaded, d₂, hd, hload, hd₂, hiff.mpr fun t v op hop hlost => ?_⟩
  -- The one operation that is written has no parameters, and so loses nothing.
  obtain ⟨p, hp, -⟩ := hlost
  obtain ⟨item, hitem, hslot⟩ := Option.bind_eq_some_iff.mp hop
  cases List.mem_singleton.mp (mem_of_lookup hitem)
  cases v <;> cases hslot
  cases hp

/-- Loads up to a weight, which has no bound unless one is given. -/
def loadsUpTo : Action where
  method := "GET"
  path := .literal (.str "loads")
  query := .leaf ⟨.str "upTo", .scalar .float, .plain .unbounded, .null⟩
  headers := .empty
  results := []
  body := .absent
  consumes := []
  produces := []

def loadsUpToOperation : Operation :=
  ⟨["loads"], none, none, [], [], some "getLoads", [.simple .query
    ⟨some "upTo", .null, false, "number", some "double", .unbounded, none, none⟩], []⟩

/-- What is built of the loads. -/
def loadsDocument : Document :=
  { ofInfo ⟨"API", "1.0.0", none⟩ with
    paths := [("/loads", PathItem.empty.setSlot .get loadsUpToOperation)] }

/-- A directory with just that document in it. -/
def loadsFile : FileTree :=
  FileTree.empty.put ["api.json"] (.file (loadsDocument.dump .json).toUTF8.toList)

theorem readable_loadsDocument : loadsDocument.Readable where
  paths := by decide
  items := by
    intro e he
    rw [List.mem_singleton.mp he]
    refine ⟨fun v op hop => ?_, fun p hp => by cases hp⟩
    cases v <;> cases hop
    exact ⟨by simp [loadsUpToOperation, Parameter.Readable, Value.isTextOrNull], by decide⟩
  definitions := by decide
  schemas := fun e he => by cases he

/-- The resumed build succeeds, and what it gives lacks the default that one build of all has. -/
theorem encode_ne_of_resumed_loads :
    ∃ loaded d₂ d, schemaCollisions users .standard [loadsUpTo, userAt "you"] = .ok [] ∧
      (build users .standard false none none [loadsUpTo]).result = .ok loadsDocument ∧
      loadsFile.load "api.json" = .ok loaded ∧
      (build users .standard false none (some loaded) [userAt "you"]).result = .ok d₂ ∧
      (build users .standard false none none [loadsUpTo, userAt "you"]).result = .ok d ∧
      d₂.encode ≠ d.encode := by
  have hnone : schemaCollisions users .standard [loadsUpTo, userAt "you"] = .ok [] := by cbv
  have hxs : (build users .standard false none none [loadsUpTo]).result = .ok loadsDocument := by
    cbv
  have hholds : Json.holds {} 0 loadsDocument.encode = true := by cbv
  have hformat : (FilePath.ofString "api.json").format? ≠ some .yaml := by decide +kernel
  have hload : loadsFile.load "api.json" = .ok loadsDocument.stored :=
    FileTree.load_of_json readable_loadsDocument hformat hholds (readNamed?_api _)
  have hok : (loadsDocument.extend users .standard false [userAt "you"]).result.isOk = true := by
    cbv
  have hok₂ : (loadsDocument.stored.extend users .standard false [userAt "you"]).result.isOk =
      true := by cbv
  obtain ⟨d, hd⟩ := exists_of_isOk hok
  obtain ⟨d₂, hd₂⟩ := exists_of_isOk hok₂
  have hnever : [userAt "you"].reverse.find? (·.writes "/loads" .get) = none := by cbv
  have hop := (paths_of_extend hd).1 "/loads" .get
  have hop₂ := (paths_of_extend hd₂).1 "/loads" .get
  rw [hnever] at hop hop₂
  have hlost : loadsUpToOperation.LosesDefault :=
    ⟨_, List.mem_singleton_self _, Value.isUnheld_unbounded⟩
  refine ⟨loadsDocument.stored, d₂, d, hnone, hxs, hload, hd₂, ?_, fun heq => ?_⟩
  · obtain ⟨d', ts, hstep, hrest⟩ := exists_of_run_cons hxs
    cases Except.ok.inj hrest
    exact (run_cons_of_step _ hstep).trans hd
  · have hwritten := map_operationAt_of_encode heq "/loads" .get
    rw [hop, hop₂] at hwritten
    exact Operation.encode_stored_iff.mp (Option.some.inj hwritten) hlost

end Document

end RouteAtlas
