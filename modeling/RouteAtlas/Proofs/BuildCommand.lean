import RouteAtlas.Proofs.DumpedText
import RouteAtlas.Proofs.SettingLayers
import RouteAtlas.Proofs.ShownMessages
import RouteAtlas.Proofs.WrittenFile

/-!
The command that builds a document. It stops with a fault before anything is given out, or it has a
document, and gives that out.
-/

namespace RouteAtlas

namespace Course

variable {α β : Type} {x : Course α} {g : α → Course β}

@[simp] theorem result_bind (x : Course α) (g : α → Course β) :
    (x >>= g).result = x.result.bind fun a => (g a).result := by
  show (Course.bind x g).result = _
  unfold Course.bind
  cases x.result <;> rfl

@[simp] theorem result_pure (a : α) : (pure a : Course α).result = .ok a := rfl

@[simp] theorem result_ofExcept {ε : Type} (fault : ε → CommandFault) (r : Except ε α) :
    (ofExcept fault r).result = r.mapError fault := by
  cases r <;> rfl

@[simp] theorem result_perform (es : List Effect) : (perform es).result = .ok () := rfl

@[simp] theorem result_say (kind : MessageKind) (text : String) : (say kind text).result = .ok () :=
  rfl

theorem bind_of_error {f : CommandFault} (h : x.result = .error f) :
    x >>= g = ⟨x.effects, .error f⟩ := by
  show Course.bind x g = _
  rw [Course.bind, h]

theorem bind_of_ok {a : α} (h : x.result = .ok a) :
    x >>= g = ⟨x.effects ++ (g a).effects, (g a).result⟩ := by
  show Course.bind x g = _
  rw [Course.bind, h]

/-- Asides are all that there is of effects. -/
def IsQuiet (x : Course α) : Prop := ∀ e ∈ x.effects, e.isAside = true

theorem IsQuiet.remarks (h : x.IsQuiet) : ∀ e ∈ x.effects, e.isRemark = true :=
  fun e he => Effect.isRemark_of_isAside (h e he)

theorem isQuiet_bind (hx : x.IsQuiet) (hg : ∀ a, (g a).IsQuiet) : (x >>= g).IsQuiet := by
  show (Course.bind x g).IsQuiet
  unfold Course.bind
  split
  next => exact hx
  next a _ =>
    intro e he
    rcases List.mem_append.mp he with he | he
    · exact hx e he
    · exact hg a e he

theorem isQuiet_ofExcept {ε : Type} (fault : ε → CommandFault) (r : Except ε α) :
    (ofExcept fault r).IsQuiet := by
  cases r <;> exact nofun

theorem isQuiet_debug (text : String) : (say .debug text).IsQuiet := by
  simp [IsQuiet, say, perform, Effect.isAside]

end Course

theorem Surroundings.isQuiet_resolve (s : Surroundings) (config : Option FilePath)
    (target : Option String) (overrides : List (String × Value)) :
    (s.resolve config target overrides).IsQuiet := by
  refine Course.isQuiet_bind (Course.isQuiet_ofExcept _ _) fun c => ?_
  dsimp only
  split
  next => exact nofun
  next t _ =>
    refine Course.isQuiet_bind (Course.isQuiet_debug _) fun _ => ?_
    refine Course.isQuiet_bind (Course.isQuiet_ofExcept _ _) fun actions => ?_
    exact Course.isQuiet_bind (Course.isQuiet_debug _) fun _ => nofun

/-- The settings are resolved, the target is found, and its routes are loaded. -/
theorem Surroundings.result_resolve (s : Surroundings) (config : Option FilePath)
    (target : Option String) (overrides : List (String × Value)) :
    (s.resolve config target overrides).result =
      ((Config.resolve s.files s.root s.terminal.environment overrides config s.host).mapError
        .config).bind fun c =>
          match (target.filter (· ≠ "")).or (c.routes.filter (· ≠ "")) with
          | none => .error .noTarget
          | some t => ((loadRoutes s.classes s.modules t).mapError .routes).map fun actions =>
            (c, actions) := by
  rw [Surroundings.resolve, Course.result_bind, Course.result_ofExcept]
  refine congrArg _ (funext fun c => ?_)
  dsimp only
  cases (target.filter (· ≠ "")).or (c.routes.filter (· ≠ "")) with
  | none => rfl
  | some t =>
    simp only [Course.result_bind, Course.result_say, Course.result_ofExcept, Course.result_pure]
    cases loadRoutes s.classes s.modules t <;> rfl

namespace BuildRequest

variable {r : BuildRequest} {s : Surroundings} {config : Option FilePath}

theorem isQuiet_document (r : BuildRequest) (s : Surroundings) (config : Option FilePath) :
    (r.document s config).IsQuiet := by
  refine Course.isQuiet_bind (s.isQuiet_resolve _ _ _) fun (c, actions) => ?_
  refine Course.isQuiet_bind (Course.isQuiet_ofExcept _ _) fun start => ?_
  refine Course.isQuiet_bind (fun e he => ?_) fun _ => ?_
  · obtain ⟨l, -, rfl⟩ := List.mem_map.mp he
    rfl
  · exact Course.isQuiet_bind (Course.isQuiet_ofExcept _ _) fun d => nofun

/-- The target of the request, or else that of the settings; an empty one is none. -/
def target? (r : BuildRequest) (c : Config) : Option String :=
  (r.target.filter (· ≠ "")).or (c.routes.filter (· ≠ ""))

/-- The settings, and the route actions that the target names. -/
structure Prepares (r : BuildRequest) (s : Surroundings) (config : Option FilePath) (c : Config)
    (actions : List Action) : Prop where
  settings : Config.resolve s.files s.root s.terminal.environment r.overrides config s.host = .ok c
  routes : ∃ t, r.target? c = some t ∧ loadRoutes s.classes s.modules t = .ok actions

/-- What a build starts from, and the info that it puts in: the empty document of the settings, or
the one to extend with the host and the base path of the settings, where they have them, and with
their info exactly if the request gives a title or a version that is not empty. -/
inductive Seeds (r : BuildRequest) (files : FileTree) (host : Host) (c : Config) :
    Document → Option Info → Prop
  | empty (h : r.mergeInto = none) : Seeds r files host c c.document none
  | loaded {p : FilePath} {d : Document} (h : r.mergeInto = some p)
      (hd : files.load p.toString host = .ok d) :
      Seeds r files host c { d with host := c.host.or d.host, basePath := c.basePath.or d.basePath }
        (if r.namesDocument then some c.info else none)

/-- The fault that a build stops with, from the first stage that has one. -/
inductive Stops (r : BuildRequest) (s : Surroundings) (config : Option FilePath) :
    CommandFault → Prop
  | settings {f : ConfigFault}
      (h : Config.resolve s.files s.root s.terminal.environment r.overrides config s.host =
        .error f) :
      Stops r s config (.config f)
  | noTarget {c : Config}
      (h : Config.resolve s.files s.root s.terminal.environment r.overrides config s.host = .ok c)
      (ht : r.target? c = none) : Stops r s config .noTarget
  | routes {c : Config} {t : String} {f : RouteFault}
      (h : Config.resolve s.files s.root s.terminal.environment r.overrides config s.host = .ok c)
      (ht : r.target? c = some t) (hf : loadRoutes s.classes s.modules t = .error f) :
      Stops r s config (.routes f)
  | seed {c : Config} {actions : List Action} {p : FilePath} {f : LoadFault}
      (h : Prepares r s config c actions) (hp : r.mergeInto = some p)
      (hf : s.files.load p.toString s.host = .error f) : Stops r s config (.load f)
  | document {c : Config} {actions : List Action} {previous : Document} {info : Option Info}
      {f : Fault} (h : Prepares r s config c actions) (hs : Seeds r s.files s.host c previous info)
      (hf : (Document.build s.classes .standard c.strict info (some previous) actions).result =
        .error f) : Stops r s config (.build f)

/-- No stage has a fault, and the document is built. -/
structure Builds (r : BuildRequest) (s : Surroundings) (config : Option FilePath) (c : Config)
    (actions : List Action) (d : Document) : Prop where
  prepares : Prepares r s config c actions
  built : ∃ previous info, Seeds r s.files s.host c previous info ∧
    (Document.build s.classes .standard c.strict info (some previous) actions).result = .ok d

theorem seed_of_seeds {files : FileTree} {host : Host} {c : Config} {previous : Document}
    {info : Option Info} (h : Seeds r files host c previous info) :
    r.seed files host c = .ok (Document.start info (some previous)) := by
  cases h with
  | empty h => rw [seed, h]; rfl
  | loaded h hd =>
    rw [seed, h]
    simp only [hd]
    cases r.namesDocument <;> rfl

theorem result_resolve (r : BuildRequest) (s : Surroundings) (config : Option FilePath) :
    (s.resolve config r.target r.overrides).result =
      ((Config.resolve s.files s.root s.terminal.environment r.overrides config s.host).mapError
        .config).bind fun c =>
          match r.target? c with
          | none => .error .noTarget
          | some t => ((loadRoutes s.classes s.modules t).mapError .routes).map fun actions =>
            (c, actions) :=
  s.result_resolve config r.target r.overrides

theorem result_resolve_of_prepares {c : Config} {actions : List Action}
    (h : Prepares r s config c actions) :
    (s.resolve config r.target r.overrides).result = .ok (c, actions) := by
  obtain ⟨hc, t, ht, hroutes⟩ := h
  rw [result_resolve, hc]
  simp only [Except.mapError, Except.bind, ht, hroutes, Except.map]

theorem result_document_of_prepares {c : Config} {actions : List Action}
    (h : Prepares r s config c actions) : (r.document s config).result =
      ((r.seed s.files s.host c).mapError .load).bind fun start =>
        ((start.extend s.classes .standard c.strict actions).result.mapError .build).map fun d =>
          (d, c, actions.length) := by
  rw [document, Course.result_bind, result_resolve_of_prepares h]
  simp only [Except.bind, Course.result_bind, Course.result_ofExcept, Course.result_perform,
    Course.result_pure]
  cases r.seed s.files s.host c with
  | error f => rfl
  | ok start =>
    simp only [Except.mapError]
    cases (start.extend s.classes .standard c.strict actions).result <;> rfl

theorem result_document_of_builds {c : Config} {actions : List Action} {d : Document}
    (h : Builds r s config c actions d) :
    (r.document s config).result = .ok (d, c, actions.length) := by
  obtain ⟨hprepares, previous, info, hs, hd⟩ := h
  rw [Document.build] at hd
  rw [result_document_of_prepares hprepares, seed_of_seeds hs]
  simp only [Except.mapError, Except.bind, hd, Except.map]

theorem result_document_of_stops {f : CommandFault} (h : Stops r s config f) :
    (r.document s config).result = .error f := by
  cases h with
  | settings h =>
    rw [document, Course.result_bind, result_resolve, h]
    rfl
  | noTarget h ht =>
    rw [document, Course.result_bind, result_resolve, h]
    simp only [Except.mapError, Except.bind, ht]
  | routes h ht hf =>
    rw [document, Course.result_bind, result_resolve, h]
    simp only [Except.mapError, Except.bind, ht, hf, Except.map]
  | seed h hp hf =>
    rw [result_document_of_prepares h, BuildRequest.seed, hp]
    simp only [hf]
    rfl
  | document h hs hf =>
    rw [Document.build] at hf
    rw [result_document_of_prepares h, seed_of_seeds hs]
    simp only [Except.mapError, Except.bind, hf, Except.map]

theorem stops_or_builds (r : BuildRequest) (s : Surroundings) (config : Option FilePath) :
    (∃ f, Stops r s config f) ∨ ∃ c actions d, Builds r s config c actions d := by
  cases hc : Config.resolve s.files s.root s.terminal.environment r.overrides config s.host with
  | error f => exact .inl ⟨_, .settings hc⟩
  | ok c =>
    cases ht : r.target? c with
    | none => exact .inl ⟨_, .noTarget hc ht⟩
    | some t =>
      cases hroutes : loadRoutes s.classes s.modules t with
      | error f => exact .inl ⟨_, .routes hc ht hroutes⟩
      | ok actions =>
        have hprepares : Prepares r s config c actions := ⟨hc, t, ht, hroutes⟩
        -- The last stage is the same for an empty document and for one that is extended.
        have hbuild : ∀ previous info, Seeds r s.files s.host c previous info →
            (∃ f, Stops r s config f) ∨ ∃ c actions d, Builds r s config c actions d := by
          intro previous info hs
          cases hd : (Document.build s.classes .standard c.strict info (some previous)
              actions).result with
          | error f => exact .inl ⟨_, .document hprepares hs hd⟩
          | ok d => exact .inr ⟨c, actions, d, hprepares, previous, info, hs, hd⟩
        cases hm : r.mergeInto with
        | none => exact hbuild _ _ (.empty hm)
        | some p =>
          cases hd : s.files.load p.toString s.host with
          | error f => exact .inl ⟨_, .seed hprepares hm hd⟩
          | ok d => exact hbuild _ _ (.loaded hm hd)

/-- The format that is asked for, or else the one that the name of the output tells, or else the one
of the settings. -/
theorem outputFormat_of_prepares {c : Config} {actions : List Action}
    (h : Prepares r s config c actions) : r.outputFormat c =
      (r.format.or (r.output.bind FilePath.format?)).getD c.format := by
  unfold outputFormat
  cases hf : r.format with
  | none => rfl
  | some f => exact format_of_resolve h.settings hf

theorem course_of_stops {f : CommandFault} (h : Stops r s config f) :
    r.course s config = ⟨(r.document s config).effects, .error f⟩ :=
  Course.bind_of_error (result_document_of_stops h)

theorem course_of_builds {c : Config} {actions : List Action} {d : Document}
    (h : Builds r s config c actions d) (htext : dumpFault? s.host d = none) :
    r.course s config = ⟨(r.document s config).effects ++
      r.deliver d actions.length (r.outputFormat c), .ok ()⟩ := by
  rw [course, Course.bind_of_ok (result_document_of_builds h)]
  simp only [htext]
  rfl

/-- How many actions are documented is told without brackets. -/
theorem shows_announcement (c : Console) (actions : Nat) (format : Format) :
    c.ShowsAll [announcement actions format] := by
  refine Console.showsAll_singleton.mpr (Console.shows_info_of_not_mem ?_)
  have hdigits : '[' ∉ Nat.toDigits 10 actions := fun h =>
    absurd (Nat.isDigit_of_mem_toDigits (by decide) (by decide) h) (by decide)
  have hword : '[' ∉ format.word.toList := by cases format <;> decide
  simp [String.toList_append, hdigits, hword]

/-- A build that stops gives out nothing but messages and leaves the files alone. It ends with the
exit code of its fault if the messages can be shown. -/
theorem run_of_stops {f : CommandFault} (h : Stops r s config f) (c : Console) :
    let o := (r.course s config).run c s.files
    o.transcript.stdout = "" ∧ o.transcript.files = s.files ∧
      ∀ code, f.exitCode? = some code → o.EndsWith
        (c.ShowsAll (r.document s config).effects ∧ c.Shows ⟨.error, f.message c.host⟩)
          code.number := by
  have hremarks := (r.isQuiet_document s config).remarks
  rw [course_of_stops h]
  obtain ⟨hstdout, hfiles⟩ := Course.transcript_run_of_error hremarks
  exact ⟨hstdout, hfiles, fun code hcode => Course.endsWith_run_of_error hremarks hcode⟩

/-- A document that is not meant for a file is all that is given out. -/
theorem run_of_builds_data {c : Config} {actions : List Action} {d : Document}
    (h : Builds r s config c actions d) (htext : dumpFault? s.host d = none)
    (hout : r.output = none) (out : Console) :
    let o := (r.course s config).run out s.files
    o.transcript.files = s.files ∧ o.EndsWith (out.ShowsAll (r.document s config).effects) 0 ∧
      (out.ShowsAll (r.document s config).effects →
        o.transcript.stdout = d.dump (r.outputFormat c)) := by
  -- The text ends with a line feed of its own, so none is added.
  rw [course_of_builds h htext, deliver, hout]
  dsimp only
  rw [Document.dataLine_dump]
  exact Course.run_data (r.isQuiet_document s config).remarks

/-- A document that is meant for a file, which can be written, comes nowhere else. -/
theorem run_of_builds_write {c : Config} {actions : List Action} {d : Document} {p : FilePath}
    {files : FileTree} (h : Builds r s config c actions d) (htext : dumpFault? s.host d = none)
    (hout : r.output = some p) {out : Console}
    (hwrite : s.files.write p (d.dump (r.outputFormat c)).toUTF8.toList out.host = (files, none)) :
    let o := (r.course s config).run out s.files
    o.transcript.stdout = "" ∧
      o.EndsWith (out.ShowsAll (r.document s config).effects ∧ out.Shows (report d p)) 0 ∧
      (out.ShowsAll (r.document s config).effects → o.transcript.files = files) := by
  have hremarks : ∀ e ∈ (r.document s config).effects ++
      [announcement actions.length (r.outputFormat c)], e.isRemark = true := by
    simpa [or_imp, forall_and, announcement, Effect.isRemark] using
      (r.isQuiet_document s config).remarks
  have hshown : out.ShowsAll ((r.document s config).effects ++
      [announcement actions.length (r.outputFormat c)]) ↔
        out.ShowsAll (r.document s config).effects := by
    rw [Console.showsAll_append, and_iff_left (shows_announcement out _ _)]
  have hrun := Course.run_write (m := report d p) (c := out) hremarks hwrite
  rw [hshown, List.append_assoc] at hrun
  rw [course_of_builds h htext, deliver, hout]
  exact hrun

end BuildRequest

end RouteAtlas
