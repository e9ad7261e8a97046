import RouteAtlas.Proofs.ParameterLists
import RouteAtlas.Proofs.TemplateSegments

/-!
The parameters that a path lists are the captures of the sequences with its template, each name once
and as it is captured first. Where literals have no braces and names no slashes, they are the names
that stand in braces in the template.
-/

namespace RouteAtlas

/-- What a step of a path captures: a name, the type that it is read as, and how it is described. -/
structure Capture where
  name : Value
  ty : Ty
  description : Value

namespace Capture

variable {classes : Registry}

def parameterName (c : Capture) : Option String := c.name.parameterName

def parameter (classes : Registry) (c : Capture) : Except Fault SimpleParameter :=
  Step.captureParameter classes c.name c.ty c.description

/-- The parameter has the name, the type and the description of the capture, and is required. -/
structure Declares (classes : Registry) (c : Capture) (p : SimpleParameter) : Prop where
  name : p.name = c.parameterName
  required : p.required = true
  kind : ∃ d, c.ty.dataType classes = .ok d ∧ p.type = d.name ∧ p.format = d.format
  description : p.description = .ofText? c.description.parameterName

theorem declares_of_parameter {c : Capture} {p : SimpleParameter}
    (h : c.parameter classes = .ok p) : c.Declares classes p := by
  obtain ⟨d, hd, h⟩ := exists_of_bind_ok h
  obtain ⟨r, hr, rfl⟩ := exists_of_checkedParameter h
  exact ⟨rfl, (Checked.ok.inj hr).symm, ⟨d, hd, rfl, rfl⟩, rfl⟩

end Capture

namespace Step

/-- A tail is captured as a text. -/
def capture? : Step → Option Capture
  | .capture n t d => some ⟨n, t, d⟩
  | .tail => some ⟨.str tailName, .scalar .str, .null⟩
  | _ => none

def captures (steps : List Step) : List Capture := steps.filterMap capture?

variable {classes : Registry}

theorem parameters_eq_mapM {s : List Step} (h : Step.tail ∉ s.dropLast) :
    parameters classes s = (captures s).mapM (Capture.parameter classes) := by
  induction s with
  | nil => rfl
  | cons x s ih =>
    have hs := not_mem_dropLast_tail h
    cases x with
    | capture n t d =>
      show (captureParameter classes n t d).bind (fun p => (parameters classes s).bind fun ps =>
        .ok (p :: ps)) = _
      rw [ih hs]
      show _ = (⟨n, t, d⟩ :: captures s).mapM (Capture.parameter classes)
      rw [List.mapM_cons]
      rfl
    | tail =>
      rw [eq_nil_of_tail h]
      rfl
    | literal v => exact ih hs
    | note n => exact ih hs

/-- The names in braces of a template are those that its sequence captures. -/
theorem names_template_eq {s : List Step} (h : Step.tail ∉ s.dropLast)
    (hs : ∀ x ∈ s, x.IsPlain) :
    (Template.names (template s)).map some = (captures s).map (·.parameterName) := by
  rw [names_template]
  induction s with
  | nil => rfl
  | cons x s ih =>
    obtain ⟨hx, hs⟩ := List.forall_mem_cons.mp hs
    have ih := ih (not_mem_dropLast_tail h) hs
    cases x with
    | literal v =>
      rw [parts, List.flatMap_append, List.filter_append,
        List.filter_eq_nil_iff.mpr fun p hp => by simp [isCapture_of_literalPart hx p hp]]
      exact ih
    | capture n t d =>
      obtain ⟨name, rfl, hname⟩ := hx
      rw [parts, List.flatMap_cons, segments_placeholder hname, List.singleton_append,
        List.filter_cons_of_pos (Template.isCapture_placeholder _), List.map_cons, List.map_cons,
        ih, Template.unframed_placeholder]
      rfl
    | tail =>
      rw [eq_nil_of_tail h]
      rfl
    | note n => exact ih

end Step

section

variable {α β : Type} [BEq β] [LawfulBEq β]

theorem eraseDups_concat_of_mem {xs : List β} {x : β} (h : x ∈ xs) :
    (xs ++ [x]).eraseDups = xs.eraseDups := by
  have hold : [x].removeAll xs = [] := by simpa [List.removeAll] using h
  rw [List.eraseDups_append, hold, List.eraseDups_nil, List.append_nil]

theorem eraseDups_concat_of_not_mem {xs : List β} {x : β} (h : x ∉ xs) :
    (xs ++ [x]).eraseDups = xs.eraseDups ++ [x] := by
  have hnew : [x].removeAll xs = [x] := by simpa [List.removeAll] using h
  rw [List.eraseDups_append, hnew, List.eraseDups_cons, List.filter_nil, List.eraseDups_nil]

theorem eraseDups_flatMap_of_forall {xs : List α} {f : α → List β} {ys : List β} (hne : xs ≠ [])
    (h : ∀ x ∈ xs, f x = ys) : (xs.flatMap f).eraseDups = ys.eraseDups := by
  obtain ⟨x, xs, rfl⟩ := List.exists_cons_of_ne_nil hne
  obtain ⟨hx, hxs⟩ := List.forall_mem_cons.mp h
  have hold : (xs.flatMap f).removeAll ys = [] := by
    refine List.filter_eq_nil_iff.mpr fun y hy => ?_
    obtain ⟨z, hz, hy⟩ := List.mem_flatMap.mp hy
    rw [hxs z hz] at hy
    simpa using hy
  rw [List.flatMap_cons, hx, List.eraseDups_append, hold, List.eraseDups_nil, List.append_nil]

end

/-- Parameters of different names, each made of the first capture of its name, in order. -/
structure FirstOfNames (classes : Registry) (cs : List Capture) (ps : List SimpleParameter) :
    Prop where
  names : ps.map (·.name) = (cs.map (·.parameterName)).eraseDups
  first : ∀ p ∈ ps, ∃ c, cs.find? (·.parameterName = p.name) = some c ∧ c.Declares classes p

namespace FirstOfNames

variable {classes : Registry} {cs : List Capture} {ps : List SimpleParameter}

theorem mem_names_iff (h : FirstOfNames classes cs ps) (n : Option String) :
    n ∈ ps.map (·.name) ↔ n ∈ cs.map (·.parameterName) := by
  rw [h.names, List.mem_eraseDups]

theorem add (h : FirstOfNames classes cs ps) {c : Capture} {p : SimpleParameter}
    (hp : c.Declares classes p) : FirstOfNames classes (cs ++ [c]) (addNewNames ps [p]) := by
  have hlast : (cs ++ [c]).map (·.parameterName) = cs.map (·.parameterName) ++ [p.name] := by
    rw [List.map_append, List.map_singleton, hp.name]
  have hkeep : ∀ q ∈ ps, ∃ e, (cs ++ [c]).find? (·.parameterName = q.name) = some e ∧
      e.Declares classes q := fun q hq => by
    obtain ⟨e, he, hd⟩ := h.first q hq
    exact ⟨e, by rw [List.find?_append, he, Option.some_or], hd⟩
  by_cases hn : p.name ∈ ps.map (·.name)
  · have hany : ps.any (·.name = p.name) = true := by simpa using hn
    have hadd : addNewNames ps [p] = ps := if_pos hany
    rw [hadd]
    exact ⟨by rw [hlast, eraseDups_concat_of_mem ((h.mem_names_iff _).mp hn), h.names], hkeep⟩
  · have hany : ¬ps.any (·.name = p.name) = true := by simpa using hn
    have hadd : addNewNames ps [p] = ps ++ [p] := if_neg hany
    have hnew : p.name ∉ cs.map (·.parameterName) := fun hm => hn ((h.mem_names_iff _).mpr hm)
    rw [hadd]
    refine ⟨by rw [hlast, eraseDups_concat_of_not_mem hnew, ← h.names, List.map_append]; rfl,
      fun q hq => ?_⟩
    rcases List.mem_append.mp hq with hq | hq
    · exact hkeep q hq
    · have hnone : cs.find? (·.parameterName = p.name) = none :=
        List.find?_eq_none.mpr fun e he hep => hnew (List.mem_map.mpr ⟨e, he, by simpa using hep⟩)
      rw [List.mem_singleton.mp hq, List.find?_append, hnone]
      exact ⟨c, by simp [hp.name], hp⟩

theorem addNewNames_cons (acc : List SimpleParameter) (p : SimpleParameter)
    (ps : List SimpleParameter) :
    addNewNames acc (p :: ps) = addNewNames (addNewNames acc [p]) ps := rfl

theorem add_all (h : FirstOfNames classes cs ps) {ds : List Capture} {qs : List SimpleParameter}
    (hq : ds.mapM (Capture.parameter classes) = .ok qs) :
    FirstOfNames classes (cs ++ ds) (addNewNames ps qs) := by
  induction ds generalizing cs ps qs with
  | nil =>
    cases Except.ok.inj hq
    rwa [List.append_nil]
  | cons d ds ih =>
    obtain ⟨q, rest, hd, hrest, rfl⟩ := exists_of_mapM_cons hq
    rw [addNewNames_cons, List.append_cons]
    exact ih (h.add (Capture.declares_of_parameter hd)) hrest

end FirstOfNames

namespace PathRule

variable {classes : Registry}

/-- Has the sequence this template? Without one all sequences count. -/
def hasTemplate (template : Option String) (steps : List Step) : Bool :=
  match template with
  | some t => Step.template steps = t
  | none => true

theorem hasTemplate_of_isChosen {template : Option String} {s : List Step} {chosen : Bool}
    (h : isChosen template s = .ok chosen) : hasTemplate template s = chosen := by
  cases template with
  | none => exact Except.ok.inj h
  | some t =>
    obtain ⟨u, hu, rfl⟩ := exists_of_map_ok h
    unfold Step.rendered at hu
    split at hu
    · rw [hasTemplate, Except.ok.inj hu]
    · cases hu

/-- The captures of the sequences that have the template. -/
def capturesAt (template : Option String) (ss : List (List Step)) : List Capture :=
  (ss.filter (hasTemplate template)).flatMap Step.captures

theorem firstOfNames_of_fold {template : Option String} {ss : List (List Step)}
    (hss : ∀ s ∈ ss, Step.tail ∉ s.dropLast) {cs : List Capture} {acc ps : List SimpleParameter}
    (hacc : FirstOfNames classes cs acc)
    (h : ss.foldlM (addParameters classes template) acc = .ok ps) :
    FirstOfNames classes (cs ++ capturesAt template ss) ps := by
  induction ss generalizing cs acc with
  | nil =>
    cases Except.ok.inj h
    rwa [capturesAt, List.filter_nil, List.flatMap_nil, List.append_nil]
  | cons s ss ih =>
    obtain ⟨hs, hss⟩ := List.forall_mem_cons.mp hss
    obtain ⟨mid, hmid, h⟩ := exists_of_foldlM_cons h
    obtain ⟨chosen, hchosen, hmid⟩ := exists_of_bind_ok hmid
    rw [capturesAt, List.filter_cons, hasTemplate_of_isChosen hchosen]
    cases chosen with
    | false =>
      cases Except.ok.inj hmid
      exact ih hss hacc h
    | true =>
      obtain ⟨qs, hqs, hmid⟩ := exists_of_bind_ok hmid
      cases Except.ok.inj hmid
      rw [Step.parameters_eq_mapM hs] at hqs
      rw [if_pos rfl, List.flatMap_cons, ← List.append_assoc]
      exact ih hss (hacc.add_all hqs) h

variable {r : PathRule} {template : Option String} {ps : List SimpleParameter}

theorem firstOfNames_of_parameters (h : r.parameters classes template = .ok ps) :
    ∃ l, r.linearize = .ok l ∧ FirstOfNames classes (capturesAt template l.sequences) ps := by
  rw [parameters_eq] at h
  obtain ⟨l, hl, h⟩ := exists_of_bind_ok h
  have hnone : FirstOfNames classes [] [] := ⟨rfl, by simp⟩
  exact ⟨l, hl, firstOfNames_of_fold (not_mem_dropLast_of_linearize hl) hnone h⟩

/-- The sequences with a template capture the names in its braces, and do so alike. -/
theorem names_capturesAt {l : Linear} (hl : r.linearize = .ok l) (hr : r.IsPlain) {t : String}
    (ht : ∃ s ∈ l.sequences, Step.template s = t) :
    ((capturesAt (some t) l.sequences).map (·.parameterName)).eraseDups =
      ((Template.names t).map some).eraseDups := by
  obtain ⟨s, hs, hst⟩ := ht
  have hsome : l.sequences.filter (hasTemplate (some t)) ≠ [] :=
    List.ne_nil_of_mem (List.mem_filter.mpr ⟨hs, by simpa [hasTemplate] using hst⟩)
  rw [capturesAt, List.map_flatMap]
  refine eraseDups_flatMap_of_forall (β := Option String) hsome fun u hu => ?_
  obtain ⟨hu, hut⟩ := List.mem_filter.mp hu
  have hplain : ∀ x ∈ u, x.IsPlain := by
    rw [sequences_eq_of_linearize hl] at hu
    obtain ⟨b, hb, rfl⟩ := List.mem_map.mp hu
    exact hr.branches b hb
  rw [← Step.names_template_eq (not_mem_dropLast_of_linearize hl u hu) hplain,
    of_decide_eq_true hut]

theorem exists_sequence_of_templates {ts : List String} (h : r.templates = .ok ts) {l : Linear}
    (hl : r.linearize = .ok l) {t : String} (ht : t ∈ ts) :
    ∃ s ∈ l.sequences, Step.template s = t := by
  rw [templates, hl] at h
  obtain ⟨s, hs, hst⟩ := exists_of_mem_mapM h ht
  refine ⟨s, hs, ?_⟩
  unfold Step.rendered at hst
  split at hst
  · exact Except.ok.inj hst
  · cases hst

/-- A path lists its captures: those of the sequences with the template or, without one, of all,
each name once and in the order in which the names are captured first. -/
theorem captures_of_parameters (h : r.parameters classes template = .ok ps) :
    ∃ l, r.linearize = .ok l ∧ (∀ p ∈ ps, p.required = true) ∧ (ps.map (·.name)).Nodup ∧
      ps.map (·.name) =
        ((capturesAt template l.sequences).map (·.parameterName)).eraseDups ∧
      (∀ p ∈ ps, ∃ c, (capturesAt template l.sequences).find? (·.parameterName = p.name) = some c ∧
        c.Declares classes p) ∧
      ∀ t ts, template = some t → r.templates = .ok ts → t ∈ ts → r.IsPlain →
        ps.map (·.name) = ((Template.names t).map some).eraseDups := by
  obtain ⟨l, hl, hfirst⟩ := firstOfNames_of_parameters h
  obtain ⟨m, hm, hcaptured⟩ := capturedIn_of_parameters h
  refine ⟨l, hl, fun p hp => ?_, hcaptured.nodup, hfirst.names, hfirst.first, ?_⟩
  · obtain ⟨c, -, hc⟩ := hfirst.first p hp
    exact hc.required
  · rintro t ts rfl hts ht hr
    rw [hfirst.names, names_capturesAt hl hr (exists_sequence_of_templates hts hl ht)]

/-- A user by number or by name, or all below; each template is that of two sequences. -/
def usersByNumberOrName : PathRule :=
  .both (.literal (.str "users"))
    (.both (.either (.capture (.str "id") (.scalar .int) .null)
      (.capture (.str "id") (.scalar .str) (.str "Or a name"))) (.either .root .tail))

theorem captures_of_parameters_users :
    ∃ ps, usersByNumberOrName.parameters ∅ (some "/users/\x7bid\x7d/\x7btail...\x7d") = .ok ps ∧
      (∃ l, usersByNumberOrName.linearize = .ok l ∧
        (capturesAt (some "/users/\x7bid\x7d/\x7btail...\x7d") l.sequences).length = 4 ∧
        ∀ p ∈ ps, p.required = true) ∧
      usersByNumberOrName.IsPlain ∧ ps.map (·.name) = [some "id", some "tail..."] := by
  have hnames : (usersByNumberOrName.parameters ∅
      (some "/users/\x7bid\x7d/\x7btail...\x7d")).map (·.map (·.name)) =
        .ok [some "id", some "tail..."] := by cbv
  have hts : usersByNumberOrName.templates = .ok ["/users/\x7bid\x7d",
      "/users/\x7bid\x7d/\x7btail...\x7d", "/users/\x7bid\x7d",
      "/users/\x7bid\x7d/\x7btail...\x7d"] := by cbv
  have hplain : usersByNumberOrName.IsPlain := by
    simp [usersByNumberOrName, IsPlain, Step.IsPlain, PathRule.root]
  have hcount : usersByNumberOrName.linearize.map (fun l => (capturesAt
      (some "/users/\x7bid\x7d/\x7btail...\x7d") l.sequences).length) = .ok 4 := by cbv
  obtain ⟨ps, hps, -⟩ := exists_of_map_ok hnames
  obtain ⟨l, hl, hrequired, -, -, -, hbraces⟩ := captures_of_parameters hps
  obtain ⟨m, hm, hfour⟩ := exists_of_map_ok hcount
  cases hl.symm.trans hm
  refine ⟨ps, hps, ⟨l, hl, hfour, hrequired⟩, hplain, ?_⟩
  rw [hbraces _ _ rfl hts (by simp) hplain]
  decide +kernel

end PathRule

end RouteAtlas
