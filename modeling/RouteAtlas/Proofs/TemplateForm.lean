import RouteAtlas.Proofs.TemplateSegments

/-!
Templates as a normal form. A text that is read as a path has the template of its segments, which is
read as a path with that template again. Where neither literals nor names have slashes, cutting a
template at its slashes gives back the segments that the steps have put in, so the name of an
operation tells of the literals alone.
-/

namespace RouteAtlas

namespace Text

variable {sep : Char}

theorem not_mem_of_mem_pieces {cs p : List Char} (hp : p ∈ pieces sep cs) : sep ∉ p := by
  induction cs generalizing p with
  | nil =>
    rw [List.mem_singleton.mp hp]
    exact List.not_mem_nil
  | cons c r ih =>
    obtain ⟨q, qs, hq⟩ := List.exists_cons_of_ne_nil (@pieces_ne_nil sep r)
    rw [pieces, hq] at hp
    split at hp
    next =>
      rcases List.mem_cons.mp hp with rfl | hp
      · exact List.not_mem_nil
      · exact ih (hq ▸ hp)
    next hc =>
      rcases List.mem_cons.mp hp with rfl | hp
      · intro hmem
        rcases List.mem_cons.mp hmem with rfl | hmem
        · exact hc rfl
        · exact ih (hq ▸ List.mem_cons_self) hmem
      · exact ih (hq ▸ List.mem_cons_of_mem _ hp)

/-- A segment has characters, none of them the separator. -/
def IsSegment (sep : Char) (s : String) : Prop := sep ∉ s.toList ∧ s ≠ ""

theorem isSegment_of_mem_segments {s segment : String} (h : segment ∈ segments sep s) :
    IsSegment sep segment := by
  obtain ⟨hmem, hne⟩ := List.mem_filter.mp h
  obtain ⟨p, hp, rfl⟩ := List.mem_map.mp hmem
  refine ⟨?_, by simpa using hne⟩
  rw [String.toList_ofList]
  exact not_mem_of_mem_pieces hp

/-- Segments that are joined behind a slash are cut apart again. -/
theorem segments_slash_join {parts : List String} (h : ∀ p ∈ parts, IsSegment '/' p) :
    segments '/' ("/" ++ join "/" parts) = parts := by
  have hempty : segments '/' "" = [] := rfl
  have hcut := segments_slash "" (join "/" parts)
  rw [hempty, List.nil_append, segments_join] at hcut
  have hparts : parts.flatMap (segments '/') = parts := by
    induction parts with
    | nil => rfl
    | cons p ps ih =>
      obtain ⟨hp, hps⟩ := List.forall_mem_cons.mp h
      rw [List.flatMap_cons, segments_of_not_mem hp.1 hp.2]
      exact congrArg (p :: ·) (ih hps (by rw [segments_slash, segments_join]; rfl))
  exact hcut.trans hparts

theorem trimBy_of_not_mem {c : Char} {s : String} (h : c ∉ s.toList) :
    trimBy (· = c) s = s := by
  have hdrop : ∀ cs : List Char, c ∉ cs → cs.dropWhile (· = c) = cs := fun cs hcs => by
    cases cs with
    | nil => rfl
    | cons d r =>
      have hd : d ≠ c := fun hd => hcs (hd ▸ List.mem_cons_self)
      exact List.dropWhile_cons_of_neg (by simpa using hd)
  have hrev : c ∉ s.toList.reverse := fun hm => h (List.mem_reverse.mp hm)
  rw [trimBy, trimList, hdrop _ h, hdrop _ hrev, List.reverse_reverse, String.ofList_toList]

end Text

namespace Step

/-- The text of a literal that is not empty. -/
def literal? : Step → Option String
  | .literal (.str s) => if s = "" then none else some s
  | _ => none

/-- The segment that a step puts into a template: a literal that is not empty as it stands, a
capture or a tail by its name in braces. -/
def segment? : Step → Option String
  | .capture n _ _ => some (placeholder n)
  | .tail => some (placeholder (.str tailName))
  | x => x.literal?

/-- A literal is a text without slashes, and the name of a capture has none. -/
def IsSlashless : Step → Prop
  | .literal v => ∃ s, v = .str s ∧ '/' ∉ s.toList
  | .capture n _ _ => '/' ∉ n.text.toList
  | _ => True

theorem isSegment_placeholder {name : Value} (h : '/' ∉ name.text.toList) :
    Text.IsSegment '/' (placeholder name) := by
  refine ⟨?_, fun he => ?_⟩
  · rw [Template.toList_placeholder]
    simpa using h
  · simpa [he] using Template.toList_placeholder name

theorem isSegment_of_segment? {x : Step} (hx : x.IsSlashless) {p : String}
    (hp : x.segment? = some p) : Text.IsSegment '/' p := by
  cases x with
  | literal v =>
    obtain ⟨s, rfl, hs⟩ := hx
    change (if s = "" then none else some s) = some p at hp
    split at hp
    next => cases hp
    next hne =>
      cases hp
      exact ⟨hs, hne⟩
  | capture n t d =>
    cases hp
    exact isSegment_placeholder hx
  | tail =>
    cases hp
    exact isSegment_placeholder (by decide)
  | note n => cases hp

theorem literalPart_of_not_mem {s : String} (h : '/' ∉ s.toList) :
    literalPart (.str s) = (segment? (.literal (.str s))).toList := by
  show (if Text.trimBy (· = '/') s = "" then [] else [Text.trimBy (· = '/') s]) =
    (if s = "" then none else some s).toList
  rw [Text.trimBy_of_not_mem h]
  split <;> rfl

variable {steps : List Step}

/-- Without slashes in it, a sequence has the parts that its steps put in one by one. -/
theorem parts_eq_filterMap (htail : Step.tail ∉ steps.dropLast)
    (h : ∀ x ∈ steps, x.IsSlashless) : parts steps = steps.filterMap segment? := by
  induction steps with
  | nil => rfl
  | cons x r ih =>
    have ih := ih (not_mem_dropLast_tail htail) fun y hy => h y (List.mem_cons_of_mem _ hy)
    cases x with
    | literal v =>
      obtain ⟨s, rfl, hs⟩ := h _ List.mem_cons_self
      rw [parts, literalPart_of_not_mem hs, ih]
      cases hx : segment? (.literal (.str s)) with
      | none => rw [List.filterMap_cons_none hx]; rfl
      | some p => rw [List.filterMap_cons_some hx]; rfl
    | capture n t d =>
      rw [parts, ih]
      rfl
    | tail =>
      rw [eq_nil_of_tail htail]
      rfl
    | note n => exact ih

theorem segments_template (htail : Step.tail ∉ steps.dropLast)
    (h : ∀ x ∈ steps, x.IsSlashless) :
    Template.segments (template steps) = steps.filterMap segment? := by
  rw [Template.segments, template, parts_eq_filterMap htail h]
  refine Text.segments_slash_join fun p hp => ?_
  obtain ⟨x, hx, hp⟩ := List.mem_filterMap.mp hp
  exact isSegment_of_segment? (h x hx) hp

/-- The segments that are not in braces are those of the literals. -/
theorem filter_segments (steps : List Step) :
    (steps.filterMap segment?).filter (!Template.isCapture ·) =
      (steps.filterMap literal?).filter (!Template.isCapture ·) := by
  induction steps with
  | nil => rfl
  | cons x r ih =>
    cases x with
    | literal v =>
      cases hx : literal? (.literal v) with
      | none =>
        have hx' : segment? (.literal v) = none := hx
        rwa [List.filterMap_cons_none hx, List.filterMap_cons_none hx']
      | some p =>
        have hx' : segment? (.literal v) = some p := hx
        rw [List.filterMap_cons_some hx, List.filterMap_cons_some hx', List.filter_cons,
          List.filter_cons, ih]
    | capture n t d =>
      have hx : segment? (.capture n t d) = some (placeholder n) := rfl
      have hx' : literal? (.capture n t d) = none := rfl
      rw [List.filterMap_cons_some hx, List.filterMap_cons_none hx', List.filter_cons_of_neg, ih]
      simp [Template.isCapture_placeholder]
    | tail =>
      have hx : segment? .tail = some (placeholder (.str tailName)) := rfl
      have hx' : literal? .tail = none := rfl
      rw [List.filterMap_cons_some hx, List.filterMap_cons_none hx', List.filter_cons_of_neg, ih]
      simp [Template.isCapture_placeholder]
    | note n => exact ih

/-- The name of an operation tells of the literals of its path and of nothing else. -/
theorem operationId_template (htail : Step.tail ∉ steps.dropLast)
    (h : ∀ x ∈ steps, x.IsSlashless) (method : String) :
    Template.operationId (template steps) method = Text.lower method ++
      String.join (((steps.filterMap literal?).filter (!Template.isCapture ·)).map
        Text.capitalizeFirst) := by
  rw [Template.operationId, Template.literals, segments_template htail h, filter_segments]

theorem untextual?_of_slashless (h : ∀ x ∈ steps, x.IsSlashless) : untextual? steps = none := by
  induction steps with
  | nil => rfl
  | cons x r ih =>
    have ih := ih fun y hy => h y (List.mem_cons_of_mem _ hy)
    cases x with
    | literal v =>
      obtain ⟨s, rfl, -⟩ := h _ List.mem_cons_self
      exact ih
    | tail => rfl
    | capture n t d => exact ih
    | note n => exact ih

theorem rendered_of_slashless (h : ∀ x ∈ steps, x.IsSlashless) :
    rendered steps = .ok (template steps) := by
  rw [rendered, untextual?_of_slashless h]

end Step

namespace PathRule

theorem branches_foldl_both {steps : List Step} {r : PathRule}
    (h : r.branches = [⟨steps, .ongoing⟩]) (ps : List String) :
    (ps.foldl (fun rule p => .both rule (.literal (.str p))) r).branches =
      [⟨steps ++ ps.map fun p => .literal (.str p), .ongoing⟩] := by
  induction ps generalizing steps r with
  | nil => simpa using h
  | cons p ps ih =>
    have hboth : (PathRule.both r (.literal (.str p))).branches =
        [⟨steps ++ [.literal (.str p)], .ongoing⟩] := by
      simp [branches, h, Branch.followedBy, Branch.after]
    rw [List.foldl_cons, ih hboth, List.append_assoc, List.map_cons, List.singleton_append]

theorem filterMap_literals {ps : List String} (h : ∀ p ∈ ps, Text.IsSegment '/' p) :
    (ps.map fun p => Step.literal (.str p)).filterMap Step.segment? = ps := by
  induction ps with
  | nil => rfl
  | cons p ps ih =>
    obtain ⟨hp, hps⟩ := List.forall_mem_cons.mp h
    have hx : Step.segment? (.literal (.str p)) = some p := if_neg hp.2
    rw [List.map_cons, List.filterMap_cons_some hx, ih hps]

/-- A text without segments is the empty literal, any other the literals of its segments. -/
theorem exists_branches_ofText (s : String) :
    ∃ steps : List Step, (ofText s).branches = [⟨steps, .ongoing⟩] ∧
      Step.tail ∉ steps.dropLast ∧ (∀ x ∈ steps, x.IsSlashless) ∧
      steps.filterMap Step.segment? = Text.segments '/' s := by
  unfold ofText
  cases hs : Text.segments '/' s with
  | nil => exact ⟨_, rfl, by simp, by simp [Step.IsSlashless], rfl⟩
  | cons p ps =>
    have hall : ∀ q ∈ p :: ps, Text.IsSegment '/' q := fun q hq =>
      Text.isSegment_of_mem_segments (hs ▸ hq)
    have hbranches := branches_foldl_both (r := .literal (.str p)) rfl ps
    refine ⟨(p :: ps).map fun q => .literal (.str q), hbranches, fun hm => ?_, fun x hx => ?_, ?_⟩
    · obtain ⟨q, -, hq⟩ := List.mem_map.mp (List.dropLast_subset _ hm)
      cases hq
    · obtain ⟨q, hq, rfl⟩ := List.mem_map.mp hx
      exact ⟨q, rfl, (hall q hq).1⟩
    · exact filterMap_literals hall

/-- A slash, and behind it the segments of the text with slashes between them. -/
def textTemplate (s : String) : String := "/" ++ Text.join "/" (Text.segments '/' s)

/-- Read as a path, a text has one template, that of its segments. -/
theorem templates_ofText (s : String) : (ofText s).templates = .ok [textTemplate s] := by
  obtain ⟨steps, hb, htail, hplain, hsegments⟩ := exists_branches_ofText s
  have hseq := sequences_of_linearize (ofText s)
  rw [hb] at hseq
  obtain ⟨l, hl, hl'⟩ := exists_of_map_ok (hseq.trans rfl : _ = .ok [steps])
  have htemplate : Step.template steps = textTemplate s := by
    rw [Step.template, Step.parts_eq_filterMap htail hplain, hsegments, textTemplate]
  rw [templates, hl]
  show l.sequences.mapM Step.rendered = _
  rw [hl', ← htemplate, List.mapM_cons, Step.rendered_of_slashless hplain]
  rfl

theorem textTemplate_textTemplate (s : String) : textTemplate (textTemplate s) = textTemplate s :=
  congrArg (fun ps => "/" ++ Text.join "/" ps)
    (Text.segments_slash_join fun _ => Text.isSegment_of_mem_segments)

/-- The sequence is one of those that rules in sequence admit. -/
def Admits (rules : List PathRule) (steps : List Step) : Prop :=
  ∃ l, linearizeAll rules = .ok l ∧ steps ∈ l.sequences

theorem Admits.not_mem_dropLast {rules : List PathRule} {steps : List Step}
    (h : Admits rules steps) : Step.tail ∉ steps.dropLast := by
  obtain ⟨l, hl, hs⟩ := h
  have hall := sequences_of_linearizeAll rules
  rw [hl] at hall
  obtain ⟨b, hb, hbs⟩ := exists_of_mem_mapM hall.symm hs
  rw [← Branch.steps_of_result hbs]
  exact (endsAtTail_branchesAll rules b hb).not_mem_dropLast

theorem admits_of_results {rules : List PathRule} {ss : List (List Step)}
    (h : Branch.results (branchesAll rules) = .ok ss) {steps : List Step} (hs : steps ∈ ss) :
    Admits rules steps := by
  have hall := sequences_of_linearizeAll rules
  rw [h] at hall
  obtain ⟨l, hl, rfl⟩ := exists_of_map_ok hall
  exact ⟨l, hl, hs⟩

/-- The posts of a user, with the captures that the path may have. -/
def postsOf (captures : List Step) : List Step :=
  .literal (.str "users") :: captures ++ [.literal (.str ""), .literal (.str "posts"), .tail]

end PathRule

end RouteAtlas
