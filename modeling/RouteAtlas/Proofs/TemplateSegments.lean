import RouteAtlas.Proofs.Branches
import RouteAtlas.Route.Render
import RouteAtlas.Template

/-!
What can be read back from a path template: cut at its slashes it falls into the segments of its
parts, and where literals have no braces and names no slashes, the segments in braces are those of
the captures.
-/

namespace RouteAtlas

namespace Text

variable {sep : Char}

theorem pieces_ne_nil (cs : List Char) : pieces sep cs ≠ [] := by
  cases cs with
  | nil => simp [pieces]
  | cons c r =>
    unfold pieces
    split
    · simp
    · split <;> simp

theorem pieces_append (xs ys : List Char) :
    pieces sep (xs ++ sep :: ys) = pieces sep xs ++ pieces sep ys := by
  induction xs with
  | nil => simp [pieces]
  | cons c xs ih =>
    obtain ⟨p, ps, hp⟩ := List.exists_cons_of_ne_nil (@pieces_ne_nil sep xs)
    rw [List.cons_append, pieces, pieces, ih, hp]
    split <;> rfl

theorem pieces_of_not_mem {cs : List Char} (h : sep ∉ cs) : pieces sep cs = [cs] := by
  induction cs with
  | nil => rfl
  | cons c r ih =>
    have hc : c ≠ sep := fun hc => h (hc ▸ List.mem_cons_self)
    rw [pieces, if_neg hc, ih fun hr => h (List.mem_cons_of_mem _ hr)]

theorem mem_of_mem_pieces {cs p : List Char} (hp : p ∈ pieces sep cs) {c : Char} (hc : c ∈ p) :
    c ∈ cs := by
  induction cs generalizing p with
  | nil =>
    rw [List.mem_singleton.mp hp] at hc
    cases hc
  | cons d r ih =>
    obtain ⟨q, qs, hq⟩ := List.exists_cons_of_ne_nil (@pieces_ne_nil sep r)
    rw [pieces, hq] at hp
    split at hp
    · rcases List.mem_cons.mp hp with rfl | hp
      · cases hc
      · exact List.mem_cons_of_mem _ (ih (hq ▸ hp) hc)
    · rcases List.mem_cons.mp hp with rfl | hp
      · rcases List.mem_cons.mp hc with rfl | hc
        · exact List.mem_cons_self
        · exact List.mem_cons_of_mem _ (ih (hq ▸ List.mem_cons_self) hc)
      · exact List.mem_cons_of_mem _ (ih (hq ▸ List.mem_cons_of_mem _ hp) hc)

theorem mem_of_mem_segments {s segment : String} (h : segment ∈ segments sep s) {c : Char}
    (hc : c ∈ segment.toList) : c ∈ s.toList := by
  obtain ⟨p, hp, rfl⟩ := List.mem_map.mp (List.mem_filter.mp h).1
  exact mem_of_mem_pieces hp (by rwa [String.toList_ofList] at hc)

theorem segments_of_not_mem {s : String} (h : sep ∉ s.toList) (hs : s ≠ "") :
    segments sep s = [s] := by
  simp [segments, splitOn, pieces_of_not_mem h, hs]

theorem segments_slash (s t : String) :
    segments '/' (s ++ "/" ++ t) = segments '/' s ++ segments '/' t := by
  have hslash : "/".toList = ['/'] := rfl
  simp only [segments, splitOn, String.toList_append, hslash, List.append_assoc,
    List.singleton_append, pieces_append, List.map_append, List.filter_append]

/-- Joined with slashes, parts have their segments one after the other. -/
theorem segments_join (parts : List String) :
    segments '/' (join "/" parts) = parts.flatMap (segments '/') := by
  induction parts with
  | nil => rfl
  | cons p ps ih =>
    by_cases hps : ps = []
    · rw [hps, join, String.intercalate_singleton, List.flatMap_singleton]
    · rw [join, String.intercalate_cons_of_ne_nil hps, segments_slash, List.flatMap_cons, ← ih]
      rfl

theorem mem_of_mem_trimBy {p : Char → Bool} {s : String} {c : Char}
    (h : c ∈ (trimBy p s).toList) : c ∈ s.toList := by
  rw [trimBy, String.toList_ofList, trimList, List.mem_reverse] at h
  have hr := (List.dropWhile_sublist p).subset h
  exact (List.dropWhile_sublist p).subset (List.mem_reverse.mp hr)

end Text

namespace Template

/-- What stands between the ends of a segment. -/
def unframed (segment : String) : String := String.ofList (segment.toList.drop 1).dropLast

/-- The names that stand in braces, each as a whole segment. -/
def names (template : String) : List String :=
  ((segments template).filter (isCapture ·)).map unframed

theorem toList_placeholder (name : Value) :
    (placeholder name).toList = '{' :: (name.text.toList ++ ['}']) := by
  simp [placeholder, String.toList_append]

theorem isCapture_placeholder (name : Value) : isCapture (placeholder name) = true := by
  rw [isCapture, toList_placeholder, ← List.cons_append, List.getLast?_concat]
  rfl

theorem unframed_placeholder (name : Value) : unframed (placeholder name) = name.text := by
  simp [unframed, toList_placeholder]

theorem isCapture_of_not_mem {segment : String} (h : '{' ∉ segment.toList) :
    isCapture segment = false := by
  have hhead : segment.toList.head? ≠ some '{' := fun hh => h (List.mem_of_head? hh)
  simp [isCapture, hhead]

end Template

namespace Step

theorem eq_nil_of_tail {s : List Step} (h : Step.tail ∉ (Step.tail :: s).dropLast) : s = [] := by
  cases s with
  | nil => rfl
  | cons x s => exact absurd List.mem_cons_self h

theorem not_mem_dropLast_tail {x : Step} {s : List Step} (h : Step.tail ∉ (x :: s).dropLast) :
    Step.tail ∉ s.dropLast := by
  cases s with
  | nil => simp
  | cons y s => exact fun hm => h (List.mem_cons_of_mem _ hm)

/-- A literal without braces, or a capture whose name is a text without slashes. -/
def IsPlain : Step → Prop
  | .literal v => ∀ s, v = .str s → '{' ∉ s.toList ∧ '}' ∉ s.toList
  | .capture n _ _ => ∃ s, n = .str s ∧ '/' ∉ s.toList
  | _ => True

/-- The names in braces of the parts of a template. -/
theorem names_template (steps : List Step) : Template.names (template steps) =
    (((parts steps).flatMap (Text.segments '/')).filter (Template.isCapture ·)).map
      Template.unframed := by
  have hempty : Text.segments '/' "" = [] := rfl
  have hslash := Text.segments_slash "" (Text.join "/" (parts steps))
  rw [hempty, List.nil_append, Text.segments_join] at hslash
  exact congrArg (fun ps => (ps.filter (Template.isCapture ·)).map Template.unframed) hslash

/-- No segment of a literal without braces is in braces. -/
theorem isCapture_of_literalPart {v : Value} (h : (Step.literal v).IsPlain) :
    ∀ segment ∈ (literalPart v).flatMap (Text.segments '/'),
      Template.isCapture segment = false := by
  intro segment hs
  obtain ⟨part, hpart, hs⟩ := List.mem_flatMap.mp hs
  refine Template.isCapture_of_not_mem fun hc => ?_
  have hpc := Text.mem_of_mem_segments hs hc
  cases v with
  | str text =>
    unfold literalPart at hpart
    dsimp only at hpart
    split at hpart
    · cases hpart
    · rw [List.mem_singleton.mp hpart] at hpc
      exact (h text rfl).1 (Text.mem_of_mem_trimBy hpc)
  | _ => simp [literalPart] at hpart

theorem segments_placeholder {name : String} (h : '/' ∉ name.toList) :
    Text.segments '/' (placeholder (.str name)) = [placeholder (.str name)] := by
  refine Text.segments_of_not_mem ?_ fun he => ?_
  · rw [Template.toList_placeholder]
    simpa [Value.text] using h
  · simpa [he] using Template.toList_placeholder (.str name)

end Step

/-- A step on the way on from a branch is one of the branch or one of what follows. -/
theorem Branch.mem_of_followedBy {b c : Branch} {more : List Branch} (hc : c ∈ b.followedBy more)
    {s : Step} (hs : s ∈ c.steps) : s ∈ b.steps ∨ ∃ e ∈ more, s ∈ e.steps := by
  obtain ⟨steps, ending⟩ := b
  cases ending with
  | ongoing =>
    obtain ⟨e, he, rfl⟩ := List.mem_map.mp hc
    exact (List.mem_append.mp hs).imp_right fun hs => ⟨e, he, hs⟩
  | _ => exact .inl (List.mem_singleton.mp hc ▸ hs)

namespace PathRule

/-- No literal of the rule has a brace, and the names of its captures are texts without slashes. -/
def IsPlain : PathRule → Prop
  | .literal v => (Step.literal v).IsPlain
  | .capture n t d => (Step.capture n t d).IsPlain
  | .both l r => l.IsPlain ∧ r.IsPlain
  | .either l r => l.IsPlain ∧ r.IsPlain
  | .noted r _ => r.IsPlain
  | .tail => True
  | .foreign _ => True

theorem IsPlain.branches {r : PathRule} (h : r.IsPlain) :
    ∀ b ∈ r.branches, ∀ s ∈ b.steps, s.IsPlain := by
  induction r with
  | literal v => simpa [PathRule.branches, PathRule.IsPlain] using h
  | capture n t d => simpa [PathRule.branches, PathRule.IsPlain] using h
  | tail => simp [PathRule.branches, Step.IsPlain]
  | foreign v => simp [PathRule.branches]
  | both l r ihl ihr =>
    intro b hb s hs
    obtain ⟨c, hc, hb⟩ := List.mem_flatMap.mp hb
    rcases Branch.mem_of_followedBy hb hs with hs | ⟨e, he, hs⟩
    · exact ihl h.1 c hc s hs
    · exact ihr h.2 e he s hs
  | either l r ihl ihr =>
    intro b hb
    exact (List.mem_append.mp hb).elim (ihl h.1 b) (ihr h.2 b)
  | noted r n ih =>
    intro b hb s hs
    obtain ⟨c, hc, rfl⟩ := List.mem_map.mp hb
    rcases List.mem_cons.mp hs with rfl | hs
    · exact trivial
    · exact ih h c hc s hs

end PathRule

end RouteAtlas
