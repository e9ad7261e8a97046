import Mathlib.Data.List.TakeWhile
import RouteAtlas.Proofs.BuildSteps
import RouteAtlas.Proofs.TemplateSegments
import RouteAtlas.Schema.Describe

/-!
Descriptions of classes. They are taken from the text that is written for a class, up to the first
line without text; where this fails, it is because of texts that are made up for classes, of texts
that look as if they were, or of blanks on the line that should end the first paragraph.
-/

namespace RouteAtlas

namespace Text

variable {p : Char → Bool} {cs xs ys : List Char}

/-- Trimming drops nothing but what it is meant to drop. -/
theorem filter_trimList (p : Char → Bool) (cs : List Char) :
    (trimList p cs).filter (!p ·) = cs.filter (!p ·) := by
  have hdrop : ∀ cs : List Char, (cs.dropWhile p).filter (!p ·) = cs.filter (!p ·) := fun cs => by
    induction cs with
    | nil => rfl
    | cons c r ih =>
      by_cases hc : p c = true
      · rw [List.dropWhile_cons_of_pos hc, ih, List.filter_cons_of_neg (by simpa using hc)]
      · rw [List.dropWhile_cons_of_neg hc]
  rw [trimList, List.filter_reverse, hdrop, List.filter_reverse, List.reverse_reverse, hdrop]

theorem trimList_append (h : ∀ c ∈ ys, p c = true) : trimList p (xs ++ ys) = trimList p xs := by
  have hys : ∀ zs : List Char, (ys.reverse ++ zs).dropWhile p = zs.dropWhile p := fun zs =>
    List.dropWhile_append_of_pos fun c hc => h c (List.mem_reverse.mp hc)
  have hnil : ys.dropWhile p = [] := List.dropWhile_eq_nil_iff.mpr h
  unfold trimList
  rw [List.dropWhile_append]
  cases hx : (xs.dropWhile p).isEmpty with
  | true => simp [List.isEmpty_iff.mp hx, hnil]
  | false => simp [hys]

/-- More at the end of a text makes no difference to the trimmed text just if it is all trimmed. -/
theorem trimList_append_eq_iff :
    trimList p (xs ++ ys) = trimList p xs ↔ ∀ c ∈ ys, p c = true := by
  refine ⟨fun h => ?_, trimList_append⟩
  -- All that is not trimmed stays, so there is none of it in `ys`.
  have hfilter := congrArg (List.filter (!p ·)) h
  rw [filter_trimList, filter_trimList, List.filter_append, List.append_right_eq_self] at hfilter
  simpa using List.filter_eq_nil_iff.mp hfilter

theorem trimList_eq_nil_iff : trimList p cs = [] ↔ ∀ c ∈ cs, p c = true := by
  have h := @trimList_append_eq_iff p [] cs
  rwa [List.nil_append] at h

/-- Does the text have more than blanks? -/
def hasText (s : String) : Bool := s.toList.any (!isBlank ·)

/-- The lines of a text without the blanks at its ends. -/
def trimmedLines (s : String) : List String := splitOn '\n' (trim s)

/-- What stands in front of the first line without text, without the blanks at its ends. -/
def paragraph (s : String) : String := trim (join "\n" ((trimmedLines s).takeWhile (hasText ·)))

/-- The lines from the first one without text up to the next empty one. -/
def gap (s : String) : List String :=
  ((trimmedLines s).dropWhile (hasText ·)).takeWhile (· ≠ "")

/-- Lines after the first, each behind a line feed. -/
def continued (lines : List (List Char)) : List Char := lines.flatMap ('\n' :: ·)

theorem intercalate_cons (p : List Char) (ps : List (List Char)) :
    ['\n'].intercalate (p :: ps) = p ++ continued ps := by
  induction ps generalizing p with
  | nil => simp [continued]
  | cons q qs ih =>
    rw [List.intercalate_cons_cons, ih]
    simp [continued]

theorem firstParagraph_cons {c : Char} {r : List Char} (h : ¬(c = '\n' ∧ r.head? = some '\n')) :
    firstParagraph (c :: r) = c :: firstParagraph r := by
  rw [firstParagraph]
  rintro t rfl rfl
  exact h ⟨rfl, rfl⟩

/-- The lines of a text up to the first empty one behind the first line. -/
theorem firstParagraph_eq {cs p : List Char} {ps : List (List Char)}
    (hp : pieces '\n' cs = p :: ps) (hlast : cs.getLast? ≠ some '\n') :
    firstParagraph cs = p ++ continued (ps.takeWhile (· ≠ [])) := by
  induction cs generalizing p ps with
  | nil =>
    cases hp
    rfl
  | cons c r ih =>
    obtain ⟨q, qs, hq⟩ := List.exists_cons_of_ne_nil (@pieces_ne_nil '\n' r)
    have hr : r.getLast? ≠ some '\n' := fun hr => hlast (by rw [List.getLast?_cons, hr]; rfl)
    have ih := ih hq hr
    rw [pieces, hq] at hp
    by_cases hc : c = '\n'
    · rw [if_pos hc] at hp
      cases hp
      cases r with
      | nil => exact absurd (congrArg some hc) hlast
      | cons d t =>
        rw [pieces] at hq
        by_cases hd : d = '\n'
        · -- The empty line: nothing more is taken.
          rw [if_pos hd] at hq
          cases hq
          rw [hc, hd, firstParagraph]
          rfl
        · have hne : q ≠ [] := by
            rw [if_neg hd] at hq
            split at hq <;> (cases hq; exact List.cons_ne_nil _ _)
          have hone : ¬(c = '\n' ∧ (d :: t).head? = some '\n') := fun h =>
            hd (Option.some.inj h.2)
          rw [firstParagraph_cons hone, ih, hc, List.takeWhile_cons_of_pos (by simpa using hne)]
          rfl
    · rw [if_neg hc] at hp
      cases hp
      rw [firstParagraph_cons fun h => hc h.1, ih]
      rfl

/-- What is left of a text does not begin with what is trimmed. -/
theorem head?_trimList {c : Char} (h : (trimList p cs).head? = some c) : p c = false := by
  have hprefix : trimList p cs <+: cs.dropWhile p :=
    List.reverse_suffix.mp (by simpa [trimList] using List.dropWhile_suffix p)
  obtain ⟨more, hmore⟩ := hprefix
  have hc := List.head?_dropWhile_not p cs
  rwa [← hmore, List.head?_append, h] at hc

/-- What is left of a text does not end with what is trimmed. -/
theorem getLast?_trimList {c : Char} (h : (trimList p cs).getLast? = some c) : p c = false := by
  rw [trimList, List.getLast?_reverse] at h
  have hc := List.head?_dropWhile_not p (cs.dropWhile p).reverse
  rwa [h] at hc

theorem toList_trim (s : String) : (trim s).toList = trimList isBlank s.toList :=
  String.toList_ofList

theorem trim_eq_empty_iff {s : String} : trim s = "" ↔ hasText s = false := by
  rw [← String.toList_eq_nil_iff, toList_trim, trimList_eq_nil_iff]
  simp [hasText]

/-- The first line of a text that is more than blanks has text. -/
theorem exists_trimmedLines {s : String} (h : hasText s = true) :
    ∃ line lines, trimmedLines s = line :: lines ∧ hasText line = true := by
  have hne : trimList isBlank s.toList ≠ [] := fun hnil => by
    have hnone := trim_eq_empty_iff.mp (String.toList_eq_nil_iff.mp ((toList_trim s).trans hnil))
    rw [hnone] at h
    cases h
  obtain ⟨c, r, hcr⟩ := List.exists_cons_of_ne_nil hne
  have hhead : (trimList isBlank s.toList).head? = some c := by
    rw [hcr]
    rfl
  have hc : isBlank c = false := head?_trimList hhead
  have hfeed : c ≠ '\n' := by
    rintro rfl
    cases hc
  obtain ⟨q, qs, hq⟩ := List.exists_cons_of_ne_nil (@pieces_ne_nil '\n' r)
  refine ⟨.ofList (c :: q), qs.map .ofList, ?_, ?_⟩
  · rw [trimmedLines, splitOn, toList_trim, hcr, pieces, if_neg hfeed, hq]
    rfl
  · simp [hasText, hc]

theorem toList_join (line : String) (lines : List String) :
    (join "\n" (line :: lines)).toList = line.toList ++ continued (lines.map String.toList) := by
  rw [join, String.toList_intercalate, List.map_cons]
  exact intercalate_cons _ _

theorem takeWhile_trimmedLines (s : String) :
    (trimmedLines s).takeWhile (hasText ·) ++ gap s = (trimmedLines s).takeWhile (· ≠ "") := by
  have htext : ∀ line ∈ (trimmedLines s).takeWhile (hasText ·), decide (line ≠ "") = true := by
    intro line hline
    have hhas : hasText line = true := List.mem_takeWhile_imp hline
    refine decide_eq_true ?_
    rintro rfl
    cases hhas
  rw [gap, ← List.takeWhile_append_of_pos htext, List.takeWhile_append_dropWhile]

/-- The text up to the first empty line, by its lines. -/
theorem firstParagraph_trim {s : String} (h : hasText s = true) :
    String.ofList (firstParagraph (trim s).toList) =
      join "\n" ((trimmedLines s).takeWhile (hasText ·) ++ gap s) := by
  obtain ⟨p, ps, hp⟩ := List.exists_cons_of_ne_nil (@pieces_ne_nil '\n' (trim s).toList)
  have hlines : trimmedLines s = .ofList p :: ps.map .ofList := by
    rw [trimmedLines, splitOn, hp, List.map_cons]
  have hfirst : String.ofList p ≠ "" := by
    obtain ⟨line, lines, hcons, hline⟩ := exists_trimmedLines h
    rw [hlines] at hcons
    obtain ⟨rfl, -⟩ := List.cons.inj hcons
    intro hnil
    rw [hnil] at hline
    cases hline
  have hlast : (trim s).toList.getLast? ≠ some '\n' := fun hlast => by
    rw [toList_trim] at hlast
    exact absurd (getLast?_trimList hlast) (by decide)
  have hrest : ((ps.map String.ofList).takeWhile (· ≠ "")).map String.toList =
      ps.takeWhile (· ≠ []) := by
    rw [List.takeWhile_map, List.map_map]
    have hid : String.toList ∘ String.ofList = id := funext fun _ => String.toList_ofList
    have hne : (fun line : String => decide (line ≠ "")) ∘ String.ofList =
        fun line => decide (line ≠ []) := funext fun line => by simp
    rw [hid, hne, List.map_id]
  rw [takeWhile_trimmedLines, hlines, List.takeWhile_cons_of_pos (by simpa using hfirst),
    firstParagraph_eq hp hlast, ← String.ofList_toList (s := join _ _), toList_join, hrest,
    String.toList_ofList]

theorem continued_append (xs ys : List (List Char)) :
    continued (xs ++ ys) = continued xs ++ continued ys :=
  List.flatMap_append

theorem trim_firstParagraph_eq_iff {s : String} (h : hasText s = true) :
    trim (String.ofList (firstParagraph (trim s).toList)) = paragraph s ↔
      ∀ line ∈ gap s, hasText line = false := by
  obtain ⟨line, lines, hlines, hline⟩ := exists_trimmedLines h
  -- The cut takes the paragraph and the gap, so they agree if the gap is all trimmed.
  rw [firstParagraph_trim h, paragraph, hlines, List.takeWhile_cons_of_pos hline,
    List.cons_append, ← String.toList_inj, toList_trim, toList_trim, toList_join, toList_join,
    List.map_append, continued_append, ← List.append_assoc, trimList_append_eq_iff]
  have hfeed : isBlank '\n' = true := rfl
  rw [continued, List.forall_mem_flatMap]
  simp [hfeed, hasText]

theorem trim_firstParagraph_ne_empty {s : String} (h : hasText s = true) :
    trim (String.ofList (firstParagraph (trim s).toList)) ≠ "" := by
  obtain ⟨line, lines, hlines, hline⟩ := exists_trimmedLines h
  rw [firstParagraph_trim h, hlines, List.takeWhile_cons_of_pos hline, List.cons_append, ne_eq,
    trim_eq_empty_iff, hasText, toList_join, List.any_append]
  exact fun hnone => absurd hline (by rw [hasText, (Bool.or_eq_false_iff.mp hnone).1]; decide)

end Text

namespace ClassDecl

/-- The first paragraph of the text that is written for a class, if this is more than blanks. -/
def written? (d : ClassDecl) : Option String := (d.doc.filter Text.hasText).map Text.paragraph

/-- Does a text begin like the signature of the class? -/
def isSignature (d : ClassDecl) (doc : String) : Bool := Text.startsWith (d.name ++ "(") doc

variable {d : ClassDecl} {doc : String}

theorem description_of_docText (h : d.docText = some doc) (ht : Text.hasText doc = true) :
    d.description = if d.isRecord && d.isSignature doc then none
      else some (Text.trim (.ofList (Text.firstParagraph (Text.trim doc).toList))) := by
  rw [description, h]
  dsimp only
  rw [if_neg (Text.trim_firstParagraph_ne_empty ht)]
  rfl

theorem description_of_not_hasText (h : ∀ doc ∈ d.docText, Text.hasText doc = false) :
    d.description = none := by
  rw [description]
  cases hd : d.docText with
  | none => rfl
  | some doc =>
    have htrim := Text.trim_eq_empty_iff.mpr (h doc hd)
    have hempty : Text.trim (.ofList (Text.firstParagraph "".toList)) = "" := rfl
    simp only [htrim, hempty, if_true, ite_self]

theorem hasText_placesDoc (d : ClassDecl) : Text.hasText d.placesDoc = true := by
  refine List.any_eq_true.mpr ⟨'(', ?_, rfl⟩
  simp [placesDoc]

theorem not_isRecord (h : d.isPlaces = true) : d.isRecord = false := by
  unfold isPlaces at h
  unfold isRecord
  cases hk : d.kind with
  | record generic => rw [hk] at h; cases h
  | _ => rfl

theorem docText_of_doc (h : d.doc = some doc) : d.docText = some doc := by
  rw [docText, h]
  exact ite_self _

/-- A class for which nothing is written has no description, unless it is one of places. -/
theorem description_eq_none_iff (h : d.doc = none) : d.description = none ↔ d.isPlaces = false := by
  cases hp : d.isPlaces with
  | false =>
    have hnone : d.docText = none := by rw [docText, hp, h]; rfl
    refine iff_of_true (description_of_not_hasText ?_) rfl
    rw [hnone]
    nofun
  | true =>
    have hplaces : d.docText = some d.placesDoc := by rw [docText, hp, h]; rfl
    rw [description_of_docText hplaces (hasText_placesDoc d), not_isRecord hp]
    exact iff_of_false nofun nofun

/-- A class for which more than blanks are written has the first paragraph of it, unless it is a
record and this is its signature, or there is text in the gap behind the first paragraph. -/
theorem description_eq_paragraph_iff (h : d.doc = some doc) (ht : Text.hasText doc = true) :
    d.description = some (Text.paragraph doc) ↔
      ¬(d.isRecord = true ∧ d.isSignature doc = true) ∧
        ∀ line ∈ Text.gap doc, Text.hasText line = false := by
  rw [description_of_docText (docText_of_doc h) ht]
  cases hs : d.isRecord && d.isSignature doc with
  | true => exact iff_of_false nofun fun hn => hn.1 (Bool.and_eq_true_iff.mp hs)
  | false =>
    have hno : ¬(d.isRecord = true ∧ d.isSignature doc = true) := fun hn => by
      rw [Bool.and_eq_true_iff.mpr hn] at hs
      cases hs
    rw [if_neg Bool.false_ne_true, Option.some_inj, Text.trim_firstParagraph_eq_iff ht]
    exact (and_iff_right hno).symm

theorem isSignature_made (d : ClassDecl) (made : String) :
    d.isSignature (d.name ++ "(" ++ made) = true := by
  have happend : (d.name ++ "(" ++ made).toList = (d.name ++ "(").toList ++ made.toList :=
    String.toList_append
  rw [isSignature, Text.startsWith, List.isPrefixOf_iff_prefix, happend]
  exact List.prefix_append _ _

theorem description_made (made : String) (h : d.isRecord = true) :
    { d with doc := some (d.name ++ "(" ++ made) }.description = none := by
  have ht : Text.hasText (d.name ++ "(" ++ made) = true :=
    List.any_eq_true.mpr ⟨'(', by simp, rfl⟩
  have hs : (d.isRecord && d.isSignature (d.name ++ "(" ++ made)) = true :=
    Bool.and_eq_true_iff.mpr ⟨h, isSignature_made d made⟩
  rw [description_of_docText (docText_of_doc rfl) ht]
  exact if_pos hs

/-- A class has the description that is written for it just if it is none of: a class of places for
which nothing is written; a record for which a text is written that begins like its signature; and a
class for which a text is written with more text between the first line without any and the next
empty line. A record for which a signature is made up has no description. A schema has the
description of its class. -/
theorem description_eq_written_iff (d : ClassDecl) :
    (d.description = d.written? ↔
      (d.isPlaces = true → d.doc ≠ none) ∧
        ∀ doc ∈ d.doc, Text.hasText doc = true →
          ¬(d.isRecord = true ∧ d.isSignature doc = true) ∧
            ∀ line ∈ Text.gap doc, Text.hasText line = false) ∧
    (d.isRecord = true →
      ∀ made : String, { d with doc := some (d.name ++ "(" ++ made) }.description = none) ∧
    ∀ (classes : Registry) (formats : Formats) (fields : List Field) (s : Schema),
      d.schema classes formats fields = .ok s → s.description = d.description := by
  refine ⟨?_, fun hr made => description_made made hr, fun classes formats fields s hs => ?_⟩
  · cases hd : d.doc with
    | none =>
      rw [written?, hd]
      refine (description_eq_none_iff hd).trans ?_
      simp
    | some doc =>
      cases ht : Text.hasText doc with
      | true =>
        rw [written?, hd, Option.filter_some_pos ht, Option.map_some,
          description_eq_paragraph_iff hd ht]
        simp [ht]
      | false =>
        have hnone : d.description = none := description_of_not_hasText fun other ho => by
          rw [docText_of_doc hd] at ho
          rwa [← Option.some.inj ho]
        rw [hnone, written?, hd, Option.filter_some_neg (by simp [ht])]
        simp [ht]
  · obtain ⟨described, -, hs⟩ := exists_of_bind_ok hs
    exact (Except.ok.inj hs) ▸ rfl

/-- A record for which two paragraphs are written, with blanks around them. -/
def user : ClassDecl where
  key := "User"
  kind := .record false
  name := "User"
  module := "app"
  qualifier := "User"
  doc := some "\n    A registered\n    user.\n\n    May have an address.\n    "
  fields := [("id", .scalar .int)]
  bases := []

theorem description_eq_written_iff_user :
    user.written? = some "A registered\n    user." ∧ user.description = user.written? ∧
      { user with doc := some (user.name ++ "(" ++ "id: int)") }.description = none ∧
      ∃ s, user.schema [user] .standard user.fields = .ok s ∧ s.description = user.description := by
  have hgap : ∀ doc ∈ user.doc, Text.hasText doc = true →
      ¬(user.isRecord = true ∧ user.isSignature doc = true) ∧
        ∀ line ∈ Text.gap doc, Text.hasText line = false := by
    intro doc hdoc
    obtain rfl := Option.some.inj hdoc
    decide
  have hid : Ty.property [user] .standard (.scalar .int) = .ok (.plain "integer" "int64") := by
    rw [Ty.property]
    rfl
  have hfields : describeFields [user] .standard user.fields =
      .ok [("id", .plain "integer" "int64")] := by
    change describeFields [user] .standard [("id", .scalar .int)] = _
    rw [describeFields, hid]
    rfl
  have hschema : ∃ s, user.schema [user] .standard user.fields = .ok s := by
    rw [schema, hfields]
    exact ⟨_, rfl⟩
  obtain ⟨s, hs⟩ := hschema
  exact ⟨by decide, (description_eq_written_iff user).1.mpr ⟨nofun, hgap⟩,
    (description_eq_written_iff user).2.1 rfl "id: int)", s, hs,
    (description_eq_written_iff user).2.2 [user] .standard user.fields s hs⟩

/-- A tuple of two named places, for which nothing is written. -/
def point : ClassDecl where
  key := "Point"
  kind := .namedTuple
  name := "Point"
  module := "app"
  qualifier := "Point"
  doc := none
  fields := [("x", .scalar .int), ("y", .scalar .int)]
  bases := []

/-- Nothing is written for the class, but there is a description of it. -/
theorem description_point : point.written? = none ∧ point.description = some "Point(x, y)" := by
  decide

end ClassDecl

end RouteAtlas
