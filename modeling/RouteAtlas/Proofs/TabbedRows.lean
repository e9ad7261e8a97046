import RouteAtlas.Console.Table
import RouteAtlas.Proofs.Separators
import RouteAtlas.Proofs.TemplateForm

/-!
Tables as text with tabs. Cut into lines and these at their tabs, the text of a table gives back its
cells just if no cell has a tab or an end of a line in it.
-/

namespace RouteAtlas

namespace Text

/-- The stretches that end with a line feed, and what follows the last one unless that is empty. -/
def feedLines (s : String) : List String :=
  let ls := splitOn '\n' s
  if ls.getLast? = some "" then ls.dropLast else ls

theorem feedLines_append {l : String} (h : '\n' ∉ l.toList) (rest : String) :
    feedLines (l ++ "\n" ++ rest) = l :: feedLines rest := by
  obtain ⟨p, ps, hp⟩ := List.exists_cons_of_ne_nil (@pieces_ne_nil '\n' rest.toList)
  have hsplit : splitOn '\n' (l ++ "\n" ++ rest) = l :: splitOn '\n' rest := by
    have hfeed : "\n".toList = ['\n'] := rfl
    rw [splitOn, String.toList_append, String.toList_append, hfeed, List.append_assoc,
      List.singleton_append, pieces_append, pieces_of_not_mem h, List.singleton_append,
      List.map_cons, String.ofList_toList, splitOn]
  have hrest : splitOn '\n' rest = .ofList p :: ps.map .ofList := by rw [splitOn, hp, List.map_cons]
  dsimp only [feedLines]
  rw [hsplit, hrest, List.getLast?_cons_cons, List.dropLast_cons_cons]
  split <;> rfl

theorem not_mem_of_mem_feedLines {s l : String} (h : l ∈ feedLines s) :
    '\n' ∉ l.toList ∧ ∀ c ∈ l.toList, c ∈ s.toList := by
  have hmem : l ∈ splitOn '\n' s := by
    dsimp only [feedLines] at h
    split at h
    · exact List.dropLast_subset _ h
    · exact h
  obtain ⟨p, hp, rfl⟩ := List.mem_map.mp hmem
  rw [String.toList_ofList]
  exact ⟨not_mem_of_mem_pieces hp, fun c hc => mem_of_mem_pieces hp hc⟩

/-- A text with all that ends its lines as line feeds. -/
def feedsOnly (s : String) : String :=
  .ofList ((unifyBreaksList s.toList).map fun c => if endsLine c then '\n' else c)

theorem lines_eq_feedLines (s : String) : lines s = feedLines (feedsOnly s) := rfl

theorem unifyBreaksList_append {cs : List Char} (h : '\r' ∉ cs) (rest : List Char) :
    unifyBreaksList (cs ++ '\n' :: rest) = cs ++ '\n' :: unifyBreaksList rest := by
  induction cs with
  | nil => rfl
  | cons c r ih =>
    have hc : c ≠ '\r' := fun hc => h (hc ▸ List.mem_cons_self)
    have hr : '\r' ∉ r := fun hr => h (List.mem_cons_of_mem _ hr)
    rw [List.cons_append, unifyBreaksList, ih hr, List.cons_append]
    · exact fun _ hreturn _ => hc hreturn
    · exact hc

theorem feedsOnly_append {l : String} (h : ∀ c ∈ l.toList, endsLine c = false) (rest : String) :
    feedsOnly (l ++ "\n" ++ rest) = l ++ "\n" ++ feedsOnly rest := by
  have hreturn : '\r' ∉ l.toList := fun hmem => absurd (h _ hmem) (by decide)
  have hfeed : "\n".toList = ['\n'] := rfl
  have hself : l.toList.map (fun c => if endsLine c then '\n' else c) = l.toList :=
    (List.map_congr_left fun c hc => if_neg (by simp [h c hc])).trans (List.map_id _)
  rw [← String.toList_inj, feedsOnly, String.toList_ofList, String.toList_append,
    String.toList_append, hfeed, List.append_assoc, List.singleton_append,
    unifyBreaksList_append hreturn, List.map_append, hself]
  simp [feedsOnly, String.toList_append, hfeed]

theorem eq_feed_of_mem_feedsOnly {s : String} {c : Char} (h : c ∈ (feedsOnly s).toList)
    (hc : endsLine c = true) : c = '\n' := by
  rw [feedsOnly, String.toList_ofList] at h
  obtain ⟨d, -, rfl⟩ := List.mem_map.mp h
  split at hc
  next hd => rw [if_pos hd]
  next hd => exact absurd hc hd

/-- A way to cut a text into lines. A line feed ends a line, and so may other characters do. -/
structure Cutting where
  lines : String → List String
  isEnd : Char → Bool
  isEnd_feed : isEnd '\n' = true
  endsLine_of_isEnd : ∀ c, isEnd c = true → endsLine c = true
  lines_empty : lines "" = []
  lines_append : ∀ l rest : String, (∀ c ∈ l.toList, isEnd c = false) →
    lines (l ++ "\n" ++ rest) = l :: lines rest
  isEnd_of_mem : ∀ s l, l ∈ lines s → ∀ c ∈ l.toList, isEnd c = false

namespace Cutting

/-- Line feeds alone end lines. -/
def atFeeds : Cutting where
  lines := feedLines
  isEnd := (· = '\n')
  isEnd_feed := rfl
  endsLine_of_isEnd c h := by
    obtain rfl := of_decide_eq_true h
    rfl
  lines_empty := rfl
  lines_append l rest h := feedLines_append (fun hmem => by simpa using h _ hmem) rest
  isEnd_of_mem s l h c hc := by
    refine decide_eq_false ?_
    rintro rfl
    exact (not_mem_of_mem_feedLines h).1 hc

/-- All that can end a line does. -/
def atEnds : Cutting where
  lines := Text.lines
  isEnd := endsLine
  isEnd_feed := rfl
  endsLine_of_isEnd _ h := h
  lines_empty := rfl
  lines_append l rest h := by
    have hfeed : '\n' ∉ l.toList := fun hmem => absurd (h _ hmem) (by decide)
    rw [lines_eq_feedLines, feedsOnly_append h, feedLines_append hfeed, lines_eq_feedLines]
  isEnd_of_mem s l h c hc := by
    obtain ⟨hfeed, hmem⟩ := not_mem_of_mem_feedLines h
    cases hend : endsLine c with
    | false => rfl
    | true => exact absurd (eq_feed_of_mem_feedsOnly (hmem c hc) hend ▸ hc) hfeed

variable (cut : Cutting)

/-- The lines of a text, each cut at its tabs. -/
def rows (s : String) : List (List String) := (cut.lines s).map (splitOn '\t')

/-- Neither a tab nor an end of a line is in the text. -/
def Keeps (s : String) : Prop := ∀ c ∈ s.toList, c ≠ '\t' ∧ cut.isEnd c = false

theorem isEnd_tab : cut.isEnd '\t' = false := by
  cases h : cut.isEnd '\t' with
  | false => rfl
  | true => exact absurd (cut.endsLine_of_isEnd _ h) (by decide)

variable {cut}

/-- What stands between the tabs of a line can be kept in a cell. -/
theorem keeps_of_mem_rows {s : String} {row : List String} (hrow : row ∈ cut.rows s) {cell : String}
    (hcell : cell ∈ row) : cut.Keeps cell := by
  obtain ⟨l, hl, rfl⟩ := List.mem_map.mp hrow
  obtain ⟨p, hp, rfl⟩ := List.mem_map.mp hcell
  intro c hc
  rw [String.toList_ofList] at hc
  refine ⟨?_, cut.isEnd_of_mem s l hl c (mem_of_mem_pieces hp hc)⟩
  rintro rfl
  exact not_mem_of_mem_pieces hp hc

end Cutting

theorem pieces_intercalate {sep : Char} {parts : List (List Char)} (hne : parts ≠ [])
    (h : ∀ p ∈ parts, sep ∉ p) : pieces sep ([sep].intercalate parts) = parts := by
  induction parts with
  | nil => exact absurd rfl hne
  | cons p ps ih =>
    obtain ⟨hp, hps⟩ := List.forall_mem_cons.mp h
    cases ps with
    | nil => rw [List.intercalate_singleton, pieces_of_not_mem hp]
    | cons q qs =>
      rw [List.intercalate_cons_cons, List.append_assoc, List.singleton_append, pieces_append,
        pieces_of_not_mem hp, ih (List.cons_ne_nil _ _) hps, List.singleton_append]

theorem splitOn_join {cells : List String} (hne : cells ≠ [])
    (h : ∀ cell ∈ cells, '\t' ∉ cell.toList) : splitOn '\t' (join "\t" cells) = cells := by
  have htab : "\t".toList = ['\t'] := rfl
  have hcells : ∀ p ∈ cells.map String.toList, '\t' ∉ p := by simpa using h
  rw [splitOn, join, String.toList_intercalate, htab,
    pieces_intercalate (mt List.map_eq_nil_iff.mp hne) hcells, List.map_map]
  exact (List.map_congr_left fun cell _ => String.ofList_toList).trans (List.map_id _)

end Text

namespace Table

open Text

variable {cut : Cutting}

theorem isEnd_of_mem_join {row : List String} (h : ∀ cell ∈ row, cut.Keeps cell) :
    ∀ c ∈ (join "\t" row).toList, cut.isEnd c = false := by
  induction row with
  | nil => exact nofun
  | cons cell row ih =>
    obtain ⟨hcell, hrow⟩ := List.forall_mem_cons.mp h
    have hkeep : ∀ c ∈ cell.toList, cut.isEnd c = false := fun c hc => (hcell c hc).2
    by_cases hnil : row = []
    · rwa [hnil, join, String.intercalate_singleton]
    · have htab : ∀ c ∈ "\t".toList, cut.isEnd c = false := fun c hc => by
        rw [List.mem_singleton.mp hc]
        exact cut.isEnd_tab
      rw [join, String.intercalate_cons_of_ne_nil hnil, String.toList_append, String.toList_append,
        List.append_assoc, List.forall_mem_append, List.forall_mem_append]
      exact ⟨hkeep, htab, ih hrow⟩

/-- A row of cells that keep together is a line, which a line feed ends. -/
theorem dataLine_row {row : List String} (h : ∀ cell ∈ row, cut.Keeps cell) :
    dataLine (join "\t" row) = join "\t" row ++ "\n" := by
  have hend : endsWith "\n" (join "\t" row) = false := by
    cases he : endsWith "\n" (join "\t" row) with
    | false => rfl
    | true =>
      have hmem : '\n' ∈ (join "\t" row).toList :=
        (List.isSuffixOf_iff_suffix.mp he).subset (List.mem_singleton_self _)
      exact absurd (isEnd_of_mem_join h _ hmem) (by rw [cut.isEnd_feed]; decide)
  rw [dataLine, hend]
  rfl

theorem rows_lines {rows : List (List String)} (hne : ∀ row ∈ rows, row ≠ [])
    (h : ∀ row ∈ rows, ∀ cell ∈ row, cut.Keeps cell) :
    cut.rows (String.join (rows.map fun r => dataLine (join "\t" r))) = rows := by
  induction rows with
  | nil => exact congrArg _ cut.lines_empty
  | cons row rows ih =>
    obtain ⟨hrow, hrows⟩ := List.forall_mem_cons.mp h
    obtain ⟨hrowne, hrowsne⟩ := List.forall_mem_cons.mp hne
    have hsplit : splitOn '\t' (join "\t" row) = row :=
      splitOn_join hrowne fun cell hcell hmem => (hrow cell hcell _ hmem).1 rfl
    have ih := ih hrowsne hrows
    rw [List.map_cons, String.join_cons, dataLine_row hrow, Cutting.rows,
      cut.lines_append _ _ (isEnd_of_mem_join hrow), List.map_cons, hsplit]
    exact congrArg _ ih

/-- The text of a table is read back just if no cell has a tab or an end of a line in it. -/
theorem rows_plain_iff {t : Table} (hne : ∀ row ∈ t.headers :: t.rows, row ≠ []) :
    cut.rows t.plain = t.headers :: t.rows ↔
      ∀ row ∈ t.headers :: t.rows, ∀ cell ∈ row, cut.Keeps cell := by
  refine ⟨fun h row hrow cell hcell => ?_, fun h => rows_lines hne h⟩
  -- Whatever the text, what is read from it has no separators in its cells.
  exact Cutting.keeps_of_mem_rows (h ▸ hrow) hcell

end Table

end RouteAtlas
