import RouteAtlas.Console.Table
import RouteAtlas.Document.Dump

/-! The text of data ends with its last line, so nothing is added when it is given out. -/

namespace RouteAtlas

namespace Yaml

namespace Sheet

theorem fresh_mark (w : Sheet) (m : String) (apart : Bool) : (w.mark m apart false).fresh = false :=
  Bool.and_false _

theorem fresh_plainRuns (indent : Nat) (fold : Bool) (rs : List Run) {w : Sheet}
    (h : w.fresh = false) : (plainRuns indent fold rs w).fresh = false := by
  induction rs generalizing w with
  | nil => exact h
  | cons r rs ih =>
    cases r with
    | word cs => exact ih h
    | breaks cs => exact ih h
    | blanks n =>
      refine ih ?_
      split
      · rfl
      · exact h

theorem fresh_scalarText (indent : Nat) (isKey : Bool) (s : String) (w : Sheet) :
    (w.scalarText indent isKey s).fresh = false := by
  unfold scalarText
  split
  · exact fresh_plainRuns _ _ _ rfl
  · exact fresh_mark _ _ _
  · exact fresh_mark _ _ _

end Sheet

mutual

/-- A value ends within a line. -/
theorem fresh_writeNode (indent : Nat) (pos : Position) : ∀ (v : Value) (w : Sheet),
    (writeNode indent pos v w).fresh = false
  | .list [], w => by
    unfold writeNode
    exact Sheet.fresh_mark _ _ _
  | .map [], w => by
    unfold writeNode
    exact Sheet.fresh_mark _ _ _
  | .list (v :: vs), w => by
    unfold writeNode
    exact fresh_writeItems _ (v :: vs) w (.inl (List.cons_ne_nil v vs))
  | .map (e :: es), w => by
    unfold writeNode
    exact fresh_writeEntries _ (e :: es) w (.inl (List.cons_ne_nil e es))
  | .null, w | .bool _, w | .int _, w | .float _, w => by
    unfold writeNode
    exact Sheet.fresh_plainRuns _ _ _ rfl
  | .str _, w | .bytes _, w | .date _, w | .moment _, w | .tuple _, w | .set _, w => by
    unfold writeNode
    exact Sheet.fresh_scalarText _ _ _ _

theorem fresh_writeItems (indent : Nat) : ∀ (vs : List Value) (w : Sheet),
    vs ≠ [] ∨ w.fresh = false → (writeItems indent vs w).fresh = false
  | [], w, h => h.resolve_left (· rfl)
  | v :: vs, w, _ => by
    unfold writeItems
    exact fresh_writeItems indent vs _ (.inr (fresh_writeNode indent .item v _))

theorem fresh_writeEntries (indent : Nat) : ∀ (es : List (Value × Value)) (w : Sheet),
    es ≠ [] ∨ w.fresh = false → (writeEntries indent es w).fresh = false
  | [], w, h => h.resolve_left (· rfl)
  | (k, v) :: es, w, _ => by
    unfold writeEntries
    exact fresh_writeEntries indent es _ (.inr (fresh_writeNode indent .entry v _))

end

theorem exists_write (v : Value) : ∃ s, write v = s ++ "\n" := by
  have h := fresh_writeNode 0 .root v Sheet.start
  refine ⟨(writeNode 0 .root v Sheet.start).text, ?_⟩
  simp [write, Sheet.indentTo, Sheet.newline, h]

end Yaml

theorem Value.exists_dump (f : Format) (v : Value) : ∃ s, v.dump f = s ++ "\n" := by
  cases f with
  | json => exact ⟨_, rfl⟩
  | yaml => exact Yaml.exists_write v

/-- A document is given out as its text and no more. -/
theorem Document.dataLine_dump (f : Format) (d : Document) : dataLine (d.dump f) = d.dump f := by
  obtain ⟨s, hs⟩ := d.encode.exists_dump f
  have hends : Text.endsWith "\n" (s ++ "\n") = true := by
    simp [Text.endsWith, String.toList_append]
  rw [Document.dump, hs, dataLine, if_pos hends]

end RouteAtlas
