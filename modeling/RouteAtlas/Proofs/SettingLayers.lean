import RouteAtlas.Command.Build
import RouteAtlas.Proofs.BuildSteps
import RouteAtlas.Proofs.EncodedFields

/-! What a layer says of a setting hides what those below it say. -/

namespace RouteAtlas

theorem Value.lookup_append (key : String) (xs ys : List (Value × Value)) :
    Value.lookup key (xs ++ ys) = (Value.lookup key ys).or (Value.lookup key xs) := by
  induction xs with
  | nil => exact (Option.or_none).symm
  | cons e xs ih =>
    obtain ⟨k, v⟩ := e
    simp only [List.cons_append, Value.lookup, ih]
    cases Value.lookup key ys <;> rfl

namespace Config

theorem lookup_mask (key : String) (below : List (Value × Value)) (layer : Entries) :
    Value.lookup key (mask below layer) = (layer.get? key).or (Value.lookup key below) :=
  Value.lookup_append key below layer.raw

/-- What the caller says of a setting, which is nothing if it is null. -/
def said? : Value → Option Value
  | .null => none
  | v => some v

@[simp] theorem get?_overrideLayer_nil (key : String) :
    Entries.get? (overrideLayer []) key = none := rfl

@[simp] theorem get?_overrideLayer_cons (name key : String) (v : Value) (os : Entries) :
    Entries.get? (overrideLayer ((name, v) :: os)) key =
      (Entries.get? (overrideLayer os) key).or (if name = key then said? v else none) := by
  unfold overrideLayer
  cases v <;> simp [said?]

theorem format_of_ofEntries {es : List (Value × Value)} {c : Config} (h : ofEntries es = .ok c)
    {f : Format} (hf : Value.lookup "output_format" es = some (.str f.word)) : c.format = f := by
  obtain ⟨_, _, h₁, _, rfl⟩ := Checked.exists_of_seq_ok h
  obtain ⟨_, _, h₂, _, rfl⟩ := Checked.exists_of_seq_ok h₁
  obtain ⟨_, f', h₃, hformat, rfl⟩ := Checked.exists_of_seq_ok h₂
  obtain ⟨_, _, h₄, _, rfl⟩ := Checked.exists_of_seq_ok h₃
  obtain ⟨_, _, h₅, _, rfl⟩ := Checked.exists_of_seq_ok h₄
  obtain ⟨_, _, h₆, _, rfl⟩ := Checked.exists_of_seq_ok h₅
  obtain ⟨_, _, h₇, _, rfl⟩ := Checked.exists_of_seq_ok h₆
  obtain ⟨_, _, h₈, _, rfl⟩ := Checked.exists_of_seq_ok h₇
  obtain ⟨_, _, h₉, _, rfl⟩ := Checked.exists_of_seq_ok h₈
  obtain ⟨_, _, h₁₀, _, rfl⟩ := Checked.exists_of_seq_ok h₉
  obtain ⟨_, _, rfl⟩ := Checked.exists_of_map_ok h₁₀
  have hpick : pick es ["output_format"] = some (.str f.word) := by rw [pick, hf, Option.some_or]
  have hdecode : decodeFormat (.str f.word) = .ok f := by cases f <;> rfl
  rw [Check.optional_of_pick hpick hdecode] at hformat
  cases hformat
  rfl

end Config

/-- A format that is asked for is the one that the settings have. -/
theorem BuildRequest.format_of_resolve {r : BuildRequest} {t : FileTree} {root : String}
    {env : Config.Environment} {named : Option FilePath} {host : Host} {c : Config} {f : Format}
    (h : Config.resolve t root env r.overrides named host = .ok c) (hf : r.format = some f) :
    c.format = f := by
  obtain ⟨file, -, h⟩ := exists_of_bind_ok h
  split at h
  next c' hc =>
    cases h
    refine Config.format_of_ofEntries hc ?_
    rw [Config.lookup_mask]
    simp [overrides, hf, Config.said?]
  next => cases h

end RouteAtlas
