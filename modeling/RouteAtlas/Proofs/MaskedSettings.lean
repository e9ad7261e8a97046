import Mathlib.Logic.Basic
import RouteAtlas.Proofs.FileContent
import RouteAtlas.Proofs.JsonRoundTrip
import RouteAtlas.Proofs.SettingLayers

/-!
Settings from their layers. A setting has the value of the highest layer that gives it one, and the
values below that one play no part, whatever they are.
-/

namespace RouteAtlas

/-- Entries of distinct names, some of them left out: a name has the value that is made for it. -/
theorem Entries.get?_filterMap {α : Type} (key : α → String) (value : α → Option Value)
    {xs : List α} (hn : (xs.map key).Nodup) (name : String) :
    Entries.get? (xs.filterMap fun x => (value x).map fun v => (key x, v)) name =
      (xs.find? (key · = name)).bind value := by
  induction xs with
  | nil => rfl
  | cons x xs ih =>
    obtain ⟨hx, hxs⟩ := List.nodup_cons.mp hn
    have ih := ih hxs
    have hother : key x = name → xs.find? (key · = name) = none := by
      rintro rfl
      refine List.find?_eq_none.mpr fun y hy => ?_
      simpa using fun hk => hx (List.mem_map.mpr ⟨y, hy, hk⟩)
    rw [List.filterMap_cons, List.find?_cons]
    cases hv : value x with
    | none =>
      by_cases hk : key x = name
      · simp [hk, hv, ih, hother hk]
      · simp [hk, ih]
    | some v =>
      by_cases hk : key x = name
      · simp [hk, hv, ih, hother hk]
      · simp [hk, ih]

/-- A field that has its default reads as one that is missing. -/
theorem Check.optional_of_getD {α : Type} {es es' : List (Value × Value)} {keys : List String}
    {d : α} {f : Value → Checked α} {v : Value}
    (h : pick es' keys = some ((pick es keys).getD v)) (hv : f v = .ok d) :
    Check.optional es' keys d f = Check.optional es keys d f := by
  cases hp : pick es keys with
  | none =>
    rw [hp] at h
    rw [optional_of_pick h hv, optional_of_missing hp]
  | some w =>
    rw [hp] at h
    simp only [Check.optional, h, hp, Option.getD_some]

namespace Config

/-- The settings by name, each with the value that it has where no layer gives it one. -/
def usual : Entries := [
  ("title", .str "API"), ("version", .str "1.0.0"), ("description", .null), ("host", .null),
  ("base_path", .null), ("schemes", .list []), ("consumes", .list []), ("produces", .list []),
  ("output_format", .str "json"), ("strict_schema_names", .bool false), ("routes", .null)]

theorem nodup_usual : (usual.map (·.1)).Nodup := by decide

/-- The layers above the defaults, the lowest first. -/
structure Layers where
  file : List (Value × Value)
  environment : Environment
  overrides : List (String × Value)

namespace Layers

variable (l m : Layers)

/-- What the caller gives: the last value of the name that is not null. -/
def override? (name : String) : Option Value :=
  (l.overrides.filterMap fun o => if o.1 = name then said? o.2 else none).getLast?

/-- What the environment gives: the value of the variable for the setting, unless that is empty. -/
def environment? (name : String) : Option Value :=
  (settingVariables.find? (·.2 = name)).bind fun v =>
    ((l.environment.lookup v.1).filter (· ≠ "")).map (variableValue name)

def file? (name : String) : Option Value := Value.lookup name l.file

/-- The value of the highest layer that gives one. -/
def value? (name : String) : Option Value :=
  (l.override? name).or ((l.environment? name).or (l.file? name))

/-- Every setting with the value of its highest layer, and for want of one with the usual value. -/
def entries : Entries := usual.map fun s => (s.1, (l.value? s.1).getD s.2)

/-- What no higher layer masks is the same, on every layer. -/
structure AgreesAt (name : String) : Prop where
  overrides : l.override? name = m.override? name
  environment : l.override? name = none → l.environment? name = m.environment? name
  file : l.override? name = none → l.environment? name = none → l.file? name = m.file? name

variable {l m}

theorem AgreesAt.value?_eq {name : String} (h : l.AgreesAt m name) :
    l.value? name = m.value? name := by
  unfold value?
  rw [← h.overrides]
  cases ho : l.override? name with
  | some v => rfl
  | none =>
    rw [← h.environment ho]
    cases hv : l.environment? name with
    | some v => rfl
    | none => rw [h.file ho hv]

theorem entries_eq_of_agrees (h : ∀ s ∈ usual, l.AgreesAt m s.1) : l.entries = m.entries :=
  List.map_congr_left fun s hs => by rw [(h s hs).value?_eq]

end Layers

theorem get?_overrideLayer (l : Layers) (name : String) :
    Entries.get? (overrideLayer l.overrides) name = l.override? name := by
  obtain ⟨file, environment, overrides⟩ := l
  unfold Layers.override?
  dsimp only
  induction overrides with
  | nil => rfl
  | cons o os ih =>
    obtain ⟨n, v⟩ := o
    rw [get?_overrideLayer_cons, ih, List.filterMap_cons]
    -- The last one that says anything wins; null says nothing.
    cases if n = name then said? v else none with
    | none => exact Option.or_none
    | some w => rw [List.getLast?_cons]; exact Option.or_some

theorem get?_environmentLayer (l : Layers) (name : String) :
    Entries.get? (environmentLayer l.environment) name = l.environment? name := by
  have hlayer : environmentLayer l.environment = settingVariables.filterMap fun v =>
      (((l.environment.lookup v.1).filter (· ≠ "")).map (variableValue v.2)).map fun w =>
        (v.2, w) := by
    refine congrArg (fun f => settingVariables.filterMap f) (funext fun v => ?_)
    cases l.environment.lookup v.1 with
    | none => rfl
    | some raw => by_cases hraw : raw = "" <;> simp [hraw, Option.filter]
  have hn : (settingVariables.map (·.2)).Nodup := by decide
  rw [hlayer, Entries.get?_filterMap (·.2) (fun v : String × String =>
    ((l.environment.lookup v.1).filter (· ≠ "")).map (variableValue v.2)) hn, Layers.environment?]
  cases hv : settingVariables.find? (·.2 = name) with
  | none => rfl
  | some v =>
    have hname : v.2 = name := by simpa using List.find?_some hv
    rw [Option.bind_some, Option.bind_some, hname]

/-- The layers put on top of each other give every name the value of its highest layer. -/
theorem lookup_layers (l : Layers) (name : String) :
    Value.lookup name (mask (mask l.file (environmentLayer l.environment))
      (overrideLayer l.overrides)) = l.value? name := by
  rw [lookup_mask, lookup_mask, get?_overrideLayer, get?_environmentLayer]
  rfl

/-- Entries for all settings, those that are missing with their usual value. -/
def completed (es : List (Value × Value)) : Entries :=
  usual.map fun s => (s.1, (Value.lookup s.1 es).getD s.2)

theorem get?_completed (es : List (Value × Value)) {name : String} {v : Value}
    (h : usual.find? (·.1 = name) = some (name, v)) :
    (completed es).get? name = some ((Value.lookup name es).getD v) := by
  have hcompleted : completed es = usual.filterMap fun s =>
      (some ((Value.lookup s.1 es).getD s.2)).map fun w => (s.1, w) :=
    (congrFun List.filterMap_eq_map usual).symm
  rw [hcompleted, Entries.get?_filterMap (·.1) (fun s : String × Value =>
    some ((Value.lookup s.1 es).getD s.2)) nodup_usual, h]
  rfl

theorem optional_completed {α : Type} (es : List (Value × Value)) {name : String} {v : Value}
    {d : α} {f : Value → Checked α} (h : usual.find? (·.1 = name) = some (name, v))
    (hv : f v = .ok d) :
    Check.optional (completed es).raw [name] d f = Check.optional es [name] d f := by
  refine Check.optional_of_getD ?_ hv
  rw [pick_cons, get?_completed es h, Option.some_or, pick, pick, Option.or_none]

/-- A usual value is as good as none. -/
theorem ofEntries_completed (es : List (Value × Value)) :
    ofEntries (completed es).raw = ofEntries es := by
  unfold ofEntries
  -- Each field is read from its own entry, the last one by itself.
  iterate 10 refine congrArg₂ (· <*> ·) ?_ (optional_completed es (by rfl) (by rfl))
  exact congrArg (Config.mk <$> ·) (optional_completed es (by rfl) (by rfl))

/-- What comes of reading all settings from one mapping. -/
def validated (data : Value) : Except ConfigFault Config :=
  match ofData data with
  | .ok c => .ok c
  | .bad issues => .error (.invalid issues)

theorem resolve_of_loadFile {t : FileTree} {root : String} {named : Option FilePath} {host : Host}
    {l : Layers} (h : loadFile t root named host = .ok l.file) :
    resolve t root l.environment l.overrides named host = validated (Value.object l.entries) := by
  have hentries : completed (mask (mask l.file (environmentLayer l.environment))
      (overrideLayer l.overrides)) = l.entries :=
    List.map_congr_left fun s _ => by rw [lookup_layers]
  rw [resolve, h, validated, ofData, Check.object_raw, ← hentries, ofEntries_completed]
  rfl

/-- A project file found under a name for JSON gives the entries that were written to it. -/
theorem loadFile_of_json {t : FileTree} {name : String} {host : Host} {es : List (Value × Value)}
    (hfind : findFile t = some name) (hname : Text.lower (FilePath.ofString name).suffix = ".json")
    (hread : t.read? (.ofString name) = some (Json.pretty (.map es)).toUTF8.toList)
    (hv : Json.holds host 0 (.map es) = true) (root : String) :
    loadFile t root none host = .ok es := by
  have htext := textOf_toUTF8 (Json.return_not_mem_pretty hv)
  simp only [loadFile, hfind, hread, Option.getD_some, readFile, htext, parseFile, hname, if_true,
    Json.parse_pretty hv]
  rfl

/-- A title that is no text, and a format that there is not. -/
def brokenEntries : List (Value × Value) :=
  [(.str "title", .int 7), (.str "output_format", .str "pdf")]

/-- A directory with just these in the project file. -/
def brokenTree : FileTree :=
  FileTree.empty.withFile (.ofString "routedoc.json")
    (Json.pretty (.map brokenEntries)).toUTF8.toList

/-- The broken entries behind a title in the environment and a format that is asked for. -/
def brokenLayers : Layers where
  file := brokenEntries
  environment := [("ROUTEDOC_TITLE", "Shop"), ("ROUTEDOC_FORMAT", "xml")]
  overrides := [("output_format", .str "yaml"), ("title", .null)]

/-- The same title and the same format, with nothing behind them. -/
def soundLayers : Layers where
  file := []
  environment := [("ROUTEDOC_TITLE", "Shop")]
  overrides := [("output_format", .str "yaml")]

theorem agreesAt_brokenLayers : ∀ s ∈ usual, brokenLayers.AgreesAt soundLayers s.1 := by
  have hsame : ∀ name, brokenLayers.override? name = soundLayers.override? name →
      brokenLayers.environment? name = soundLayers.environment? name →
      brokenLayers.file? name = soundLayers.file? name →
      brokenLayers.AgreesAt soundLayers name := fun _ ho hv hf =>
    ⟨ho, fun _ => hv, fun _ _ => hf⟩
  have htitle : brokenLayers.AgreesAt soundLayers "title" := ⟨rfl, fun _ => rfl, nofun⟩
  have hformat : brokenLayers.AgreesAt soundLayers "output_format" := ⟨rfl, nofun, nofun⟩
  simp only [usual, List.forall_mem_cons]
  refine ⟨htitle, ?_, ?_, ?_, ?_, ?_, ?_, ?_, hformat, ?_, ?_, nofun⟩
  all_goals exact hsame _ rfl rfl rfl

end Config

end RouteAtlas
