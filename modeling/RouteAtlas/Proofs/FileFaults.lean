import RouteAtlas.Config.Layers
import RouteAtlas.Proofs.FileContent

/-!
What can come up when a file is read. JSON is refused for its form alone, and so is YAML, but for a
scalar that has a form and yet stands for nothing, such as a day that no month has. Beside that, a
number may be too long and the nesting too deep for the machine. Such a fault is handed on as it is,
also where the text would have been tried as YAML next, and it is the only one beside the documented
ones.
-/

namespace RouteAtlas

/-- Faults of reading: the documented ones, and those of limits and of scalars, which are not. -/
class ReadingFault (F : Type) where
  isDocumented : F → Bool
  limit : LimitFault → F
  scalar : Yaml.Error → F
  isDocumented_limit : ∀ f, isDocumented (limit f) = false
  isDocumented_scalar : ∀ e, isDocumented (scalar e) = false

instance : ReadingFault LoadFault :=
  ⟨LoadFault.isDocumented, .limit, .scalar, fun _ => rfl, fun _ => rfl⟩

instance : ReadingFault ConfigFault :=
  ⟨ConfigFault.isDocumented, .limit, .scalar, fun _ => rfl, fun _ => rfl⟩

open ReadingFault (isDocumented)

section

variable {F α β : Type} [ReadingFault F] {host : Host} {text : String} {r : Except F α} {f : F}

/-- The result is this fault, which is not documented. -/
def EndsIn (r : Except F α) (f : F) : Prop := r = .error f ∧ isDocumented f = false

theorem not_endsIn (h : ∀ f, r = .error f → isDocumented f = true) : ¬EndsIn r f := by
  rintro ⟨hr, hf⟩
  cases (h f hr).symm.trans hf

/-- What is done with the data fails as documented, so only reading it can end otherwise. -/
theorem endsIn_bind {g : α → Except F β} (hg : ∀ a f, g a = .error f → isDocumented f = true) :
    EndsIn (r >>= g) f ↔ EndsIn r f := by
  cases r with
  | error e => simp [EndsIn, bind, Except.bind]
  | ok a => exact iff_of_false (not_endsIn (hg a)) nofun

/-- All faults are documented ones if no undocumented one is what reading ends in. -/
theorem documented_iff {breaks : F → Prop} (h : ∀ f, EndsIn r f ↔ breaks f) :
    (∀ f, r = .error f → isDocumented f = true) ↔ ∀ f, ¬breaks f := by
  refine ⟨fun hdoc f hf => not_endsIn hdoc ((h f).mpr hf), fun hnot f hr => ?_⟩
  cases hf : isDocumented f with
  | true => rfl
  | false => exact absurd ((h f).mp ⟨hr, hf⟩) (hnot f)

/-- Reading the text as JSON comes to a limit. -/
inductive Json.BreaksOff (host : Host) (text : String) : F → Prop
  | limit {f : LimitFault} (h : Json.parse text host = .error (.limit f)) :
      BreaksOff host text (ReadingFault.limit f)

/-- Reading the text as YAML comes to a limit, or to a scalar that stands for nothing. -/
inductive Yaml.BreaksOff (host : Host) (text : String) : F → Prop
  | limit {f : LimitFault} (h : Yaml.parse host text = .error (.limit f)) :
      BreaksOff host text (ReadingFault.limit f)
  | scalar {e : Yaml.Error} (h : Yaml.parse host text = .error e) (hform : e ≠ .malformed)
      (hlimit : ∀ f, e ≠ .limit f) : BreaksOff host text (ReadingFault.scalar e)

/-- A text is no JSON, and no limit has kept that from being seen. -/
def Json.Refuses (host : Host) (text : String) : Prop :=
  ∃ mistake place, Json.parse text host = .error (.malformed mistake place)

theorem Json.breaksOff_iff : Json.BreaksOff host text f ↔
    ∃ l, Json.parse text host = .error (.limit l) ∧ ReadingFault.limit l = f := by
  constructor
  · rintro ⟨h⟩
    exact ⟨_, h, rfl⟩
  · rintro ⟨l, h, rfl⟩
    exact .limit h

theorem endsIn_limit (l : LimitFault) :
    EndsIn (.error (ReadingFault.limit l) : Except F α) f ↔ ReadingFault.limit l = f := by
  refine ⟨fun h => Except.error.inj h.1, ?_⟩
  rintro rfl
  exact ⟨rfl, ReadingFault.isDocumented_limit l⟩

/-- What reading JSON ends in, where its form is refused as documented. -/
theorem endsIn_of_json (host : Host) (text : String) {r : Except F Value} (malformed : String → F)
    (hdoc : ∀ m, isDocumented (malformed m) = true)
    (hr : r = (Json.parse text host).mapError fun e => match e with
      | .limit l => ReadingFault.limit l
      | e => malformed (e.message text)) : EndsIn r f ↔ Json.BreaksOff host text f := by
  subst hr
  rw [Json.breaksOff_iff]
  cases hp : Json.parse text host with
  | ok v => exact iff_of_false nofun nofun
  | error e =>
    cases e with
    | malformed m i =>
      refine iff_of_false (not_endsIn fun f hf => ?_) nofun
      cases hf
      exact hdoc _
    | limit l =>
      refine (endsIn_limit l).trans ?_
      simp

/-- What reading YAML ends in, where its form is refused as documented. -/
theorem endsIn_of_yaml (host : Host) (text : String) {r : Except F Value} (malformed : F)
    (hdoc : isDocumented malformed = true)
    (hr : r = (Yaml.parse host text).mapError fun e => match e with
      | .malformed => malformed
      | .limit f => ReadingFault.limit f
      | e => ReadingFault.scalar e) : EndsIn r f ↔ Yaml.BreaksOff host text f := by
  subst hr
  constructor
  · rintro ⟨h, hf⟩
    cases hp : Yaml.parse host text with
    | ok v => rw [hp] at h; cases h
    | error e =>
      rw [hp] at h
      have he := Except.error.inj h
      dsimp only at he
      split at he
      next => cases he; cases hdoc.symm.trans hf
      next => cases he; exact .limit hp
      next hform hlimit => cases he; exact .scalar hp hform hlimit
  · rintro (h | ⟨h, hform, hlimit⟩)
    · exact ⟨by rw [h]; rfl, ReadingFault.isDocumented_limit _⟩
    · refine ⟨?_, ReadingFault.isDocumented_scalar _⟩
      rw [h]
      refine congrArg Except.error ?_
      dsimp only
      split
      next => exact absurd rfl hform
      next l => exact absurd rfl (hlimit l)
      next => rfl

end

namespace FileTree

/-- The text of the file that a path leads to. -/
def text? (t : FileTree) (p : FilePath) : Option String :=
  (t.read? p).bind fun content => (textOf content).toOption

/-- What the path leads to is text, if it is a file. -/
def HoldsText (t : FileTree) (p : FilePath) : Prop :=
  t.readNamed? p = .ok none ∨ ∃ text, t.text? p = some text

theorem readNamed?_of_read? {t : FileTree} {p : FilePath} {content : Bytes}
    (h : t.read? p = some content) : t.readNamed? p = .ok (some content) := by
  unfold readNamed?
  split
  next hf => simp [read?, hf] at h
  next => rw [h]

theorem read?_of_readNamed? {t : FileTree} {p : FilePath} {content? : Option Bytes}
    (h : t.readNamed? p = .ok content?) : t.read? p = content? := by
  unfold readNamed? at h
  split at h
  next => cases h
  next => exact Except.ok.inj h

theorem exists_of_text? {t : FileTree} {p : FilePath} {text : String} (h : t.text? p = some text) :
    ∃ content, t.read? p = some content ∧ textOf content = .ok text := by
  obtain ⟨content, hc, ht⟩ := Option.bind_eq_some_iff.mp h
  refine ⟨content, hc, ?_⟩
  cases hr : textOf content with
  | ok s =>
    rw [hr] at ht
    exact congrArg Except.ok (Option.some.inj ht)
  | error e =>
    rw [hr] at ht
    cases ht

end FileTree

variable {host : Host} {text : String}

namespace Document

variable {f : LoadFault}

theorem endsIn_yamlData (json : Option String) :
    EndsIn (yamlData host json text) f ↔ Yaml.BreaksOff host text f := by
  refine endsIn_of_yaml host text (.unreadable json) rfl ?_
  rw [yamlData]
  cases Yaml.parse host text with
  | ok v => rfl
  | error e => cases e <;> rfl

/-- A text is read as YAML if its name says so, or if the name says nothing and it is no JSON. -/
def ReadsYaml (host : Host) (format : Option Format) (text : String) : Prop :=
  format = some .yaml ∨ format = none ∧ Json.Refuses host text

/-- Reading the text of a file breaks off: as JSON, which is tried unless the name says YAML, or as
YAML. -/
def BreaksOff (host : Host) (format : Option Format) (text : String) (f : LoadFault) : Prop :=
  format ≠ some .yaml ∧ Json.BreaksOff host text f ∨
    ReadsYaml host format text ∧ Yaml.BreaksOff host text f

theorem endsIn_fileData (format : Option Format) :
    EndsIn (fileData host format text) f ↔ BreaksOff host format text f := by
  unfold BreaksOff ReadsYaml fileData
  match format with
  | some .yaml => simpa using endsIn_yamlData none
  | some .json =>
    simp only [reduceCtorEq, if_true]
    rw [endsIn_of_json host text .notJson fun _ => rfl]
    · simp
    · cases Json.parse text host with
      | ok v => rfl
      | error e => cases e <;> rfl
  | none =>
    simp only [reduceCtorEq, if_false]
    cases hp : Json.parse text host with
    | ok v => simp [Json.breaksOff_iff, Json.Refuses, hp, EndsIn]
    | error e =>
      cases e with
      | malformed m i => simpa [Json.breaksOff_iff, Json.Refuses, hp] using endsIn_yamlData _
      | limit l =>
        refine (endsIn_limit l).trans ?_
        simp [Json.breaksOff_iff, Json.Refuses, hp]

theorem endsIn_ofText (path : String) (format : Option Format) :
    EndsIn (ofText path format text host) f ↔ BreaksOff host format text f := by
  refine (endsIn_bind fun v f hf => ?_).trans (endsIn_fileData format)
  cases ho : requireObject v with
  | error f' =>
    rw [ho] at hf
    cases hf
    unfold requireObject at ho
    split at ho <;> cases ho <;> rfl
  | ok w =>
    rw [ho] at hf
    simp only [bind, Except.bind] at hf
    split at hf <;> cases hf
    rfl

/-- Loading the file breaks off while its text is read. -/
def LoadBreaksOff (host : Host) (t : FileTree) (path : String) (f : LoadFault) : Prop :=
  ∃ text, t.text? (.ofString path) = some text ∧
    BreaksOff host (FilePath.ofString path).format? text f

theorem endsIn_load {t : FileTree} {path : String} (h : t.HoldsText (.ofString path)) :
    EndsIn (t.load path host) f ↔ LoadBreaksOff host t path f := by
  unfold FileTree.load LoadBreaksOff
  rcases h with hnone | ⟨text, htext⟩
  · simp only [hnone]
    refine iff_of_false (not_endsIn fun f hf => by cases hf; rfl) ?_
    rintro ⟨text, htext, -⟩
    obtain ⟨content, hc, -⟩ := FileTree.exists_of_text? htext
    cases (FileTree.read?_of_readNamed? hnone).symm.trans hc
  · obtain ⟨content, hc, ht⟩ := FileTree.exists_of_text? htext
    simp only [FileTree.readNamed?_of_read? hc, ht, endsIn_ofText, htext, Option.some.injEq,
      exists_eq_left']

end Document

namespace Config

variable {f : ConfigFault}

/-- Reading the text of a project file breaks off, which is YAML unless its name ends as for JSON.
-/
def BreaksOff (host : Host) (p : FilePath) (text : String) (f : ConfigFault) : Prop :=
  Text.lower p.suffix = ".json" ∧ Json.BreaksOff host text f ∨
    Text.lower p.suffix ≠ ".json" ∧ Yaml.BreaksOff host text f

theorem endsIn_parseFile (shown : String) (p : FilePath) :
    EndsIn (parseFile host shown p text) f ↔ BreaksOff host p text f := by
  unfold BreaksOff parseFile
  by_cases hjson : Text.lower p.suffix = ".json"
  · rw [if_pos hjson, endsIn_of_json host text (.unreadable shown) fun _ => rfl]
    · simp [hjson]
    · cases Json.parse text host with
      | ok v => rfl
      | error e => cases e <;> rfl
  · rw [if_neg hjson, endsIn_of_yaml host text (.unreadable shown host.yamlText) rfl]
    · simp [hjson]
    · cases Yaml.parse host text with
      | ok v => rfl
      | error e => cases e <;> rfl

theorem endsIn_readFile (shown : String) (p : FilePath) {content : Bytes}
    (h : textOf content = .ok text) :
    EndsIn (readFile host shown p content) f ↔ BreaksOff host p text f := by
  unfold readFile
  rw [h]
  refine (endsIn_bind fun v f hf => ?_).trans (endsIn_parseFile shown p)
  split at hf <;> cases hf
  rfl

/-- The project file: the one that is named, or else the one that is found. -/
def source? (t : FileTree) (named : Option FilePath) : Option FilePath :=
  named.or ((findFile t).map FilePath.ofString)

/-- Reading the project file breaks off. -/
def FileBreaksOff (host : Host) (t : FileTree) (named : Option FilePath) (f : ConfigFault) :
    Prop :=
  ∃ p text, source? t named = some p ∧ t.text? p = some text ∧ BreaksOff host p text f

theorem fileBreaksOff_iff {t : FileTree} {named : Option FilePath} {p : FilePath}
    (hp : source? t named = some p) (htext : t.text? p = some text) :
    FileBreaksOff host t named f ↔ BreaksOff host p text f := by
  refine ⟨?_, fun h => ⟨p, text, hp, htext, h⟩⟩
  rintro ⟨p', text', hp', htext', h⟩
  cases hp.symm.trans hp'
  cases htext.symm.trans htext'
  exact h

theorem exists_read?_of_findFile {t : FileTree} {name : String} (h : findFile t = some name) :
    ∃ content, t.read? (.ofString name) = some content :=
  Option.isSome_iff_exists.mp
    (List.find?_some (p := fun n => (t.read? (FilePath.ofString n)).isSome) h)

theorem endsIn_loadFile {t : FileTree} {named : Option FilePath}
    (h : ∀ p, source? t named = some p → t.HoldsText p) (root : String) :
    EndsIn (loadFile t root named host) f ↔ FileBreaksOff host t named f := by
  unfold loadFile
  cases named with
  | some p =>
    have hp : source? t (some p) = some p := rfl
    rcases h p hp with hnone | ⟨text, htext⟩
    · simp only [hnone]
      refine iff_of_false (not_endsIn fun f hf => by cases hf; rfl) ?_
      rintro ⟨p', text, hp', htext, -⟩
      cases hp.symm.trans hp'
      obtain ⟨content, hc, -⟩ := FileTree.exists_of_text? htext
      cases (FileTree.read?_of_readNamed? hnone).symm.trans hc
    · obtain ⟨content, hc, ht⟩ := FileTree.exists_of_text? htext
      simp only [FileTree.readNamed?_of_read? hc]
      exact (endsIn_readFile _ p ht).trans (fileBreaksOff_iff hp htext).symm
  | none =>
    cases hf : findFile t with
    | none =>
      refine iff_of_false (not_endsIn fun f hf => by cases hf) ?_
      rintro ⟨p, -, hp, -⟩
      rw [source?, hf] at hp
      cases hp
    | some name =>
      have hp : source? t none = some (.ofString name) := by rw [source?, hf]; rfl
      obtain ⟨content, hc⟩ := exists_read?_of_findFile hf
      rcases h _ hp with hnone | ⟨text, htext⟩
      · cases (FileTree.read?_of_readNamed? hnone).symm.trans hc
      obtain ⟨_, hc', ht⟩ := FileTree.exists_of_text? htext
      cases hc.symm.trans hc'
      simp only [hc, Option.getD_some]
      exact (endsIn_readFile _ _ ht).trans (fileBreaksOff_iff hp htext).symm

theorem endsIn_resolve {t : FileTree} {named : Option FilePath}
    (h : ∀ p, source? t named = some p → t.HoldsText p) (root : String) (env : Environment)
    (overrides : List (String × Value)) :
    EndsIn (resolve t root env overrides named host) f ↔ FileBreaksOff host t named f := by
  refine (endsIn_bind fun es f hf => ?_).trans (endsIn_loadFile h root)
  split at hf <;> cases hf
  rfl

end Config

/-- A number that is too long ends the attempt to read JSON, and YAML is not tried. -/
example : Document.ofText "api" none "[12345]" { digits := some 4 } =
    .error (.limit (.digits 4 (some 5))) := by rfl

/-- A version that has the form of a date, of a day that is none. -/
def datedText : String := "version: 2024-02-30\n"

def datedName : String := "routedoc.yaml"

/-- The project file with that version. -/
def datedTree : FileTree := FileTree.empty.withFile (.ofString datedName) datedText.toUTF8.toList

theorem parse_datedText : Yaml.parse {} datedText = .error (.badMoment .day) := by
  have htokens : Yaml.Token.ofText {} datedText = .ok [.blockMappingStart, .key,
      .scalar "version" true, .value, .scalar "2024-02-30" true, .blockEnd] := rfl
  have hnode : Yaml.Node.ofTokens [.blockMappingStart, .key, .scalar "version" true, .value,
      .scalar "2024-02-30" true, .blockEnd] = .ok (some (.mapping .mapping
        [(.scalar (.plain .str) "version", .scalar (.plain .moment) "2024-02-30")])) := rfl
  have hdata : (Yaml.data {} (.mapping .mapping
      [(.scalar (.plain .str) "version", .scalar (.plain .moment) "2024-02-30")])).toExcept =
        .error (.badMoment .day) := by
    simp only [Yaml.data, Yaml.dataEntries, Yaml.dataKey]
    rfl
  simp only [Yaml.parse, htokens, hnode, bind, Except.bind]
  exact hdata

theorem breaksOff_datedText {F : Type} [ReadingFault F] :
    Yaml.BreaksOff {} datedText (ReadingFault.scalar (.badMoment .day) : F) :=
  .scalar parse_datedText (by decide) nofun

theorem text?_datedTree : datedTree.text? (.ofString datedName) = some datedText := by
  have hread : datedTree.read? (.ofString datedName) = some datedText.toUTF8.toList := rfl
  have htext : textOf datedText.toUTF8.toList = .ok datedText := textOf_toUTF8 (by decide)
  rw [FileTree.text?, hread, Option.bind_some, htext]
  rfl

theorem source?_datedTree : Config.source? datedTree none = some (.ofString datedName) := rfl

theorem holdsText_datedTree : datedTree.HoldsText (.ofString datedName) :=
  .inr ⟨_, text?_datedTree⟩

theorem holdsText_of_source? (p : FilePath) (hp : Config.source? datedTree none = some p) :
    datedTree.HoldsText p := by
  cases source?_datedTree.symm.trans hp
  exact holdsText_datedTree

theorem loadBreaksOff_dated :
    Document.LoadBreaksOff {} datedTree datedName (.scalar (.badMoment .day)) :=
  ⟨_, text?_datedTree, .inr ⟨.inl rfl, breaksOff_datedText⟩⟩

theorem fileBreaksOff_dated :
    Config.FileBreaksOff {} datedTree none (.scalar (.badMoment .day)) :=
  ⟨_, _, source?_datedTree, text?_datedTree, .inr ⟨by decide, breaksOff_datedText⟩⟩

end RouteAtlas
