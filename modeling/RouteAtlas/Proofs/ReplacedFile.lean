import Mathlib.Data.List.Chain
import RouteAtlas.Replacing

/-!
A file that is replaced is at every moment the old one or the new one as a whole. The temporary file
is gone in the end, but for one case: a step fails while it is open, and so does closing it then.
-/

namespace RouteAtlas.Replacing

variable {ok : Step → Bool} {data : Bytes} {old : Option Bytes}

/-- What there is when a step is about to be taken. -/
def before (old : Option Bytes) (data : Bytes) : Step → Slot
  | .makeDirectory | .createTemporary => ⟨old, none⟩
  | .write | .flush => ⟨old, some []⟩
  | .sync | .close | .replace | .closeAtCleanup => ⟨old, some data⟩

@[simp] theorem target_before (x : Step) : (before old data x).target = old := by
  cases x <;> rfl

theorem temporary_before {x : Step} (h : x ∈ openSteps) :
    (before old data x).temporary ≠ none := by
  cases x <;> simp_all [openSteps, before]

/-- Every step leads to where the next one begins. -/
theorem isChain_steps : steps.IsChain fun x y => effect data (before old data x) x =
    before old data y := by
  simp [steps, effect, before]

/-- From one of the steps on, all succeed or the first that fails is followed by the clean-up. -/
theorem take_eq {x : Step} {r : List Step} (hlast : (x :: r).getLast? = some .replace)
    (h : (x :: r).IsChain fun x y => effect data (before old data x) x = before old data y) :
    take ok data (x :: r) (before old data x) =
      match (x :: r).find? (!ok ·) with
      | some failed => cleanUp ok failed (before old data failed)
      | none => (.ok (), ⟨some data, none⟩) := by
  induction r generalizing x with
  | nil =>
    obtain rfl : x = .replace := Option.some.inj hlast
    cases hx : ok .replace <;> simp [take, hx, effect, before]
  | cons y r ih =>
    obtain ⟨hxy, h⟩ := List.isChain_cons_cons.mp h
    cases hx : ok x with
    | false => simp [take, hx]
    | true =>
      have hnext : take ok data (x :: y :: r) (before old data x) =
          take ok data (y :: r) (before old data y) := by rw [take, if_pos hx, hxy]
      have hfind : (x :: y :: r).find? (!ok ·) = (y :: r).find? (!ok ·) :=
        List.find?_cons_of_neg (by simp [hx])
      rw [hnext, ih (List.getLast?_cons_cons ▸ hlast) h, hfind]

theorem run_eq : run ok data ⟨old, none⟩ =
    match steps.find? (!ok ·) with
    | some failed => cleanUp ok failed (before old data failed)
    | none => (.ok (), ⟨some data, none⟩) :=
  take_eq rfl isChain_steps

/-- The first step that fails does so with the temporary file open, and closing it then fails. -/
def Strands (ok : Step → Bool) : Prop :=
  (∃ x ∈ openSteps, steps.find? (!ok ·) = some x) ∧ ok .closeAtCleanup = false

theorem strands_iff {failed : Step} (h : steps.find? (!ok ·) = some failed) :
    Strands ok ↔ failed ∈ openSteps ∧ ok .closeAtCleanup = false := by
  refine and_congr_left fun _ => ⟨?_, fun hopen => ⟨failed, hopen, h⟩⟩
  rintro ⟨x, hx, h'⟩
  exact Option.some.inj (h.symm.trans h') ▸ hx

/-- The three ways in which replacing a file can end. -/
theorem run_cases (ok : Step → Bool) (data : Bytes) (old : Option Bytes) :
    ((∀ x ∈ steps, ok x = true) ∧ run ok data ⟨old, none⟩ = (.ok (), ⟨some data, none⟩)) ∨
    (∃ x ∈ steps, ok x = false ∧ ¬Strands ok ∧
      run ok data ⟨old, none⟩ = (.error x, ⟨old, none⟩)) ∨
    ∃ x ∈ openSteps, ok x = false ∧ Strands ok ∧
      run ok data ⟨old, none⟩ = (.error .closeAtCleanup, before old data x) := by
  rw [run_eq]
  cases hfind : steps.find? (!ok ·) with
  | none => exact .inl ⟨by simpa using List.find?_eq_none.mp hfind, rfl⟩
  | some failed =>
    have hfailed : ok failed = false := by simpa using List.find?_some hfind
    have hmem := List.mem_of_find?_eq_some hfind
    by_cases h : failed ∈ openSteps ∧ ok .closeAtCleanup = false
    · exact .inr (.inr ⟨failed, h.1, hfailed, (strands_iff hfind).mpr h,
        if_pos (by simpa using h)⟩)
    · refine .inr (.inl ⟨failed, hmem, hfailed, mt (strands_iff hfind).mp h, ?_⟩)
      refine (if_neg (by simpa using h)).trans ?_
      rw [target_before]

theorem run_of_forall (h : ∀ x ∈ steps, ok x = true) :
    run ok data ⟨old, none⟩ = (.ok (), ⟨some data, none⟩) := by
  rw [run_eq, List.find?_eq_none.mpr (by simpa using h)]

theorem exists_error_of_run (h : ∃ x ∈ steps, ok x = false) :
    ∃ e s, run ok data ⟨old, none⟩ = (.error e, s) := by
  rcases run_cases ok data old with ⟨hall, -⟩ | ⟨x, -, -, -, hrun⟩ | ⟨x, -, -, -, hrun⟩
  · obtain ⟨x, hx, hfailed⟩ := h
    cases (hall x hx).symm.trans hfailed
  · exact ⟨_, _, hrun⟩
  · exact ⟨_, _, hrun⟩

/-- Replacing a file succeeds if all steps do, and then the target holds the data and nothing else
is left. Where it fails it is for a step that fails, and the target is what it was. The temporary
file is left behind exactly where closing it to clean up fails as well. -/
theorem outcome_of_run (ok : Step → Bool) (data : Bytes) (old : Option Bytes) :
    let r := run ok data ⟨old, none⟩
    (r.1 = .ok () ↔ ∀ x ∈ steps, ok x = true) ∧
    (r.1 = .ok () → r.2 = ⟨some data, none⟩) ∧
    (∀ e, r.1 = .error e → ok e = false ∧ r.2.target = old) ∧
    (r.2.temporary ≠ none ↔ Strands ok) := by
  have hnot : ∀ {x l}, x ∈ l → l ⊆ steps → ok x = false → ¬∀ x ∈ steps, ok x = true :=
    fun hx hl hfailed hall => by simp [hall _ (hl hx)] at hfailed
  rcases run_cases ok data old with ⟨hall, h⟩ | ⟨x, hx, hfailed, hs, h⟩ | ⟨x, hx, hfailed, hs, h⟩
  · refine h ▸ ⟨iff_of_true rfl hall, fun _ => rfl, nofun, iff_of_false (by simp) ?_⟩
    rintro ⟨⟨x, -, hx⟩, -⟩
    have hfailed : ok x = false := by simpa using List.find?_some hx
    exact hnot (List.mem_of_find?_eq_some hx) (List.Subset.refl _) hfailed hall
  · refine h ▸ ⟨iff_of_false nofun (hnot hx (List.Subset.refl _) hfailed), nofun, ?_,
      iff_of_false (by simp) hs⟩
    rintro _ ⟨⟩
    exact ⟨hfailed, rfl⟩
  · refine h ▸ ⟨iff_of_false nofun (hnot hx (by decide) hfailed), nofun, ?_,
      iff_of_true (temporary_before hx) hs⟩
    rintro _ ⟨⟩
    exact ⟨hs.2, target_before x⟩

/-- Flushing fails, and so does the close that flushes once more. -/
def fullDisk (x : Step) : Bool := x ≠ .flush && x ≠ .closeAtCleanup

/-- On a full disk the temporary file stays beside the target. -/
theorem temporary_of_fullDisk :
    run fullDisk [0x6e] ⟨some [0x6f], none⟩ = (.error .closeAtCleanup, ⟨some [0x6f], some []⟩) :=
  rfl

end RouteAtlas.Replacing
