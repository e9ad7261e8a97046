import RouteAtlas.Proofs.TemplateSegments
import RouteAtlas.Route.Verb
import RouteAtlas.Text.Lines

/-!
Separators and the case of letters. Casing neither makes nor loses a character at which a line or a
cell ends, so the name of an operation has none but those of its template.
-/

namespace RouteAtlas

namespace Text

open CaseTable

variable {c m : Char} {s : String}

/-- Does a cell or a line end with this character? -/
def isSeparator (c : Char) : Bool := c = '\t' || endsLine c

/-- The code points of separators. -/
def separatorCodes : List Nat :=
  [0x09, 0x0a, 0x0b, 0x0c, 0x0d, 0x1c, 0x1d, 0x1e, 0x85, 0x2028, 0x2029]

theorem toNat_mem_separatorCodes (h : isSeparator c = true) : c.toNat ∈ separatorCodes := by
  have hle : ∀ d e : Char, d ≤ e ↔ d.toNat ≤ e.toNat := fun d e => UInt32.le_iff_toNat_le
  simp only [isSeparator, endsLine, Bool.or_eq_true, Bool.and_eq_true, decide_eq_true_eq, hle] at h
  rcases h with rfl | (((h | h) | rfl) | rfl) | rfl
  · decide
  · change 10 ≤ c.toNat ∧ c.toNat ≤ 13 at h
    simp [separatorCodes]
    omega
  · change 28 ≤ c.toNat ∧ c.toNat ≤ 30 at h
    simp [separatorCodes]
    omega
  all_goals decide

/-- A code point that is none stands for the null character, which is no separator. -/
theorem mem_separatorCodes_of_ofNat {n : Nat} (h : isSeparator (.ofNat n) = true) :
    n ∈ separatorCodes := by
  have hcode := toNat_mem_separatorCodes h
  by_cases hn : n.isValidChar
  · have hself : (Char.ofNat n).toNat = n := by
      rw [Char.ofNat, dif_pos hn]
      exact UInt32.toNat_ofNatLT
    rwa [hself] at hcode
  · rw [Char.ofNat, dif_neg hn] at hcode
    exact absurd hcode (by decide)

/-- No code point is mapped to a separator by the run. -/
def spares (r : Run) : Bool :=
  separatorCodes.all fun n => n < r.first + r.shift || r.last + r.shift < n

theorem spares_runs : ∀ r ∈ upperRuns ++ lowerRuns, spares r = true := by decide +kernel

theorem special_not_mem : ∀ e ∈ upperSpecial ++ lowerSpecial,
    e.2 ≠ [] ∧ ∀ n ∈ e.2, n ∉ separatorCodes := by decide +kernel

theorem map?_not_mem {r : Run} (hr : spares r = true) {n k : Nat} (h : r.map? n = some k) :
    k ∉ separatorCodes := by
  unfold Run.map? at h
  split at h
  next hn =>
    intro hk
    have hpos : k ≠ 0 := by
      rintro rfl
      exact absurd hk (by decide)
    have hout := List.all_eq_true.mp hr k hk
    simp only [Bool.or_eq_true, decide_eq_true_eq] at hout
    have hk' := Option.some.inj h
    omega
  next => cases h

section

variable {special : List (Nat × List Nat)} {runs : List Run} {n : Nat} {ns : List Nat}

theorem mem_special (h : special.lookup n = some ns) : (n, ns) ∈ special := by
  obtain ⟨before, behind, rfl, -⟩ := List.lookup_eq_some_iff.mp h
  exact List.mem_append_right _ List.mem_cons_self

/-- Separators come from nothing but themselves. -/
theorem eq_of_mem_mapByTable (hs : ∀ e ∈ special, ∀ n ∈ e.2, n ∉ separatorCodes)
    (hr : ∀ r ∈ runs, spares r = true) (h : m ∈ mapByTable special runs c)
    (hm : isSeparator m = true) : m = c := by
  unfold mapByTable at h
  split at h
  next ns hns =>
    obtain ⟨n, hn, rfl⟩ := List.mem_map.mp h
    exact absurd (mem_separatorCodes_of_ofNat hm) (hs _ (mem_special hns) n hn)
  next =>
    rw [List.mem_singleton] at h
    cases hk : runs.findSome? (·.map? c.toNat) with
    | none => rwa [hk] at h
    | some k =>
      rw [hk] at h
      obtain ⟨r, hmem, hmap⟩ := List.exists_of_findSome?_eq_some hk
      subst h
      exact absurd (mem_separatorCodes_of_ofNat hm) (map?_not_mem (hr r hmem) hmap)

theorem mapByTable_ne_nil (hs : ∀ e ∈ special, e.2 ≠ []) : mapByTable special runs c ≠ [] := by
  unfold mapByTable
  split
  next ns hns => simpa using hs _ (mem_special hns)
  next => exact List.cons_ne_nil _ _

end

/-- Separators have no case. -/
theorem upperChar_separator (h : isSeparator c = true) : upperChar c = [c] := by
  have hall : ∀ n ∈ separatorCodes, upperChar (.ofNat n) = [.ofNat n] := by decide +kernel
  have hc := hall _ (toNat_mem_separatorCodes h)
  rwa [Char.ofNat_toNat] at hc

/-- Nor does casing make separators out of the first characters. -/
theorem eq_of_cased (h : c.toNat < 128) :
    (isSeparator c.toUpper = true → c.toUpper = c) ∧
      (isSeparator c.toLower = true → c.toLower = c) := by
  have hall : ∀ n < 128, (isSeparator (Char.ofNat n).toUpper = true →
      (Char.ofNat n).toUpper = .ofNat n) ∧ (isSeparator (Char.ofNat n).toLower = true →
      (Char.ofNat n).toLower = .ofNat n) := by decide +kernel
  have hc := hall _ h
  rwa [Char.ofNat_toNat] at hc

theorem eq_of_mem_upperChar (h : m ∈ upperChar c) (hm : isSeparator m = true) : m = c := by
  unfold upperChar at h
  split at h
  next hc =>
    obtain rfl := List.mem_singleton.mp h
    exact (eq_of_cased hc).1 hm
  next =>
    refine eq_of_mem_mapByTable (fun e he => ?_) (fun r hr => ?_) h hm
    · exact (special_not_mem e (List.mem_append_left _ he)).2
    · exact spares_runs r (List.mem_append_left _ hr)

theorem eq_of_mem_lowerChar (h : m ∈ lowerChar c) (hm : isSeparator m = true) : m = c := by
  unfold lowerChar at h
  split at h
  next hc =>
    obtain rfl := List.mem_singleton.mp h
    exact (eq_of_cased hc).2 hm
  next =>
    refine eq_of_mem_mapByTable (fun e he => ?_) (fun r hr => ?_) h hm
    · exact (special_not_mem e (List.mem_append_right _ he)).2
    · exact spares_runs r (List.mem_append_right _ hr)

theorem lowerChar_ne_nil (c : Char) : lowerChar c ≠ [] := by
  unfold lowerChar
  split
  · exact List.cons_ne_nil _ _
  · exact mapByTable_ne_nil fun e he => (special_not_mem e (List.mem_append_right _ he)).1

theorem mem_lowerFrom {before cs : List Char} (h : m ∈ lowerFrom before cs)
    (hm : isSeparator m = true) : m ∈ cs := by
  induction cs generalizing before with
  | nil => cases h
  | cons c r ih =>
    rw [lowerFrom] at h
    rcases List.mem_append.mp h with h | h
    · split at h
      next =>
        -- Both forms of a small sigma are letters.
        split at h <;> (rw [List.mem_singleton.mp h] at hm; exact absurd hm (by decide))
      next => exact eq_of_mem_lowerChar h hm ▸ List.mem_cons_self
    · exact List.mem_cons_of_mem _ (ih h)

theorem mem_of_mem_lower (h : m ∈ (lower s).toList) (hm : isSeparator m = true) :
    m ∈ s.toList := by
  rw [lower, String.toList_ofList] at h
  exact mem_lowerFrom h hm

theorem mem_upper (h : m ∈ s.toList) (hm : isSeparator m = true) : m ∈ (upper s).toList := by
  rw [upper, String.toList_ofList]
  exact List.mem_flatMap.mpr ⟨m, h, by rw [upperChar_separator hm]; exact List.mem_singleton_self m⟩

theorem mem_of_mem_capitalizeFirst (h : m ∈ (capitalizeFirst s).toList)
    (hm : isSeparator m = true) : m ∈ s.toList := by
  unfold capitalizeFirst at h
  split at h
  next => cases h
  next c r hs =>
    rw [hs]
    rw [String.toList_ofList] at h
    rcases List.mem_append.mp h with h | h
    · exact eq_of_mem_upperChar h hm ▸ List.mem_cons_self
    · exact List.mem_cons_of_mem _ h

theorem lower_ne_empty (h : s ≠ "") : lower s ≠ "" := by
  obtain ⟨c, r, hs⟩ := List.exists_cons_of_ne_nil (mt String.toList_eq_nil_iff.mp h)
  refine mt String.toList_eq_nil_iff.mpr ?_
  rw [lower, String.toList_ofList, hs, lowerFrom]
  intro hnil
  have hfirst := (List.append_eq_nil_iff.mp hnil).1
  split at hfirst
  next => split at hfirst <;> cases hfirst
  next => exact lowerChar_ne_nil c hfirst

end Text

namespace Verb

variable {method : String} {v : Verb}

theorem upper_of_ofMethod (h : ofMethod method = .ok v) : Text.upper method = v.word := by
  unfold ofMethod at h
  split at h
  next w hw =>
    cases h
    have hword : v.word = Text.upper method := by simpa using List.find?_some hw
    exact hword.symm
  next => cases h

theorem ne_empty_of_ofMethod (h : ofMethod method = .ok v) : method ≠ "" := by
  rintro rfl
  cases v <;> exact absurd (upper_of_ofMethod h) (by decide)

theorem not_isSeparator (h : ofMethod method = .ok v) {m : Char} (hm : m ∈ method.toList) :
    Text.isSeparator m = false := by
  have hword : v.word.toList.all (!Text.isSeparator ·) = true := by cases v <;> decide
  cases hsep : Text.isSeparator m with
  | false => rfl
  | true =>
    have hupper := Text.mem_upper hm hsep
    rw [upper_of_ofMethod h] at hupper
    exact absurd (List.all_eq_true.mp hword m hupper) (by simp [hsep])

end Verb

/-- The name of an operation has no separators but those of the template. -/
theorem Template.mem_of_mem_operationId {template method : String} {v : Verb}
    (hv : Verb.ofMethod method = .ok v) {m : Char}
    (h : m ∈ (operationId template method).toList) (hm : Text.isSeparator m = true) :
    m ∈ template.toList := by
  rw [operationId, String.toList_append] at h
  rcases List.mem_append.mp h with h | h
  · rw [Verb.not_isSeparator hv (Text.mem_of_mem_lower h hm)] at hm
    cases hm
  · rw [String.toList_join] at h
    obtain ⟨_, hpart, h⟩ := List.mem_flatMap.mp h
    obtain ⟨segment, hsegment, rfl⟩ := List.mem_map.mp hpart
    exact Text.mem_of_mem_segments (List.mem_filter.mp hsegment).1
      (Text.mem_of_mem_capitalizeFirst h hm)

theorem Template.operationId_ne_empty {template method : String} {v : Verb}
    (hv : Verb.ofMethod method = .ok v) : operationId template method ≠ "" := by
  intro hnil
  have hlower := String.append_eq_empty_iff.mp hnil
  exact Text.lower_ne_empty (Verb.ne_empty_of_ofMethod hv) hlower.1

end RouteAtlas
