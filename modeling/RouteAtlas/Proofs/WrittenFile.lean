import RouteAtlas.Proofs.ReplacedFile

/-!
A file that has been written is read back as it was written. All else is as it was, but for
directories where there was nothing.
-/

namespace RouteAtlas.FileTree

variable {t t' : FileTree} {place x : List String} {p : FilePath} {data : Bytes}

theorem lookup_map_replace (es : List (List String × FileEntry)) (place x : List String)
    (e : FileEntry) : (es.map fun y => if y.1 = place then (place, e) else y).lookup x =
      if x = place then (es.lookup place).map fun _ => e else es.lookup x := by
  induction es with
  | nil => split <;> rfl
  | cons y es ih =>
    obtain ⟨k, v⟩ := y
    rw [List.map_cons, List.lookup_cons, List.lookup_cons]
    by_cases hk : k = place
    · subst hk
      rw [if_pos rfl, List.lookup_cons, beq_self_eq_true]
      by_cases hx : x = k
      · rw [if_pos hx, hx, beq_self_eq_true]
        rfl
      · rw [beq_eq_false_iff_ne.mpr hx, ih, if_neg hx, if_neg hx]
    · rw [if_neg hk, List.lookup_cons, ih, beq_eq_false_iff_ne.mpr (Ne.symm hk)]
      by_cases hx : x = place
      · rw [if_pos hx, if_pos hx, hx, beq_eq_false_iff_ne.mpr (Ne.symm hk)]
      · rw [if_neg hx, if_neg hx]

theorem lookup_put (t : FileTree) (place x : List String) (e : FileEntry) :
    (t.put place e).entries.lookup x = if x = place then some e else t.entries.lookup x := by
  unfold put
  cases hold : t.entries.lookup place with
  | some old =>
    rw [Option.isSome_some, if_pos rfl, lookup_map_replace, hold]
    rfl
  | none =>
    rw [Option.isSome_none, if_neg Bool.false_ne_true, List.lookup_append, List.lookup_cons]
    by_cases hx : x = place
    · rw [if_pos hx, hx, hold, beq_self_eq_true]
      rfl
    · rw [if_neg hx, beq_eq_false_iff_ne.mpr hx]
      exact Option.or_none

theorem at?_put_self (hbase : isBase place = false) (e : FileEntry) :
    (t.put place e).at? place = some e := by
  rw [at?, hbase, if_neg Bool.false_ne_true, lookup_put, if_pos rfl]

theorem at?_put_of_ne (h : x ≠ place) (e : FileEntry) : (t.put place e).at? x = t.at? x := by
  rw [at?, at?, lookup_put, if_neg h]

theorem isBase_of_at? (h : t.at? place ≠ some .directory) : isBase place = false := by
  cases hb : isBase place with
  | false => rfl
  | true => exact absurd (if_pos hb) h

/-- The second tree has what the first has, and directories where that has nothing. -/
def Extends (t t' : FileTree) : Prop :=
  ∀ x, t'.at? x = t.at? x ∨ t.at? x = none ∧ t'.at? x = some .directory

theorem Extends.refl (t : FileTree) : Extends t t := fun _ => .inl rfl

theorem Extends.trans {t'' : FileTree} (h : Extends t t') (h' : Extends t' t'') :
    Extends t t'' := by
  intro x
  rcases h' x with hx | ⟨hx, hx'⟩
  · exact hx ▸ h x
  · rcases h x with hy | ⟨-, hy⟩
    · exact .inr ⟨hy ▸ hx, hx'⟩
    · cases hx.symm.trans hy

theorem extends_makeDirectory (h : t.makeDirectory p = .ok t') : Extends t t' := by
  unfold makeDirectory at h
  cases hp : t.place p with
  | error f =>
    rw [hp] at h
    cases h
  | ok place =>
    rw [hp] at h
    simp only [bind, Except.bind] at h
    split at h
    next => cases h
    next hnone =>
      cases h
      intro x
      by_cases hx : x = place
      · subst hx
        have hbase : isBase x = false := isBase_of_at? fun hdir => by cases hnone.symm.trans hdir
        exact .inr ⟨hnone, at?_put_self hbase _⟩
      · exact .inl (at?_put_of_ne hx _)

theorem extends_makeDirectories (n : Nat) (t : FileTree) (p : FilePath) :
    Extends t (makeDirectories n t p).1 := by
  induction n generalizing t p with
  | zero => exact Extends.refl t
  | succ n ih =>
    unfold makeDirectories
    split
    next t₁ h => exact extends_makeDirectory h
    next =>
      have habove := ih t p.parent
      dsimp only
      split
      next => exact habove
      next =>
        split
        next t₂ h => exact habove.trans (extends_makeDirectory h)
        next => exact habove
    next => exact Extends.refl t

/-- A way through directories stays open when a file is put where it ends. -/
theorem follow_put {names start : List String} (hplace : t.at? place ≠ some .directory)
    (h : t.follow start names = .ok place) (data : Bytes) :
    (t.put place (.file data)).follow start names = .ok place := by
  induction names generalizing start with
  | nil => exact h
  | cons name r ih =>
    unfold follow at h ⊢
    split at h
    next => cases h
    next => cases h
    next hdir =>
      have hne : start ≠ place := fun he => hplace (he ▸ hdir)
      rw [at?_put_of_ne hne, hdir]
      dsimp only
      split at h
      next => cases h
      next hlong =>
        rw [if_neg hlong]
        exact ih h

/-- The data is at the place that the path leads to, and nothing else has changed but for new
directories. -/
structure Written (t t' : FileTree) (p : FilePath) (data : Bytes) : Prop where
  read : t'.read? p = some data
  others : ∃ place, t'.place p = .ok place ∧ t'.at? place = some (.file data) ∧
    ∀ x, x ≠ place → t'.at? x = t.at? x ∨ t.at? x = none ∧ t'.at? x = some .directory

theorem written_put {place : List String} (h : Extends t t') (hp : t'.place p = .ok place)
    (hplace : t'.at? place ≠ some .directory) :
    Written t (t'.put place (.file data)) p data := by
  have hp' : (t'.put place (.file data)).place p = .ok place := by
    unfold FileTree.place at hp ⊢
    split at hp
    next => cases hp
    next => exact follow_put hplace hp data
  have hat := at?_put_self (t := t') (isBase_of_at? hplace) (.file data)
  refine ⟨?_, place, hp', hat, fun x hx => ?_⟩
  · have hfind : (t'.put place (.file data)).find p = .ok (.file data) := by
      rw [find, hp']
      simp only [bind, Except.bind, hat]
      rfl
    rw [read?, hfind]
  · rw [at?_put_of_ne hx]
    exact h x

theorem not_directory_of_replaceFault? {name : String} (h : t.replaceFault? name place = none) :
    t.at? place ≠ some .directory := by
  intro hdir
  unfold replaceFault? at h
  split at h
  next => cases h
  next =>
    rw [hdir] at h
    cases h

theorem written_of_write {host : Host} (h : t.write p data host = (t', none)) :
    Written t t' p data := by
  unfold write at h
  have hextends := extends_makeDirectories (p.parts.length + 1) t p.parent
  generalize makeDirectories (p.parts.length + 1) t p.parent = made at h hextends
  obtain ⟨t₁, e⟩ := made
  cases e with
  | some e => cases h
  | none =>
    cases hp : t₁.place p with
    | error f =>
      simp only [hp] at h
      cases h
    | ok place =>
      simp only [hp] at h
      cases hfault : (temporaryFault? p.name).or (t₁.replaceFault? p.name place) with
      | none =>
        obtain ⟨htemporary, hreplace⟩ := Option.or_eq_none_iff.mp hfault
        have hall : ∀ x ∈ Replacing.steps, succeeds none none x = true := by decide
        rw [hfault, htemporary, Replacing.run_of_forall hall] at h
        cases h
        exact written_put hextends hp (not_directory_of_replaceFault? hreplace)
      | some f =>
        have hfailed : ∃ x ∈ Replacing.steps,
            succeeds (temporaryFault? p.name) (some f) x = false := ⟨.replace, by decide, rfl⟩
        obtain ⟨x, slot, hrun⟩ := Replacing.exists_error_of_run hfailed
        rw [hfault, hrun] at h
        cases h

end RouteAtlas.FileTree
