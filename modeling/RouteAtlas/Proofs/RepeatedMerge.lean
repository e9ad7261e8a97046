import Mathlib
import RouteAtlas.Proofs.LastWriter
import RouteAtlas.Proofs.PathFold

/-!
Merging an action twice. The paths are those of the first time. The definitions are so just if all
models of the action stand there after the first time: one that has been replaced, or left out for a
model that has been replaced since, is put in again and takes its name back.
-/

namespace RouteAtlas

variable {classes : Registry} {formats : Formats}

/-- Models under their identities, each of which comes once. -/
structure Models.Keyed (ms : Models) : Prop where
  nodup : (ms.map (·.1)).Nodup
  identity : ∀ m ∈ ms, m.2.identity = m.1

namespace Models

theorem keyed_nil : Keyed [] := ⟨List.nodup_nil, by simp⟩

theorem Keyed.append {ms : Models} (h : ms.Keyed) {m : String × Schema} (hm : m.2.identity = m.1)
    (hn : ¬ms.has m.1 = true) : Keyed (ms ++ [m]) := by
  refine ⟨?_, fun k hk => ?_⟩
  · rw [List.map_append]
    refine List.nodup_append.mpr ⟨h.nodup, by simp, fun i hi j hj hij => hn ?_⟩
    obtain ⟨k, hk, rfl⟩ := List.mem_map.mp hi
    obtain rfl : j = m.1 := by simpa using hj
    exact has_iff.mpr ⟨k, hk, hij⟩
  · rcases List.mem_append.mp hk with hk | hk
    · exact h.identity k hk
    · rwa [List.mem_singleton.mp hk]

theorem Keyed.addNew {ms : Models} (h : ms.Keyed) (s : Schema) : Keyed (ms.addNew s) := by
  unfold Models.addNew
  split
  next => exact h
  next hn => exact h.append rfl hn

theorem Keyed.foldl_addNew {ms : Models} (h : ms.Keyed) (ss : List Schema) :
    Keyed (ss.foldl Models.addNew ms) := by
  induction ss generalizing ms with
  | nil => exact h
  | cons s ss ih => exact ih (h.addNew s)

end Models

theorem ClassDecl.identity_of_schema {d : ClassDecl} {fields : List Field} {s : Schema}
    (h : d.schema classes formats fields = .ok s) : s.identity = d.identity := by
  obtain ⟨ps, -, hs⟩ := exists_of_bind_ok h
  rw [← Except.ok.inj hs, Schema.identity]
  exact if_neg d.identity_ne_empty

/-- A walk over types keeps its models under their identities, whatever the formats. -/
theorem keyed_of_collectStack {stack : List Ty} {known ms : Models} (hk : known.Keyed)
    (h : collectStack classes formats stack known = .ok ms) : ms.Keyed := by
  fun_induction collectStack classes formats stack known with
  | case1 known =>
    cases Except.ok.inj h
    exact hk
  | case2 => cases h
  | case3 known t rest ts hd _ ih => exact ih hk h
  | case4 known t rest ss hd ih => exact ih (hk.foldl_addNew ss) h
  | case5 known t rest d hd hn ih => exact ih hk h
  | case6 => cases h
  | case7 => cases h
  | case8 known t rest d hd hn fields hf s hs _ ih =>
    exact ih (hk.append (m := (d.identity, s)) (ClassDecl.identity_of_schema hs) hn) h

theorem keyed_of_foldlM {ts : List Ty} {known ms : Models} (hk : known.Keyed)
    (h : ts.foldlM (fun ms t => collectModels classes formats t ms) known = .ok ms) : ms.Keyed := by
  induction ts generalizing known with
  | nil =>
    cases Except.ok.inj h
    exact hk
  | cons t ts ih =>
    obtain ⟨ns, hn, h⟩ := exists_of_foldlM_cons h
    exact ih (keyed_of_collectStack hk hn) h

theorem Action.keyed_of_contribution {a : Action} {c : Contribution}
    (h : a.contribution classes formats = .ok c) : c.models.Keyed := by
  obtain ⟨_, _, _, _, _, hm⟩ := exists_of_contribution h
  exact keyed_of_foldlM Models.keyed_nil hm

/-- The name of a model that is put in is held by one of those put in. -/
theorem Models.exists_holder {ms : Models} {m : String × Schema} (hm : m ∈ ms)
    (defs : List (String × Schema)) :
    ∃ k ∈ ms, k.2.name = m.2.name ∧ (putAll ms.named defs).lookup m.2.name = some k.2 := by
  cases hl : ms.last? m.2.name with
  | none => exact absurd rfl (Models.last?_eq_none.mp hl m hm)
  | some k =>
    obtain ⟨hk, hkn⟩ := Models.mem_of_last? hl
    refine ⟨k, hk, hkn, ?_⟩
    rw [lookup_putAll, Models.find?_named, hl, Option.map_some, Option.some_or]

namespace Document

theorem putOperations_of_forall {paths : List (String × PathItem)}
    {ops : List (String × Verb × Operation)}
    (h : ∀ o ∈ ops, operationAt paths o.1 o.2.1 = some o.2.2) :
    putOperations paths ops = paths := by
  induction ops with
  | nil => rfl
  | cons o ops ih =>
    obtain ⟨ho, hops⟩ := List.forall_mem_cons.mp h
    rw [putOperations, List.foldl_cons, putOperation_of_operationAt ho]
    exact ih hops

theorem putOperations_twice {a : Action} {c : Contribution}
    (h : a.contribution classes formats = .ok c) (paths : List (String × PathItem)) :
    putOperations (putOperations paths c.operations) c.operations =
      putOperations paths c.operations := by
  obtain ⟨v, ts, -, -, hops, -⟩ := Action.exists_of_contribution h
  obtain ⟨-, hspec⟩ := Action.operations_spec hops
  refine putOperations_of_forall fun o ho => ?_
  obtain ⟨hv, hop⟩ := hspec o ho
  obtain ⟨op, hop', hat⟩ :=
    (operationAt_putOperations paths o.1 v hspec).1 ⟨rfl, List.mem_map_of_mem ho⟩
  cases hop.symm.trans hop'
  rwa [hv]

/-- Models that are put in leave definitions as they are just if these have all their identities. -/
theorem putAll_unknown_eq_iff {ms : Models} (hms : ms.Keyed) (defs : List (String × Schema)) :
    putAll (ms.unknown (identities defs)).named defs = defs ↔ ∀ m ∈ ms, m.1 ∈ identities defs := by
  constructor
  · intro heq m hm
    refine Decidable.byContradiction fun hnew => ?_
    -- One of the models that are put in would stand there, and so be known.
    obtain ⟨k, hk, -, hlookup⟩ :=
      Models.exists_holder (Models.mem_unknown.mpr ⟨hm, hnew⟩) defs
    obtain ⟨hkms, hknew⟩ := Models.mem_unknown.mp hk
    rw [heq] at hlookup
    exact hknew (List.mem_map.mpr ⟨_, mem_of_lookup hlookup, hms.identity k hkms⟩)
  · intro hall
    have hnone : ms.unknown (identities defs) = [] :=
      List.filter_eq_nil_iff.mpr fun m hm => by simpa using hall m hm
    rw [hnone]
    rfl

/-- Models of different names all stand there once they are put in, if those that were known stood
under their names. -/
theorem forall_mem_identities {ms : Models} (hms : ms.Keyed) (hn : (ms.map (·.2.name)).Nodup)
    {defs : List (String × Schema)}
    (hdefs : ∀ e ∈ defs, ∀ m ∈ ms, e.2.identity = m.1 → e.1 = m.2.name) :
    ∀ m ∈ ms, m.1 ∈ identities (putAll (ms.unknown (identities defs)).named defs) := by
  have hname : ∀ k ∈ ms, ∀ m ∈ ms, k.2.name = m.2.name → k = m := fun k hk m hm hkm =>
    List.inj_on_of_nodup_map hn hk hm hkm
  intro m hm
  by_cases hk : m.1 ∈ identities defs
  · obtain ⟨e, he, hid⟩ := List.mem_map.mp hk
    refine List.mem_map.mpr ⟨e, mem_putAll_of_name he fun hput => ?_, hid⟩
    -- A model that is put in under the name is this one, which is known.
    obtain ⟨k, hkmem, hkn⟩ := Models.mem_names_named.mp hput
    obtain ⟨hkms, hknew⟩ := Models.mem_unknown.mp hkmem
    rw [hname k hkms m hm (hkn.trans (hdefs e he m hm hid))] at hknew
    exact hknew hk
  · obtain ⟨k, hkmem, hkn, hlookup⟩ := Models.exists_holder (Models.mem_unknown.mpr ⟨hm, hk⟩) defs
    obtain rfl := hname k (Models.mem_unknown.mp hkmem).1 m hm hkn
    exact List.mem_map.mpr ⟨_, mem_of_lookup hlookup, hms.identity k hm⟩

/-- A contribution changes nothing but paths and definitions. -/
theorem eq_iff_of_apply {strict : Bool} {d e : Document} {c : Contribution} {ts : List Takeover}
    (h : d.apply strict c = .ok (e, ts)) :
    e = d ↔ e.paths = d.paths ∧ e.definitions = d.definitions := by
  obtain ⟨m, -, rfl⟩ := exists_of_apply h
  constructor
  · intro heq
    exact ⟨congrArg paths heq, congrArg definitions heq⟩
  · rintro ⟨hpaths, hdefs⟩
    simp only at hpaths hdefs
    rw [hpaths, hdefs]

/-- An action that is merged again leaves the paths as they are, and all else just if the models
that it brings stand among the definitions, each by its identity. They do if no two of them have one
name and those that were known before stood under their own. -/
theorem merge_again {d e : Document} {a : Action} {ts : List Takeover}
    (h : d.merge classes formats false a = .ok (e, ts)) :
    ∃ c e' ts', a.contribution classes formats = .ok c ∧
      e.merge classes formats false a = .ok (e', ts') ∧ e'.paths = e.paths ∧
      (e' = e ↔ ∀ m ∈ c.models, m.1 ∈ identities e.definitions) ∧
      ((c.models.map (·.2.name)).Nodup →
        (∀ s ∈ d.definitions, ∀ m ∈ c.models, s.2.identity = m.1 → s.1 = m.2.name) → e' = e) := by
  obtain ⟨c, hc, happly⟩ := exists_of_merge h
  obtain ⟨⟨e', ts'⟩, happly'⟩ := exists_apply e c
  have hkeyed := Action.keyed_of_contribution hc
  have hpaths : e'.paths = e.paths := by
    rw [paths_of_apply happly', paths_of_apply happly]
    exact putOperations_twice hc d.paths
  have hsame : e' = e ↔ ∀ m ∈ c.models, m.1 ∈ identities e.definitions := by
    rw [eq_iff_of_apply happly', and_iff_right hpaths, definitions_of_apply hkeyed.nodup happly']
    exact putAll_unknown_eq_iff hkeyed e.definitions
  refine ⟨c, e', ts', hc, ?_, hpaths, hsame, fun hn hown => hsame.mpr ?_⟩
  · rw [merge, hc]
    exact happly'
  · rw [definitions_of_apply hkeyed.nodup happly]
    exact forall_mem_identities hkeyed hn hown

/-- A document without paths and definitions. -/
def emptyDocument : Document := ofInfo ⟨"API", "1.0.0", none⟩

theorem exists_contributions_of_users :
    ∃ c c', (answering "new" [.ofType (.declared "User")]).contribution usersOfTwoKinds .standard =
        .ok c ∧
      (answering "all" [.ofType (.declared "Legacy"),
        .statusOfType (.int 201) (.declared "User")]).contribution usersOfTwoKinds .standard =
        .ok c' ∧
      c.models = [newUser] ∧ c'.models = [oldUser, newUser] := by
  obtain ⟨cs, hcs, hmodels⟩ := exists_contributions_with_users
  obtain ⟨c, rest, hc, hrest, rfl⟩ := exists_of_mapM_cons hcs
  obtain ⟨c', rest', hc', -, rfl⟩ := exists_of_mapM_cons hrest
  obtain ⟨hcm, hrestm⟩ := List.cons.inj hmodels
  exact ⟨c, c', hc, hc', hcm, (List.cons.inj hrestm).1⟩

theorem merge_again_users :
    ∃ e ts e' ts', emptyDocument.merge usersOfTwoKinds .standard false
        (answering "new" [.ofType (.declared "User")]) = .ok (e, ts) ∧
      e.merge usersOfTwoKinds .standard false (answering "new" [.ofType (.declared "User")]) =
        .ok (e', ts') ∧ e' = e := by
  obtain ⟨c, -, hc, -, hcm, -⟩ := exists_contributions_of_users
  obtain ⟨⟨e, ts⟩, happly⟩ := exists_apply emptyDocument c
  have hmerge : emptyDocument.merge usersOfTwoKinds .standard false
      (answering "new" [.ofType (.declared "User")]) = .ok (e, ts) := by
    rw [merge, hc]
    exact happly
  obtain ⟨c', e', ts', hc', hagain, -, -, hsame⟩ := merge_again hmerge
  cases hc.symm.trans hc'
  refine ⟨e, ts, e', ts', hmerge, hagain, hsame ?_ (by simp [emptyDocument, ofInfo])⟩
  rw [hcm]
  simp

/-- Of two users of one name the newer stands there after the first time, and the older after the
second. -/
theorem exists_merge_again_differs :
    ∃ e ts e' ts', emptyDocument.merge usersOfTwoKinds .standard false
        (answering "all" [.ofType (.declared "Legacy"),
          .statusOfType (.int 201) (.declared "User")]) = .ok (e, ts) ∧
      e.merge usersOfTwoKinds .standard false
        (answering "all" [.ofType (.declared "Legacy"),
          .statusOfType (.int 201) (.declared "User")]) = .ok (e', ts') ∧
      e.definitions = [("User", newUser.2)] ∧ e'.definitions = [("User", oldUser.2)] ∧ e' ≠ e := by
  obtain ⟨-, c, -, hc, -, hcm⟩ := exists_contributions_of_users
  obtain ⟨⟨e, ts⟩, happly⟩ := exists_apply emptyDocument c
  obtain ⟨⟨e', ts'⟩, happly'⟩ := exists_apply e c
  have hnodup := (Action.identity_of_contribution hc).1
  have hfirst : e.definitions = [("User", newUser.2)] := by
    rw [definitions_of_apply hnodup happly, hcm]
    rfl
  have hsecond : e'.definitions = [("User", oldUser.2)] := by
    rw [definitions_of_apply hnodup happly', hfirst, hcm]
    rfl
  refine ⟨e, ts, e', ts', by rw [merge, hc]; exact happly, by rw [merge, hc]; exact happly', hfirst,
    hsecond, fun heq => ?_⟩
  have hdefs : [("User", oldUser.2)] = [("User", newUser.2)] := by
    rw [← hfirst, ← hsecond, heq]
  exact absurd (congrArg identities hdefs) (by decide +kernel)

end Document

end RouteAtlas
