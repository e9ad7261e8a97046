import Mathlib
import RouteAtlas.Proofs.StrictBuild

/-!
Who holds a short name after a build, beside those that are found to claim it. Found are the
identities in the order in which the actions first come upon them. But an action gives the name to
the last of its models of it besides the one that holds it then, also where that model has been met
before, so the identity that is found last need not be the one that holds the name.
-/

namespace RouteAtlas

variable {classes : Registry} {n i : String} {holder : Option String}

namespace Models

/-- The last model of a name besides the one that holds it. -/
def challenger? (ms : Models) (n : String) (holder : Option String) : Option (String × Schema) :=
  last? (ms.filter fun m => holder ≠ some m.1) n

/-- Who holds a name once the models of an action are there. -/
def nextHolder (ms : Models) (n : String) (holder : Option String) : Option String :=
  ((ms.challenger? n holder).map (·.1)).or holder

/-- No model of the name but that of the identity is among them. -/
def BringsOnly (ms : Models) (n i : String) : Prop := ∀ m ∈ ms, m.2.name = n → m.1 = i

theorem challenger?_eq_none {ms : Models} :
    ms.challenger? n holder = none ↔ ∀ m ∈ ms, m.2.name = n → holder = some m.1 := by
  rw [challenger?, last?_eq_none]
  simp only [List.mem_filter, decide_eq_true_eq, ne_eq]
  exact ⟨fun h m hm hn => not_not.mp fun hne => h m ⟨hm, hne⟩ hn,
    fun h m hm hn => hm.2 (h m hm.1 hn)⟩

theorem challenger?_eq_none_iff_bringsOnly {ms : Models} :
    ms.challenger? n (some i) = none ↔ ms.BringsOnly n i := by
  rw [challenger?_eq_none]
  simp only [BringsOnly, Option.some.injEq, eq_comm (a := i)]

theorem mem_of_challenger? {ms : Models} {m : String × Schema}
    (h : ms.challenger? n holder = some m) : m ∈ ms :=
  (List.mem_filter.mp (mem_of_last? h).1).1

theorem nextHolder_eq_some {ms : Models} :
    ms.nextHolder n holder = some i ↔
      (ms.challenger? n holder).map (·.1) = some i ∨ holder = some i ∧ ms.BringsOnly n i := by
  cases hch : ms.challenger? n holder with
  | some m =>
    have hstays : ¬(holder = some i ∧ ms.BringsOnly n i) := by
      rintro ⟨rfl, honly⟩
      cases hch.symm.trans (challenger?_eq_none_iff_bringsOnly.mpr honly)
    simp [nextHolder, hch, hstays]
  | none =>
    have honly : holder = some i → ms.BringsOnly n i := by
      rintro rfl
      exact challenger?_eq_none_iff_bringsOnly.mp hch
    simpa [nextHolder, hch] using honly

theorem nextHolder_isSome {ms : Models}
    (h : holder.isSome = true ∨ ∃ m ∈ ms, m.2.name = n) :
    (ms.nextHolder n holder).isSome = true := by
  rw [nextHolder, Option.isSome_or, Bool.or_eq_true, Option.isSome_map]
  refine or_iff_not_imp_right.mpr fun hnone => ?_
  obtain ⟨m, hm, hn⟩ := h.resolve_left hnone
  rw [Option.isSome_iff_ne_none]
  intro hch
  rw [challenger?_eq_none.mp hch m hm hn] at hnone
  exact hnone rfl

/-- Where two conditions agree on the models of a name, so do the last ones that meet them. -/
theorem last?_filter_congr {ms : Models} {p q : String × Schema → Bool}
    (h : ∀ m ∈ ms, m.2.name = n → p m = q m) : last? (ms.filter p) n = last? (ms.filter q) n := by
  simp only [last?, ← List.filter_reverse, List.find?_filter]
  refine List.find?_congr fun m hm => ?_
  by_cases hn : m.2.name = n
  · rw [h m (List.mem_reverse.mp hm) hn]
  · simp [hn]

end Models

/-- Who holds a name after the models of several actions, one action after the other. -/
def holderAfter (n : String) (mss : List Models) (holder : Option String) : Option String :=
  mss.foldl (fun holder ms => ms.nextHolder n holder) holder

/-- The name is given to the identity, and no other model of the name comes afterwards. -/
def GivenForGood (n i : String) (mss : List Models) (holder : Option String) : Prop :=
  ∃ pre ms post, mss = pre ++ ms :: post ∧
    (ms.challenger? n (holderAfter n pre holder)).map (·.1) = some i ∧
    ∀ ns ∈ post, ns.BringsOnly n i

theorem not_givenForGood_nil : ¬GivenForGood n i [] holder := by
  rintro ⟨pre, ms, post, hsplit, -⟩
  simp at hsplit

theorem givenForGood_cons {ms : Models} {mss : List Models} :
    GivenForGood n i (ms :: mss) holder ↔
      ((ms.challenger? n holder).map (·.1) = some i ∧ ∀ ns ∈ mss, ns.BringsOnly n i) ∨
        GivenForGood n i mss (ms.nextHolder n holder) := by
  constructor
  · rintro ⟨pre, ns, post, hsplit, hgiven, honly⟩
    cases pre with
    | nil =>
      cases hsplit
      exact Or.inl ⟨hgiven, honly⟩
    | cons ks pre =>
      cases hsplit
      exact Or.inr ⟨pre, ns, post, rfl, hgiven, honly⟩
  · rintro (⟨hgiven, honly⟩ | ⟨pre, ns, post, rfl, hgiven, honly⟩)
    · exact ⟨[], ms, mss, rfl, hgiven, honly⟩
    · exact ⟨ms :: pre, ns, post, rfl, hgiven, honly⟩

/-- An identity holds the name in the end if it is given the name for good, or held it before and no
other came. -/
theorem holderAfter_eq_some {mss : List Models} :
    holderAfter n mss holder = some i ↔
      GivenForGood n i mss holder ∨ holder = some i ∧ ∀ ms ∈ mss, ms.BringsOnly n i := by
  induction mss generalizing holder with
  | nil => simp [holderAfter, not_givenForGood_nil]
  | cons ms mss ih =>
    have hstep : holderAfter n (ms :: mss) holder =
      holderAfter n mss (ms.nextHolder n holder) := rfl
    rw [hstep, ih, givenForGood_cons, Models.nextHolder_eq_some, List.forall_mem_cons]
    tauto

theorem holderAfter_isSome {mss : List Models}
    (h : holder.isSome = true ∨ ∃ ms ∈ mss, ∃ m ∈ ms, m.2.name = n) :
    (holderAfter n mss holder).isSome = true := by
  induction mss generalizing holder with
  | nil => exact h.resolve_right (by simp)
  | cons ms mss ih =>
    refine ih ?_
    rw [List.exists_mem_cons_iff, ← or_assoc] at h
    exact h.imp_left Models.nextHolder_isSome

namespace Claims

/-- The identities that claim a name, in the order in which they do. -/
def ids (cs : Claims) (n : String) : List String := (cs.lookup n).getD []

theorem ids_add_self (cs : Claims) (n i : String) :
    (add n i cs).ids n = if (cs.ids n).contains i then cs.ids n else cs.ids n ++ [i] := by
  induction cs with
  | nil => simp [ids, add]
  | cons c cs ih =>
    obtain ⟨m, js⟩ := c
    unfold add
    by_cases hm : m = n
    · subst hm
      simp [ids]
    · rw [if_neg hm, ids, ids, lookup_cons_of_ne _ _ (Ne.symm hm),
        lookup_cons_of_ne _ _ (Ne.symm hm)]
      exact ih

theorem ids_add_of_ne (cs : Claims) {m : String} (i : String) (hn : n ≠ m) :
    (add m i cs).ids n = cs.ids n := by
  induction cs with
  | nil => simp [ids, add, lookup_cons_of_ne _ _ hn]
  | cons c cs ih =>
    obtain ⟨k, js⟩ := c
    unfold add
    by_cases hk : k = m
    · subst hk
      rw [if_pos rfl, ids, ids, lookup_cons_of_ne _ _ hn, lookup_cons_of_ne _ _ hn]
    · rw [if_neg hk]
      by_cases hkn : n = k
      · subst hkn
        simp [ids]
      · rw [ids, ids, lookup_cons_of_ne _ _ hkn, lookup_cons_of_ne _ _ hkn]
        exact ih

end Claims

/-- The identities that claim a name are those of its models, in their order. -/
theorem ids_claims {ms : Models} (hid : ∀ m ∈ ms, m.2.id = some m.1) (hn : (ms.map (·.1)).Nodup)
    (n : String) : (claims (ms.map (·.2))).ids n = (ms.filter (·.2.name = n)).map (·.1) := by
  -- The last claim comes last, so the models are taken from behind.
  induction ms using List.reverseRecOn with
  | nil => rfl
  | append_singleton ms m ih =>
    rw [List.map_append] at hn
    obtain ⟨hms, -, hnew⟩ := List.nodup_append.mp hn
    have hclaims : claims ((ms ++ [m]).map (·.2)) = (claims (ms.map (·.2))).add m.2.name m.1 := by
      simp [claims, hid m]
    have hrest := ih (fun k hk => hid k (List.mem_append_left _ hk)) hms
    rw [hclaims, List.filter_append, List.map_append, ← hrest]
    by_cases hname : m.2.name = n
    · subst hname
      have hfresh : m.1 ∉ (claims (ms.map (·.2))).ids m.2.name := by
        rw [hrest]
        intro hmem
        obtain ⟨k, hk, hkm⟩ := List.mem_map.mp hmem
        exact hnew k.1 (List.mem_map_of_mem (List.mem_filter.mp hk).1) m.1 (by simp) hkm
      rw [Claims.ids_add_self]
      simp [hfresh]
    · rw [Claims.ids_add_of_ne _ _ (Ne.symm hname)]
      simp [hname]

namespace Document

/-- The identity of the model that holds a short name. -/
def holder? (d : Document) (n : String) : Option String :=
  (d.definitions.lookup n).map Schema.identity

variable {all : Models}

/-- A model stands among the definitions just if it holds its name. -/
theorem Placed.mem_identities_iff (hall : all.Identified) {d : Document}
    (h : Placed all d.definitions) {m : String × Schema} (hm : m ∈ all) :
    m.1 ∈ identities d.definitions ↔ d.holder? m.2.name = some m.1 := by
  constructor
  · intro hid
    obtain ⟨e, he, hem⟩ := List.mem_map.mp hid
    obtain ⟨k, hk, rfl⟩ := h.models e he
    obtain rfl := hall.unique k hk m hm ((hall.identity k hk).symm.trans hem)
    rw [holder?, lookup_of_mem h.nodup he, Option.map_some, hall.identity k hk]
  · intro hholder
    obtain ⟨s, hs, hid⟩ := Option.map_eq_some_iff.mp hholder
    exact List.mem_map.mpr ⟨_, mem_of_lookup hs, hid⟩

theorem Placed.exists_of_holder? {d : Document} (h : Placed all d.definitions)
    (hall : all.Identified) (hi : d.holder? n = some i) : ∃ m ∈ all, m.2.name = n ∧ m.1 = i := by
  obtain ⟨s, hs, rfl⟩ := Option.map_eq_some_iff.mp hi
  obtain ⟨m, hm, heq⟩ := h.models _ (mem_of_lookup hs)
  cases heq
  exact ⟨m, hm, rfl, (hall.identity m hm).symm⟩

theorem Placed.apply {strict : Bool} {d e : Document} {c : Contribution} {ts : List Takeover}
    (hd : Placed all d.definitions) (hn : (c.models.map (·.1)).Nodup)
    (hc : ∀ m ∈ c.models, m ∈ all) (h : d.apply strict c = .ok (e, ts)) :
    Placed all e.definitions := by
  refine ⟨?_, fun s hs => ?_⟩
  · rw [definitions_of_apply hn h]
    exact nodup_names_putAll hd.nodup
  · rcases mem_definitions_of_apply hn h hs with ⟨m, hm, rfl⟩ | hs
    · exact ⟨m, hc m hm, rfl⟩
    · exact hd.models s hs

theorem Placed.holder?_of_apply {strict : Bool} (hall : all.Identified) {d e : Document}
    {c : Contribution} {ts : List Takeover} (hd : Placed all d.definitions)
    (hn : (c.models.map (·.1)).Nodup) (hc : ∀ m ∈ c.models, m ∈ all)
    (h : d.apply strict c = .ok (e, ts)) : e.holder? n = c.models.nextHolder n (d.holder? n) := by
  have hlast : (c.models.unknown (identities d.definitions)).last? n =
      c.models.challenger? n (d.holder? n) := by
    refine Models.last?_filter_congr fun m hm hname => ?_
    have hiff := hd.mem_identities_iff hall (hc m hm)
    rw [hname] at hiff
    simp [hiff]
  have hid : (c.models.challenger? n (d.holder? n)).map (fun m => m.2.identity) =
      (c.models.challenger? n (d.holder? n)).map (·.1) := by
    refine Option.map_congr fun m hm => ?_
    exact hall.identity m (hc m (Models.mem_of_challenger? hm))
  rw [holder?, lookup_of_apply hn h, Option.map_or, hlast, Option.map_map, Models.nextHolder, ← hid]
  rfl

theorem Placed.holder?_of_extend {strict : Bool} (hall : all.Identified) {actions : List Action}
    {cs : List Contribution}
    (hcs : actions.mapM (Action.contribution classes .standard) = .ok cs)
    (hmem : ∀ c ∈ cs, ∀ m ∈ c.models, m ∈ all) {d e : Document} (hd : Placed all d.definitions)
    (h : (d.extend classes .standard strict actions).result = .ok e) :
    Placed all e.definitions ∧
      ∀ n, e.holder? n = holderAfter n (cs.map (·.models)) (d.holder? n) := by
  induction actions generalizing cs d with
  | nil =>
    cases Except.ok.inj hcs
    cases Except.ok.inj h
    exact ⟨hd, fun n => rfl⟩
  | cons a actions ih =>
    obtain ⟨c, rest, hc, hrest, rfl⟩ := exists_of_mapM_cons hcs
    obtain ⟨hcm, hmem⟩ := List.forall_mem_cons.mp hmem
    obtain ⟨d', ts, hstep, hend⟩ := exists_of_run_cons h
    obtain ⟨c', hc', happly⟩ := exists_of_merge hstep
    cases hc.symm.trans hc'
    have hn := (Action.identity_of_contribution hc).1
    obtain ⟨hplaced, hholder⟩ := ih hrest hmem (hd.apply hn hcm happly) hend
    refine ⟨hplaced, fun n => ?_⟩
    rw [hholder, hd.holder?_of_apply hall hn hcm happly]
    rfl

theorem exists_holders_of_build {strict : Bool} (hc : classes.Identifies) {info : Option Info}
    {actions : List Action} {d : Document}
    (h : (build classes .standard strict info none actions).result = .ok d) :
    ∃ cs all, actions.mapM (Action.contribution classes .standard) = .ok cs ∧
      collectActions classes .standard actions = .ok all ∧
      (∀ m, m ∈ all ↔ ∃ c ∈ cs, m ∈ c.models) ∧ Placed all d.definitions ∧
      ∀ n, d.holder? n = holderAfter n (cs.map (·.models)) none := by
  obtain ⟨cs, hcs⟩ := exists_contributions h
  obtain ⟨all, hcollect, hmem⟩ := exists_collectActions hc hcs
  have hall := identified_of_collectActions hc hcollect
  have hstart : Placed all (start info none).definitions :=
    ⟨List.nodup_nil, by simp [start, ofInfo]⟩
  obtain ⟨hplaced, hholder⟩ :=
    Placed.holder?_of_extend hall hcs (fun c hcm m hm => (hmem m).mpr ⟨c, hcm, hm⟩) hstart h
  exact ⟨cs, all, hcs, hcollect, hmem, hplaced, hholder⟩

/-- The identities that are found for a name are those of its models in the order in which the
actions come upon them, and one of them holds the name. The last one does just if some action gives
it the name and none after that brings another model of the name. -/
theorem last_claimant_of_build (hc : classes.Identifies) {info : Option Info}
    {actions : List Action} {d : Document}
    (h : (build classes .standard false info none actions).result = .ok d) :
    ∃ cs all found, actions.mapM (Action.contribution classes .standard) = .ok cs ∧
      collectActions classes .standard actions = .ok all ∧
      schemaCollisions classes .standard actions = .ok found ∧
      ∀ c ∈ found, c.2 = (all.filter (·.2.name = c.1)).map (·.1) ∧
        (∃ i ∈ c.2, d.holder? c.1 = some i) ∧
        ∃ i, c.2.getLast? = some i ∧
          (d.holder? c.1 = some i ↔ GivenForGood c.1 i (cs.map (·.models)) none) := by
  obtain ⟨cs, all, hcs, hcollect, hmem, hplaced, hholder⟩ := exists_holders_of_build hc h
  have hall := identified_of_collectActions hc hcollect
  have hn : (all.map (·.1)).Nodup := (collected_of_collectActions hcollect).nodup (by simp)
  refine ⟨cs, all, nameCollisions (all.map (·.2)), hcs, hcollect,
    by rw [schemaCollisions, hcollect]; rfl, fun c hfound => ?_⟩
  obtain ⟨hclaim, hlen⟩ := mem_nameCollisions.mp hfound
  have hids : c.2 = (all.filter (·.2.name = c.1)).map (·.1) := by
    rw [← ids_claims hall.id hn, Claims.ids, lookup_of_mem (justified_claims _).names hclaim]
    rfl
  refine ⟨hids, ?_, ?_⟩
  · -- One of the models of the name is brought, and from then on the name has a holder.
    obtain ⟨i, hi⟩ := List.exists_mem_of_length_pos (Nat.lt_trans Nat.zero_lt_one hlen)
    rw [hids] at hi
    obtain ⟨m, hm, -⟩ := List.mem_map.mp hi
    obtain ⟨hm, hname⟩ := List.mem_filter.mp hm
    obtain ⟨b, hb, hmb⟩ := (hmem m).mp hm
    have hsome : (d.holder? c.1).isSome = true := by
      rw [hholder]
      exact holderAfter_isSome
        (Or.inr ⟨b.models, List.mem_map_of_mem hb, m, hmb, of_decide_eq_true hname⟩)
    obtain ⟨j, hj⟩ := Option.isSome_iff_exists.mp hsome
    obtain ⟨k, hk, hkn, rfl⟩ := hplaced.exists_of_holder? hall hj
    refine ⟨k.1, ?_, hj⟩
    rw [hids]
    exact List.mem_map_of_mem (List.mem_filter.mpr ⟨hk, decide_eq_true hkn⟩)
  · have hne : c.2 ≠ [] := List.ne_nil_of_length_pos (Nat.lt_trans Nat.zero_lt_one hlen)
    refine ⟨_, List.getLast?_eq_getLast_of_ne_nil hne, ?_⟩
    rw [hholder, holderAfter_eq_some]
    simp

/-- The newer users between the older ones. -/
def answersWithOldUsers : List Action :=
  [answering "old" [.ofType (.declared "Legacy")], answering "new" [.ofType (.declared "User")],
    answering "again" [.ofType (.declared "Legacy")]]

theorem exists_build_with_old_users :
    ∃ d cs, (build usersOfTwoKinds .standard false none none answersWithOldUsers).result = .ok d ∧
      answersWithOldUsers.mapM (Action.contribution usersOfTwoKinds .standard) = .ok cs ∧
      cs.map (·.models) = [[oldUser], [newUser], [oldUser]] := by
  obtain ⟨cs, hcs, hmodels⟩ : ∃ cs,
      answersWithOldUsers.mapM (Action.contribution usersOfTwoKinds .standard) = .ok cs ∧
        cs.map (·.models) = [[oldUser], [newUser], [oldUser]] := by
    refine exists_of_map_ok ?_
    cbv
  obtain ⟨d, hd⟩ := exists_extend (fun a ha => ⟨_, (exists_mem_of_mapM hcs a ha).choose_spec.2⟩)
    (start none none)
  exact ⟨d, cs, hd, hcs, hmodels⟩

theorem schemaCollisions_of_old_users :
    schemaCollisions usersOfTwoKinds .standard answersWithOldUsers =
      .ok [("User", ["app.Legacy.User", "app.User"])] := by
  cbv

theorem last_claimant_of_build_users :
    usersOfTwoKinds.Identifies ∧
      ∃ d, (build usersOfTwoKinds .standard false none none answersWithOldUsers).result = .ok d ∧
        (d.holder? "User" = some "app.User" ↔
          GivenForGood "User" "app.User" [[oldUser], [newUser], [oldUser]] none) := by
  have hc : usersOfTwoKinds.Identifies := Registry.identifies_of_nodup (by decide +kernel)
  obtain ⟨d, cs, hd, hcs, hmodels⟩ := exists_build_with_old_users
  obtain ⟨cs', all, found, hcs', -, hfound, hclaims⟩ := last_claimant_of_build hc hd
  cases hcs.symm.trans hcs'
  cases hfound.symm.trans schemaCollisions_of_old_users
  obtain ⟨-, -, i, hi, hiff⟩ := hclaims _ (List.mem_singleton_self _)
  cases hi
  rw [hmodels] at hiff
  exact ⟨hc, d, hd, hiff⟩

/-- The newer user is found last, and the older one, which comes again after it, holds the name. -/
theorem exists_wrong_last_claimant :
    ∃ d, (build usersOfTwoKinds .standard false none none answersWithOldUsers).result = .ok d ∧
      schemaCollisions usersOfTwoKinds .standard answersWithOldUsers =
        .ok [("User", ["app.Legacy.User", "app.User"])] ∧
      (d.definitions.lookup "User").map Schema.identity = some "app.Legacy.User" := by
  have hc : usersOfTwoKinds.Identifies := Registry.identifies_of_nodup (by decide +kernel)
  obtain ⟨d, cs, hd, hcs, hmodels⟩ := exists_build_with_old_users
  obtain ⟨cs', all, hcs', -, -, -, hholder⟩ := exists_holders_of_build hc hd
  cases hcs.symm.trans hcs'
  refine ⟨d, hd, schemaCollisions_of_old_users, ?_⟩
  rw [← holder?, hholder, hmodels]
  decide +kernel

end Document

end RouteAtlas
