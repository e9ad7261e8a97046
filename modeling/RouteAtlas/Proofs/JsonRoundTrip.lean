import RouteAtlas.Proofs.JsonScalars

/-! Values come back from their JSON text. -/

namespace RouteAtlas.Json

open Decimal (isDigit)

variable {host : Host}

section

variable (host : Host)

mutual

/-- Does JSON text hold the value as it is, behind so many brackets that are open? Numbers other
than whole ones are left aside. -/
def holds (depth : Nat) : Value → Bool
  | .null => true
  | .bool _ => true
  | .int n => (host.digitsFault? (Nat.toDigits 10 n.natAbs).length).isNone
  | .str _ => true
  | .list items => holdsItems (depth + 1) items && (host.depthFault? depth).isNone
  | .map entries => holdsEntries (depth + 1) [] entries && (host.depthFault? depth).isNone
  | _ => false

def holdsItems (depth : Nat) : List Value → Bool
  | [] => true
  | x :: xs => holds depth x && holdsItems depth xs

/-- The keys are texts, and new ones beside these. -/
def holdsEntries (depth : Nat) (keys : List String) : List (Value × Value) → Bool
  | [] => true
  | (.str k, v) :: r => !keys.contains k && holds depth v && holdsEntries depth (keys ++ [k]) r
  | _ => false

end

end

theorem putEntry_of_new {key : String} {acc : List (String × Value)}
    (h : key ∉ acc.map (·.1)) (v : Value) : putEntry key v acc = acc ++ [(key, v)] := by
  induction acc with
  | nil => rfl
  | cons e acc ih =>
    obtain ⟨k, w⟩ := e
    simp only [List.map_cons, List.mem_cons, not_or] at h
    rw [putEntry, if_neg fun heq => h.1 heq.symm, ih h.2, List.cons_append]

theorem toList_int (n : Int) : (toString n).toList =
    if 0 ≤ n then Nat.toDigits 10 n.toNat else '-' :: Nat.toDigits 10 (-n).toNat := by
  rw [Int.toString_eq_repr, Int.repr_eq_if]
  split <;> simp [Nat.toList_repr]

theorem toList_write_list (l : Layout) (depth : Nat) (x : Value) (xs : List Value) :
    (write l depth (.list (x :: xs))).toList =
      '[' :: ((writeItems l (depth + 1) (x :: xs)).toList ++
        ((l.break depth).toList ++ [']'])) := by
  simp [write]

theorem toList_write_map (l : Layout) (depth : Nat) (e : Value × Value)
    (es : List (Value × Value)) :
    (write l depth (.map (e :: es))).toList =
      '\x7b' :: ((writeEntries l (depth + 1) (e :: es)).toList ++
        ((l.break depth).toList ++ ['\x7d'])) := by
  simp [write]

/-- A value may begin so: not with a blank, a closing bracket or a byte order mark. -/
def Opens (c : Char) : Prop := isSpace c = false ∧ c ≠ ']' ∧ c ≠ '\ufeff'

instance (c : Char) : Decidable (Opens c) := inferInstanceAs (Decidable (_ ∧ _))

theorem opens_of_isDigit {c : Char} (h : isDigit c = true) : Opens c := by
  have hne : ∀ d ∈ [' ', '\t', '\n', '\r', ']', '\ufeff'], c ≠ d := ne_of_isDigit h (by decide)
  simp only [List.mem_cons, List.not_mem_nil, or_false, forall_eq_or_imp, forall_eq] at hne
  simp [Opens, isSpace, hne]

theorem exists_cons_toDigits (n : Nat) :
    ∃ c cs, Nat.toDigits 10 n = c :: cs ∧ isDigit c = true := by
  cases h : Nat.toDigits 10 n with
  | nil => exact absurd h Nat.toDigits_ne_nil
  | cons c cs => exact ⟨c, cs, rfl, all_toDigits n c (by simp [h])⟩

theorem exists_head_write (l : Layout) (depth : Nat) {v : Value} (hv : holds host depth v = true) :
    ∃ c cs, (write l depth v).toList = c :: cs ∧ Opens c := by
  cases v with
  | null => exact ⟨'n', ['u', 'l', 'l'], by simp [write], by decide⟩
  | bool b =>
    cases b with
    | false => exact ⟨'f', ['a', 'l', 's', 'e'], by simp [write], by decide⟩
    | true => exact ⟨'t', ['r', 'u', 'e'], by simp [write], by decide⟩
  | int n =>
    rw [write, toList_int]
    split
    next =>
      obtain ⟨c, cs, hcs, hc⟩ := exists_cons_toDigits n.toNat
      exact ⟨c, cs, hcs, opens_of_isDigit hc⟩
    next => exact ⟨'-', _, rfl, by decide⟩
  | str s => exact ⟨'"', _, toList_quoted s, by decide⟩
  | list items =>
    cases items with
    | nil => exact ⟨'[', [']'], by simp [write], by decide⟩
    | cons x xs => exact ⟨'[', _, toList_write_list l depth x xs, by decide⟩
  | map entries =>
    cases entries with
    | nil => exact ⟨'\x7b', ['\x7d'], by simp [write], by decide⟩
    | cons e es => exact ⟨'\x7b', _, toList_write_map l depth e es, by decide⟩
  | _ => cases hv

theorem words_of_digit {c : Char} (hc : isDigit c = true) (r : List Char) :
    words.find? (fun w => w.1.isPrefixOf (c :: r)) = none ∧
      words.find? (fun w => w.1.isPrefixOf ('-' :: c :: r)) = none := by
  have hne : ∀ d ∈ ['n', 't', 'f', 'N', 'I', '-'], c ≠ d := ne_of_isDigit hc (by decide)
  simp only [List.mem_cons, List.not_mem_nil, or_false, forall_eq_or_imp, forall_eq] at hne
  obtain ⟨h1, h2, h3, h4, h5, h6⟩ := hne
  constructor <;>
    simp [words, List.isPrefixOf, h1.symm, h2.symm, h3.symm, h4.symm, h5.symm, h6.symm]

variable {depth : Nat}

theorem takes_value_text (s : String) {fuel : Nat} (r : List Char) :
    Takes (value host depth (fuel + 1)) (quoted s).toList (.str s) r := by
  intro i
  rw [toList_quoted, List.cons_append]
  have hfuel : s.toList.length < (written s.toList ++ ['"'] ++ r).length + 1 := by
    have := length_le_length_written s.toList
    simp only [List.length_append]
    omega
  obtain ⟨j, hj⟩ := takes_quoted s i hfuel r (i + 1)
  refine ⟨j, ?_⟩
  have hskip : Cursor.advance ⟨i, '"' :: (written s.toList ++ ['"'] ++ r)⟩ 1 =
      ⟨i + 1, written s.toList ++ ['"'] ++ r⟩ := rfl
  simp only [value, hskip, hj]
  rfl

theorem takes_value_int {n : Int}
    (hfits : host.digitsFault? (Nat.toDigits 10 n.natAbs).length = none) {fuel : Nat}
    {r : List Char} (hr : Ends r) :
    Takes (value host depth (fuel + 1)) (toString n).toList (.int n) r := by
  intro i
  rw [toList_int]
  split
  next hn =>
    have habs : n.natAbs = n.toNat := by omega
    obtain ⟨j, hj⟩ := takes_number_nat n.toNat (habs ▸ hfits) hr i
    obtain ⟨c, cs, hcs, hc⟩ := exists_cons_toDigits n.toNat
    refine ⟨j, ?_⟩
    rw [Int.toNat_of_nonneg hn] at hj
    rw [hcs, List.cons_append] at hj ⊢
    have hne : ∀ d ∈ ['"', '\x7b', '['], c ≠ d := ne_of_isDigit hc (by decide)
    simp only [List.mem_cons, List.not_mem_nil, or_false, forall_eq_or_imp, forall_eq] at hne
    simp [value, hne, (words_of_digit hc (cs ++ r)).1, hj]
  next hn =>
    have habs : n.natAbs = (-n).toNat := by omega
    obtain ⟨j, hj⟩ := takes_number_neg (n := (-n).toNat) (by omega) (habs ▸ hfits) hr i
    obtain ⟨c, cs, hcs, hc⟩ := exists_cons_toDigits (-n).toNat
    refine ⟨j, ?_⟩
    rw [Int.toNat_of_nonneg (by omega), Int.neg_neg] at hj
    rw [hcs, List.cons_append, List.cons_append] at hj ⊢
    simp [value, (words_of_digit hc (cs ++ r)).2, hj]

theorem takes_value_null (fuel : Nat) (r : List Char) :
    Takes (value host depth (fuel + 1)) ['n', 'u', 'l', 'l'] .null r :=
  fun i => ⟨i + 4, by simp [value, words, Cursor.advance]⟩

theorem takes_value_bool (fuel : Nat) (b : Bool) (r : List Char) :
    Takes (value host depth (fuel + 1)) (if b then "true" else "false").toList (.bool b) r := by
  intro i
  cases b with
  | false => exact ⟨i + 5, by simp [value, words, Cursor.advance]⟩
  | true => exact ⟨i + 4, by simp [value, words, Cursor.advance]⟩

theorem ends_cons {c : Char} (hc : isDigit c = false ∧ c ≠ '.' ∧ c ≠ 'e' ∧ c ≠ 'E')
    (r : List Char) : Ends (c :: r) := by
  intro d hd
  cases hd
  exact hc

/-- Blanks or nothing before a character that does not carry a number on. -/
theorem ends_append {bs : List Char} (hbs : bs.all isSpace = true) {r : List Char} (hr : Ends r) :
    Ends (bs ++ r) := by
  cases bs with
  | nil => exact hr
  | cons b bs =>
    have hb := List.all_eq_true.mp hbs b List.mem_cons_self
    simp only [isSpace, Bool.or_eq_true, decide_eq_true_eq] at hb
    rcases hb with ((rfl | rfl) | rfl) | rfl <;> exact ends_cons (by decide) _

/-! ### Items and entries -/

variable {fuel : Nat} {r bs cs : List Char}

theorem takes_elements_last (acc : List Value) {x : Value} (hbs : bs.all isSpace = true)
    (hx : Takes (value host depth fuel) cs x (bs ++ ']' :: r)) :
    Takes (elements host depth (fuel + 1) acc) (cs ++ (bs ++ [']']))
      (.list (x :: acc).reverse) r := by
  intro i
  obtain ⟨j, hj⟩ := hx i
  refine ⟨j + bs.length + 1, ?_⟩
  have hskip := Cursor.skipSpace_append hbs (c := ']') (by decide) j r
  simp only [List.append_assoc, List.cons_append, List.nil_append, elements, hj, bind, Except.bind,
    hskip]
  rfl

theorem elements_of_next (acc : List Value) {x : Value}
    (hx : Takes (value host depth fuel) cs x (',' :: r)) (i : Nat) :
    ∃ j, elements host depth (fuel + 1) acc ⟨i, cs ++ ',' :: r⟩ =
      elements host depth fuel (x :: acc) (Cursor.skipSpace ⟨j, r⟩) := by
  obtain ⟨j, hj⟩ := hx i
  refine ⟨j + 1, ?_⟩
  have hskip := Cursor.skipSpace_cons (c := ',') (by decide) j r
  simp only [elements, hj, bind, Except.bind, hskip]
  rfl

/-- How reading goes on behind the value of an entry. -/
def afterValue (host : Host) (depth fuel : Nat) (acc : List (String × Value)) (k : String)
    (p : Value × Cursor) : Except Error (Value × Cursor) :=
  let next := p.2.skipSpace
  match next.rest with
  | '\x7d' :: _ => .ok (Value.object (putEntry k p.1 acc), next.advance 1)
  | ',' :: _ => members host depth fuel (putEntry k p.1 acc) (next.advance 1).skipSpace
  | _ => fail .comma next.index

/-- The value of an entry is read behind its key. -/
theorem members_of_entry (fuel : Nat) (acc : List (String × Value)) (k : String) {c : Char}
    (hc : isSpace c = false) (cs : List Char) (i : Nat) :
    ∃ j, members host depth (fuel + 1) acc ⟨i, (quoted k).toList ++ (':' :: ' ' :: c :: cs)⟩ =
      value host depth fuel ⟨j, c :: cs⟩ >>= afterValue host depth fuel acc k := by
  rw [toList_quoted, List.cons_append]
  have hfuel : k.toList.length <
      (written k.toList ++ ['"'] ++ (':' :: ' ' :: c :: cs)).length + 1 := by
    have := length_le_length_written k.toList
    simp only [List.length_append]
    omega
  obtain ⟨j, hj⟩ := takes_quoted k i hfuel (':' :: ' ' :: c :: cs) (i + 1)
  refine ⟨j + 1 + 1, ?_⟩
  have hskip : Cursor.advance ⟨i, '"' :: (written k.toList ++ ['"'] ++ (':' :: ' ' :: c :: cs))⟩ 1 =
      ⟨i + 1, written k.toList ++ ['"'] ++ (':' :: ' ' :: c :: cs)⟩ := rfl
  have hcolon : Cursor.skipSpace ⟨j, ':' :: ' ' :: c :: cs⟩ = ⟨j, ':' :: ' ' :: c :: cs⟩ :=
    Cursor.skipSpace_cons (by decide) _ _
  have hblank : (Cursor.advance ⟨j, ':' :: ' ' :: c :: cs⟩ 1).skipSpace = ⟨j + 1 + 1, c :: cs⟩ :=
    Cursor.skipSpace_append (show [' '].all isSpace = true by decide) hc _ _
  simp only [members, hskip, hj, bind, Except.bind, hcolon, hblank]
  rfl

theorem takes_members_last (acc : List (String × Value)) {v : Value} (hbs : bs.all isSpace = true)
    (k : String) (hhead : ∃ c cs', cs = c :: cs' ∧ isSpace c = false)
    (hv : Takes (value host depth fuel) cs v (bs ++ '\x7d' :: r)) :
    Takes (members host depth (fuel + 1) acc)
      ((quoted k).toList ++ (':' :: ' ' :: (cs ++ (bs ++ ['\x7d']))))
      (Value.object (putEntry k v acc)) r := by
  intro i
  obtain ⟨c, cs, rfl, hc⟩ := hhead
  obtain ⟨n, hn⟩ := members_of_entry fuel acc k hc (cs ++ (bs ++ '\x7d' :: r)) i
  obtain ⟨j, hj⟩ := hv n
  refine ⟨j + bs.length + 1, ?_⟩
  have hskip := Cursor.skipSpace_append hbs (c := '\x7d') (by decide) j r
  simp only [List.append_assoc, List.cons_append, List.nil_append] at hj ⊢
  rw [hn, hj]
  simp only [bind, Except.bind, afterValue, hskip]
  rfl

theorem members_of_next (acc : List (String × Value)) {v : Value} (k : String)
    (hhead : ∃ c cs', cs = c :: cs' ∧ isSpace c = false)
    (hv : Takes (value host depth fuel) cs v (',' :: r)) (i : Nat) :
    ∃ j, members host depth (fuel + 1) acc
        ⟨i, (quoted k).toList ++ (':' :: ' ' :: (cs ++ ',' :: r))⟩ =
      members host depth fuel (putEntry k v acc) (Cursor.skipSpace ⟨j, r⟩) := by
  obtain ⟨c, cs, rfl, hc⟩ := hhead
  obtain ⟨n, hn⟩ := members_of_entry fuel acc k hc (cs ++ ',' :: r) i
  obtain ⟨j, hj⟩ := hv n
  refine ⟨j + 1, ?_⟩
  have hskip := Cursor.skipSpace_cons (c := ',') (by decide) j r
  simp only [List.cons_append] at hj ⊢
  rw [hn, hj]
  simp only [bind, Except.bind, afterValue, hskip]
  rfl

theorem skipSpace_break (l : Layout) (depth : Nat) {v : Value} (hv : holds host depth v = true)
    (i : Nat) (t : List Char) :
    ∃ j, Cursor.skipSpace ⟨i, (l.break depth).toList ++ ((write l depth v).toList ++ t)⟩ =
      ⟨j, (write l depth v).toList ++ t⟩ := by
  obtain ⟨c, cs, hcs, hc, -⟩ := exists_head_write l depth hv
  rw [hcs]
  exact ⟨_, Cursor.skipSpace_append (l.all_break depth) hc i (cs ++ t)⟩

theorem toList_writeItems (l : Layout) (depth : Nat) (x : Value) (xs : List Value) :
    (writeItems l depth (x :: xs)).toList =
      (l.break depth).toList ++ ((write l depth x).toList ++
        if xs = [] then [] else ',' :: (writeItems l depth xs).toList) := by
  cases xs <;> simp [writeItems]

theorem toList_writeEntries (l : Layout) (depth : Nat) (k : String) (v : Value)
    (es : List (Value × Value)) :
    (writeEntries l depth ((.str k, v) :: es)).toList =
      (l.break depth).toList ++ ((quoted k).toList ++ (':' :: ' ' :: ((write l depth v).toList ++
        if es = [] then [] else ',' :: (writeEntries l depth es).toList))) := by
  cases es <;> simp [writeEntries, Value.keyText, Value.text]

theorem takes_value_list {c : Char} {v : Value} (hbs : bs.all isSpace = true)
    (hc : Opens c)
    (hroom : host.depthFault? depth = none)
    (hv : Takes (fun cur => elements host (depth + 1) fuel [] cur.skipSpace) (bs ++ c :: cs) v r) :
    Takes (value host depth (fuel + 1)) ('[' :: (bs ++ c :: cs)) v r := by
  intro i
  obtain ⟨j, hj⟩ := hv (i + 1)
  refine ⟨j, ?_⟩
  have hskip := Cursor.skipSpace_append hbs hc.1 (i + 1) (cs ++ r)
  have hopen : Cursor.advance ⟨i, '[' :: (bs ++ c :: (cs ++ r))⟩ 1 =
      ⟨i + 1, bs ++ c :: (cs ++ r)⟩ := rfl
  simp only [List.append_assoc, List.cons_append, hskip] at hj ⊢
  simp only [value, hopen, hskip, hj, hroom, within]
  split
  next heq => exact absurd (List.cons.inj heq).1 hc.2.1
  next => rfl

theorem takes_value_map {v : Value} (hbs : bs.all isSpace = true)
    (hroom : host.depthFault? depth = none)
    (hv : Takes (fun cur => members host (depth + 1) fuel [] cur.skipSpace) (bs ++ '"' :: cs) v r) :
    Takes (value host depth (fuel + 1)) ('\x7b' :: (bs ++ '"' :: cs)) v r := by
  intro i
  obtain ⟨j, hj⟩ := hv (i + 1)
  refine ⟨j, ?_⟩
  have hskip := Cursor.skipSpace_append hbs (c := '"') (by decide) (i + 1) (cs ++ r)
  have hopen : Cursor.advance ⟨i, '\x7b' :: (bs ++ '"' :: (cs ++ r))⟩ 1 =
      ⟨i + 1, bs ++ '"' :: (cs ++ r)⟩ := rfl
  simp only [List.append_assoc, List.cons_append, hskip] at hj ⊢
  simp only [value, hopen, hskip, hj, hroom, within]
  rfl

/-- With so much fuel, what is written of values, items and entries of no more characters is read
as what it is. -/
structure ReadsBack (host : Host) (l : Layout) (fuel : Nat) : Prop where
  values : ∀ (depth : Nat) {v : Value}, holds host depth v = true →
    (write l depth v).toList.length ≤ fuel →
    ∀ {r : List Char}, Ends r → Takes (value host depth fuel) (write l depth v).toList v r
  items : ∀ (depth : Nat) (acc : List Value) {x : Value} {xs : List Value},
    holdsItems host depth (x :: xs) = true → (writeItems l depth (x :: xs)).toList.length < fuel →
    ∀ {bs : List Char}, bs.all isSpace = true → ∀ r : List Char,
      Takes (fun c => elements host depth fuel acc c.skipSpace)
        ((writeItems l depth (x :: xs)).toList ++ (bs ++ [']'])) (.list (acc.reverse ++ x :: xs)) r
  entries : ∀ (depth : Nat) (acc : List (String × Value)) {k : String} {v : Value}
    {es : List (Value × Value)},
    holdsEntries host depth (acc.map (·.1)) ((.str k, v) :: es) = true →
    (writeEntries l depth ((.str k, v) :: es)).toList.length < fuel →
    ∀ {bs : List Char}, bs.all isSpace = true → ∀ r : List Char,
      Takes (fun c => members host depth fuel acc c.skipSpace)
        ((writeEntries l depth ((.str k, v) :: es)).toList ++ (bs ++ ['\x7d']))
        (.map (acc.map (fun a => (.str a.1, a.2)) ++ (.str k, v) :: es)) r

variable {l : Layout}

theorem ReadsBack.values_succ (ih : ReadsBack host l fuel) {depth : Nat} {v : Value}
    (hv : holds host depth v = true) (hfuel : (write l depth v).toList.length ≤ fuel + 1)
    (hr : Ends r) : Takes (value host depth (fuel + 1)) (write l depth v).toList v r := by
  match v with
  | .null =>
    rw [write]
    exact takes_value_null fuel r
  | .bool b =>
    rw [write]
    exact takes_value_bool fuel b r
  | .int n =>
    rw [write]
    exact takes_value_int (Option.isNone_iff_eq_none.mp hv) hr
  | .str s =>
    rw [write]
    exact takes_value_text s r
  | .list [] =>
    have hroom : host.depthFault? depth = none := Option.isNone_iff_eq_none.mp hv
    exact fun i => ⟨i + 2, by
      simp [write, value, Cursor.advance, Cursor.skipSpace, isSpace, hroom, within]⟩
  | .list (x :: xs) =>
    rw [toList_write_list] at hfuel ⊢
    simp only [List.length_cons, List.length_append, List.length_nil] at hfuel
    obtain ⟨hitems, hroom⟩ := Bool.and_eq_true_iff.mp hv
    obtain ⟨hx, -⟩ := Bool.and_eq_true_iff.mp hitems
    obtain ⟨c, cs, hcs, hc⟩ := exists_head_write l (depth + 1) hx
    have h := ih.items (depth + 1) [] hitems (by omega) (l.all_break depth) r
    rw [toList_writeItems, hcs, List.append_assoc, List.append_assoc, List.cons_append] at h ⊢
    exact takes_value_list (l.all_break (depth + 1)) hc (Option.isNone_iff_eq_none.mp hroom) h
  | .map [] =>
    have hroom : host.depthFault? depth = none := Option.isNone_iff_eq_none.mp hv
    exact fun i => ⟨i + 2, by
      simp [write, value, Cursor.advance, Cursor.skipSpace, isSpace, hroom, within]⟩
  | .map ((.str k, x) :: es) =>
    rw [toList_write_map] at hfuel ⊢
    simp only [List.length_cons, List.length_append, List.length_nil] at hfuel
    obtain ⟨hentries, hroom⟩ := Bool.and_eq_true_iff.mp hv
    have h := ih.entries (depth + 1) [] hentries (by omega) (l.all_break depth) r
    rw [toList_writeEntries, toList_quoted, List.append_assoc, List.cons_append,
      List.cons_append] at h ⊢
    exact takes_value_map (l.all_break (depth + 1)) (Option.isNone_iff_eq_none.mp hroom) h

theorem ReadsBack.items_succ (ih : ReadsBack host l fuel) {depth : Nat} (acc : List Value)
    {x : Value} {xs : List Value} (h : holdsItems host depth (x :: xs) = true)
    (hfuel : (writeItems l depth (x :: xs)).toList.length < fuel + 1) (hbs : bs.all isSpace = true)
    (r : List Char) :
    Takes (fun c => elements host depth (fuel + 1) acc c.skipSpace)
      ((writeItems l depth (x :: xs)).toList ++ (bs ++ [']']))
      (.list (acc.reverse ++ x :: xs)) r := by
  intro i
  obtain ⟨hx, hxs⟩ := Bool.and_eq_true_iff.mp h
  rw [toList_writeItems] at hfuel ⊢
  simp only [List.length_append] at hfuel
  cases xs with
  | nil =>
    have hvalue := ih.values depth hx (by omega)
      (ends_append hbs (ends_cons (c := ']') (by decide) r))
    obtain ⟨j, hj⟩ := skipSpace_break l depth hx i (bs ++ ']' :: r)
    obtain ⟨k, hk⟩ := takes_elements_last acc hbs hvalue j
    refine ⟨k, ?_⟩
    simp only [if_true, List.append_assoc, List.nil_append, List.cons_append, List.append_nil,
      List.reverse_cons] at hj hk ⊢
    rw [hj, hk]
  | cons y ys =>
    rw [if_neg (by simp), List.length_cons] at hfuel
    have hvalue := ih.values depth hx (by omega) (r :=
      ',' :: ((writeItems l depth (y :: ys)).toList ++ (bs ++ ']' :: r))) (ends_cons (by decide) _)
    obtain ⟨j, hj⟩ := skipSpace_break l depth hx i
      (',' :: ((writeItems l depth (y :: ys)).toList ++ (bs ++ ']' :: r)))
    obtain ⟨m, hm⟩ := elements_of_next acc hvalue j
    obtain ⟨k, hk⟩ := ih.items depth (x :: acc) hxs (by omega) hbs r m
    refine ⟨k, ?_⟩
    simp only [reduceCtorEq, if_false, List.append_assoc, List.nil_append, List.cons_append,
      List.reverse_cons] at hj hm hk ⊢
    rw [hj, hm, hk]

theorem ReadsBack.entries_succ (ih : ReadsBack host l fuel) {depth : Nat}
    (acc : List (String × Value)) {k : String} {v : Value} {es : List (Value × Value)}
    (h : holdsEntries host depth (acc.map (·.1)) ((.str k, v) :: es) = true)
    (hfuel : (writeEntries l depth ((.str k, v) :: es)).toList.length < fuel + 1)
    (hbs : bs.all isSpace = true) (r : List Char) :
    Takes (fun c => members host depth (fuel + 1) acc c.skipSpace)
      ((writeEntries l depth ((.str k, v) :: es)).toList ++ (bs ++ ['\x7d']))
      (.map (acc.map (fun a => (.str a.1, a.2)) ++ (.str k, v) :: es)) r := by
  intro i
  simp only [holdsEntries, Bool.and_eq_true, Bool.not_eq_true'] at h
  obtain ⟨⟨hk, hv⟩, hes⟩ := h
  -- A key that is new goes behind the others, so the order of the entries is kept.
  have hnew : putEntry k v acc = acc ++ [(k, v)] := putEntry_of_new (by simpa using hk) v
  obtain ⟨c, cs, hcs, hc, -⟩ := exists_head_write l depth hv
  rw [toList_writeEntries] at hfuel ⊢
  simp only [List.length_append, List.length_cons] at hfuel
  have hskip (t : List Char) := Cursor.skipSpace_append (l.all_break depth) (c := '"') (by decide) i
    (written k.toList ++ ('"' :: t))
  match es with
  | [] =>
    have hvalue := ih.values depth hv (by omega)
      (ends_append hbs (ends_cons (c := '\x7d') (by decide) r))
    obtain ⟨j, hj⟩ := takes_members_last acc hbs k ⟨c, cs, hcs, hc⟩ hvalue
      (i + (l.break depth).toList.length)
    refine ⟨j, ?_⟩
    simp only [toList_quoted, if_true, List.append_assoc, List.nil_append, List.cons_append,
      List.append_nil, hskip] at hj ⊢
    rw [hj, hnew]
    simp [Value.object]
  | (.str k', v') :: es =>
    rw [if_neg (by simp), List.length_cons] at hfuel
    have hvalue := ih.values depth hv (by omega) (r :=
      ',' :: ((writeEntries l depth ((.str k', v') :: es)).toList ++ (bs ++ '\x7d' :: r)))
      (ends_cons (by decide) _)
    obtain ⟨m, hm⟩ := members_of_next acc k ⟨c, cs, hcs, hc⟩ hvalue
      (i + (l.break depth).toList.length)
    have hkeys : (acc ++ [(k, v)]).map (·.1) = acc.map (·.1) ++ [k] := by simp
    obtain ⟨j, hj⟩ := ih.entries depth (acc ++ [(k, v)]) (hkeys ▸ hes) (by omega) hbs r m
    refine ⟨j, ?_⟩
    simp only [toList_quoted, reduceCtorEq, if_false, List.append_assoc, List.nil_append,
      List.cons_append, hskip] at hm hj ⊢
    rw [hm, hnew, hj]
    simp

theorem readsBack (l : Layout) : ∀ fuel, ReadsBack host l fuel := by
  intro fuel
  -- An item, an entry and an opening bracket cost one unit each, and one character at least.
  induction fuel with
  | zero =>
    refine ⟨fun depth {v} hv hlen => ?_, fun _ _ _ _ _ h => ?_, fun _ _ _ _ _ _ h => ?_⟩
    · obtain ⟨c, cs, hcs, -⟩ := exists_head_write l depth hv
      rw [hcs] at hlen
      cases hlen
    · cases h
    · cases h
  | succ fuel ih =>
    exact ⟨fun _ _ hv hlen _ hr => ih.values_succ hv hlen hr,
      fun _ acc _ _ h hlen _ hbs r => ih.items_succ acc h hlen hbs r,
      fun _ acc _ _ _ h hlen _ hbs r => ih.entries_succ acc h hlen hbs r⟩

/-- A value that JSON text can hold is read back from the text that is written of it. -/
theorem parse_pretty {v : Value} (hv : holds host 0 v = true) :
    parse (pretty v) host = .ok v := by
  obtain ⟨c, cs, hcs, hc, -, hmark⟩ := exists_head_write .indented 0 hv
  have htext : (pretty v).toList = (write .indented 0 v).toList ++ ['\n'] := by simp [pretty]
  have hlen : (write .indented 0 v).toList.length ≤ (pretty v).toList.length + 1 := by
    simp only [htext, List.length_append]
    omega
  have hends : Ends ['\n'] := ends_append (show ['\n'].all isSpace = true by decide) nofun
  obtain ⟨j, hj⟩ := (readsBack .indented _).values 0 hv hlen hends 0
  have hstart : Cursor.skipSpace ⟨0, (pretty v).toList⟩ = ⟨0, (pretty v).toList⟩ := by
    rw [htext, hcs]
    exact Cursor.skipSpace_cons hc 0 _
  have hend : Cursor.skipSpace ⟨j, ['\n']⟩ = ⟨j + 1, []⟩ := rfl
  rw [← htext] at hj
  unfold parse
  simp only [hstart, hj, bind, Except.bind, hend]
  rw [if_neg]
  · rfl
  · rw [htext, hcs]
    simpa using hmark

/-! ### Line breaks -/

theorem return_not_mem_escapeChar (c : Char) : '\r' ∉ (escapeChar c).toList := by
  have hhex : ∀ n < 32, '\r' ∉ (Text.hex 4 n).toList := by decide +kernel
  unfold escapeChar
  split
  iterate 7 simp
  next hreturn _ _ _ =>
    split
    next hc =>
      simpa using hhex c.toNat hc
    next => simpa using fun h => hreturn h.symm

theorem return_not_mem_quoted (s : String) : '\r' ∉ (quoted s).toList := by
  simp [toList_quoted, written, return_not_mem_escapeChar]

theorem return_not_mem_int (n : Int) : '\r' ∉ (toString n).toList := by
  have hdigits (n : Nat) : '\r' ∉ Nat.toDigits 10 n := fun h => by cases all_toDigits n _ h
  rw [toList_int]
  split
  next => exact hdigits _
  next => simp [hdigits]

theorem Layout.return_not_mem_break (l : Layout) (depth : Nat) : '\r' ∉ (l.break depth).toList := by
  cases l <;> simp [Layout.break]

mutual

/-- Every carriage return of a text is written as an escape. -/
theorem return_not_mem_write (l : Layout) (depth : Nat) :
    ∀ v, holds host depth v = true → '\r' ∉ (write l depth v).toList
  | .null, _ => by simp [write]
  | .bool b, _ => by cases b <;> simp [write]
  | .int n, _ => by
    rw [write]
    exact return_not_mem_int n
  | .str s, _ => by
    rw [write]
    exact return_not_mem_quoted s
  | .list [], _ => by simp [write]
  | .list (x :: xs), h => by
    have hitems := (Bool.and_eq_true_iff.mp h).1
    simp [toList_write_list, l.return_not_mem_break,
      return_not_mem_writeItems l (depth + 1) _ hitems]
  | .map [], _ => by simp [write]
  | .map (e :: es), h => by
    have hentries := (Bool.and_eq_true_iff.mp h).1
    simp [toList_write_map, l.return_not_mem_break,
      return_not_mem_writeEntries l (depth + 1) _ [] hentries]

theorem return_not_mem_writeItems (l : Layout) (depth : Nat) :
    ∀ xs, holdsItems host depth xs = true → '\r' ∉ (writeItems l depth xs).toList
  | [], _ => by simp [writeItems]
  | x :: xs, h => by
    obtain ⟨hx, hxs⟩ := Bool.and_eq_true_iff.mp h
    rw [toList_writeItems]
    have hwrite := return_not_mem_write l depth x hx
    have hrest := return_not_mem_writeItems l depth xs hxs
    split <;> simp [l.return_not_mem_break, hwrite, hrest]

theorem return_not_mem_writeEntries (l : Layout) (depth : Nat) :
    ∀ es keys, holdsEntries host depth keys es = true → '\r' ∉ (writeEntries l depth es).toList
  | [], _, _ => by simp [writeEntries]
  | (.str k, v) :: es, keys, h => by
    simp only [holdsEntries, Bool.and_eq_true] at h
    rw [toList_writeEntries]
    have hwrite := return_not_mem_write l depth v h.1.2
    have hrest := return_not_mem_writeEntries l depth es _ h.2
    split <;> simp [l.return_not_mem_break, return_not_mem_quoted, hwrite, hrest]

end

theorem return_not_mem_pretty {v : Value} (hv : holds host 0 v = true) :
    '\r' ∉ (pretty v).toList := by
  simp [pretty, return_not_mem_write _ _ v hv]

end RouteAtlas.Json
