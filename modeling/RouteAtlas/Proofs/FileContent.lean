import RouteAtlas.FileTree

/-! The bytes of a text hold that text. -/

namespace RouteAtlas

namespace Text

/-- The byte that goes on with a character, six bits each. -/
def follower (n : Nat) : UInt8 := UInt8.ofNat (n % 0x40 + 0x80)

theorem toNat_follower (n : Nat) : (follower n).toNat = n % 0x40 + 0x80 := by
  rw [follower, UInt8.toNat_ofNat']
  omega

/-- A leading byte with all the bytes that must follow it counts as one character. -/
theorem decodeFrom_of_lead {b lo hi : UInt8} {n : Nat} {part : List UInt8}
    (hb : 0x80 ≤ b.toNat) (hf : followers? b = some (n, lo, hi)) (r : List UInt8)
    (hpart : goodPart lo hi n (part ++ r) = part) (hlen : part.length = n) (fuel i : Nat)
    (acc : List Char) :
    decodeFrom (fuel + 1) i acc (b :: (part ++ r)) =
      decodeFrom fuel (i + 1 + n) (Char.ofNat (codePoint n b part) :: acc) r := by
  have hnot : ¬ b < 0x80 := by
    rw [UInt8.lt_iff_toNat_lt]
    exact Nat.not_lt.mpr hb
  have hdrop : (part ++ r).drop n = r := List.drop_left' hlen
  simp only [decodeFrom, if_neg hnot, hf, hpart, if_pos hlen, hdrop]

theorem goodPart_zero (lo hi : UInt8) (r : List UInt8) : goodPart lo hi 0 r = [] := by
  unfold goodPart
  rfl

theorem goodPart_follower {lo hi : UInt8} {m : Nat} (h : lo.toNat ≤ m % 0x40 + 0x80 ∧
    m % 0x40 + 0x80 ≤ hi.toNat) (n : Nat) (r : List UInt8) :
    goodPart lo hi (n + 1) (follower m :: r) = follower m :: goodPart 0x80 0xbf n r := by
  have hle : lo ≤ follower m ∧ follower m ≤ hi := by
    rw [UInt8.le_iff_toNat_le, UInt8.le_iff_toNat_le, toNat_follower]
    exact h
  rw [goodPart, if_pos (by simpa using hle)]

theorem followers?_two {b : UInt8} (h : 0xc2 ≤ b.toNat ∧ b.toNat < 0xe0) :
    followers? b = some (1, 0x80, 0xbf) := by
  have hle : 0xc2 ≤ b ∧ b < 0xe0 := by
    rw [UInt8.le_iff_toNat_le, UInt8.lt_iff_toNat_lt]
    exact h
  rw [followers?, if_pos (by simpa using hle)]

theorem followers?_three {b : UInt8} {m : Nat} (h : 0xe0 ≤ b.toNat ∧ b.toNat < 0xf0)
    (hlow : b.toNat = 0xe0 → 0xa0 ≤ m) (hhigh : b.toNat = 0xed → m ≤ 0x9f)
    (hm : 0x80 ≤ m ∧ m ≤ 0xbf) :
    ∃ lo hi, followers? b = some (2, lo, hi) ∧ lo.toNat ≤ m ∧ m ≤ hi.toNat := by
  unfold followers?
  simp only [UInt8.le_iff_toNat_le, UInt8.lt_iff_toNat_lt, ← UInt8.toNat_inj, Bool.and_eq_true,
    decide_eq_true_eq, UInt8.reduceToNat]
  rw [if_neg (by omega)]
  split
  next h0 => exact ⟨_, _, rfl, hlow h0, hm.2⟩
  next h0 =>
    split
    next hd => exact ⟨_, _, rfl, hm.1, hhigh hd⟩
    next =>
      rw [if_pos (by omega)]
      exact ⟨_, _, rfl, hm⟩

theorem followers?_four {b : UInt8} {m : Nat} (h : 0xf0 ≤ b.toNat ∧ b.toNat ≤ 0xf4)
    (hlow : b.toNat = 0xf0 → 0x90 ≤ m) (hhigh : b.toNat = 0xf4 → m ≤ 0x8f)
    (hm : 0x80 ≤ m ∧ m ≤ 0xbf) :
    ∃ lo hi, followers? b = some (3, lo, hi) ∧ lo.toNat ≤ m ∧ m ≤ hi.toNat := by
  unfold followers?
  simp only [UInt8.le_iff_toNat_le, UInt8.lt_iff_toNat_lt, ← UInt8.toNat_inj, Bool.and_eq_true,
    decide_eq_true_eq, UInt8.reduceToNat]
  rw [if_neg (by omega), if_neg (by omega), if_neg (by omega), if_neg (by omega)]
  split
  next h0 => exact ⟨_, _, rfl, hlow h0, hm.2⟩
  next h0 =>
    split
    next => exact ⟨_, _, rfl, hm⟩
    next =>
      rw [if_pos (by omega)]
      exact ⟨_, _, rfl, hm.1, hhigh (by omega)⟩

theorem toNat_lead {n k : Nat} (h : n + k < 0x100) : (UInt8.ofNat (n + k)).toNat = n + k := by
  rw [UInt8.toNat_ofNat']
  exact Nat.mod_eq_of_lt h

variable {n : Nat} (fuel i : Nat) (acc : List Char) (r : List UInt8)

theorem decodeFrom_two (h : 0x7f < n ∧ n ≤ 0x7ff) :
    decodeFrom (fuel + 1) i acc (UInt8.ofNat (n / 64 % 0x20 + 0xc0) :: follower n :: r) =
      decodeFrom fuel (i + 1 + 1) (Char.ofNat n :: acc) r := by
  have hlead := toNat_lead (n := n / 64 % 0x20) (k := 0xc0) (by omega)
  have hf := followers?_two (b := UInt8.ofNat (n / 64 % 0x20 + 0xc0)) (by omega)
  have hpart : goodPart 0x80 0xbf 1 ([follower n] ++ r) = [follower n] := by
    rw [List.singleton_append, goodPart_follower (by simp only [UInt8.reduceToNat]; omega),
      goodPart_zero]
  have hcode : codePoint 1 (UInt8.ofNat (n / 64 % 0x20 + 0xc0)) [follower n] = n := by
    simp only [codePoint, if_true, List.foldl_cons, List.foldl_nil, toNat_follower, hlead]
    omega
  have h := decodeFrom_of_lead (by omega) hf r hpart rfl fuel i acc
  rw [hcode] at h
  exact h

theorem decodeFrom_three (h : 0x7ff < n ∧ n ≤ 0xffff) (hvalid : n < 0xd800 ∨ 0xdfff < n) :
    decodeFrom (fuel + 1) i acc
        (UInt8.ofNat (n / 4096 % 0x10 + 0xe0) :: follower (n / 64) :: follower n :: r) =
      decodeFrom fuel (i + 1 + 2) (Char.ofNat n :: acc) r := by
  have hlead := toNat_lead (n := n / 4096 % 0x10) (k := 0xe0) (by omega)
  obtain ⟨lo, hi, hf, hlo, hhi⟩ := followers?_three (b := UInt8.ofNat (n / 4096 % 0x10 + 0xe0))
    (m := n / 64 % 0x40 + 0x80) (by omega) (by omega) (by omega) (by omega)
  have hpart : goodPart lo hi 2 ([follower (n / 64), follower n] ++ r) =
      [follower (n / 64), follower n] := by
    rw [List.cons_append, List.singleton_append, goodPart_follower ⟨hlo, hhi⟩,
      goodPart_follower (by simp only [UInt8.reduceToNat]; omega), goodPart_zero]
  have hcode : codePoint 2 (UInt8.ofNat (n / 4096 % 0x10 + 0xe0)) [follower (n / 64), follower n] =
      n := by
    simp only [codePoint, List.foldl_cons, List.foldl_nil, toNat_follower, hlead]
    simp only [reduceIte, Nat.reduceEqDiff]
    omega
  have h := decodeFrom_of_lead (by omega) hf r hpart rfl fuel i acc
  rw [hcode] at h
  exact h

theorem decodeFrom_four (h : 0xffff < n ∧ n < 0x110000) :
    decodeFrom (fuel + 1) i acc (UInt8.ofNat (n / 262144 % 0x08 + 0xf0) :: follower (n / 4096) ::
        follower (n / 64) :: follower n :: r) =
      decodeFrom fuel (i + 1 + 3) (Char.ofNat n :: acc) r := by
  have hlead := toNat_lead (n := n / 262144 % 0x08) (k := 0xf0) (by omega)
  obtain ⟨lo, hi, hf, hlo, hhi⟩ := followers?_four (b := UInt8.ofNat (n / 262144 % 0x08 + 0xf0))
    (m := n / 4096 % 0x40 + 0x80) (by omega) (by omega) (by omega) (by omega)
  have hpart : goodPart lo hi 3 ([follower (n / 4096), follower (n / 64), follower n] ++ r) =
      [follower (n / 4096), follower (n / 64), follower n] := by
    rw [List.cons_append, List.cons_append, List.singleton_append, goodPart_follower ⟨hlo, hhi⟩,
      goodPart_follower (by simp only [UInt8.reduceToNat]; omega),
      goodPart_follower (by simp only [UInt8.reduceToNat]; omega), goodPart_zero]
  have hcode : codePoint 3 (UInt8.ofNat (n / 262144 % 0x08 + 0xf0))
      [follower (n / 4096), follower (n / 64), follower n] = n := by
    simp only [codePoint, List.foldl_cons, List.foldl_nil, toNat_follower, hlead]
    simp only [reduceIte, Nat.reduceEqDiff]
    omega
  have h := decodeFrom_of_lead (by omega) hf r hpart rfl fuel i acc
  rw [hcode] at h
  exact h

/-- The bytes of a character are read as that character. -/
theorem decodeFrom_utf8EncodeChar (c : Char) :
    ∃ j, decodeFrom (fuel + 1) i acc (String.utf8EncodeChar c ++ r) =
      decodeFrom fuel j (c :: acc) r := by
  have hvalid := c.valid
  simp only [UInt32.isValidChar, Nat.isValidChar] at hvalid
  have hchar : Char.ofNat c.val.toNat = c := Char.ofNat_toNat c
  unfold String.utf8EncodeChar
  dsimp only
  generalize c.val.toNat = n at hvalid hchar
  rw [← hchar]
  split
  next h1 =>
    have hbyte : (UInt8.ofNat n).toNat = n := toNat_lead (k := 0) (by omega)
    have hlt : UInt8.ofNat n < 0x80 := by
      rw [UInt8.lt_iff_toNat_lt, hbyte]
      exact Nat.lt_succ_of_le h1
    refine ⟨i + 1, ?_⟩
    rw [List.singleton_append, decodeFrom, if_pos hlt, hbyte]
  next h1 =>
    split
    next h2 => exact ⟨_, decodeFrom_two fuel i acc r ⟨by omega, h2⟩⟩
    next h2 =>
      split
      next h3 => exact ⟨_, decodeFrom_three fuel i acc r ⟨by omega, h3⟩ (by omega)⟩
      next h3 => exact ⟨_, decodeFrom_four fuel i acc r (by omega)⟩

theorem decodeFrom_flatMap (cs acc : List Char) {fuel : Nat} (hfuel : cs.length < fuel) (i : Nat) :
    decodeFrom fuel i acc (cs.flatMap String.utf8EncodeChar) =
      .ok (String.ofList (acc.reverse ++ cs)) := by
  induction cs generalizing fuel i acc with
  | nil =>
    obtain ⟨fuel, rfl⟩ := Nat.exists_eq_add_one_of_ne_zero (Nat.ne_of_gt hfuel)
    rw [List.flatMap_nil, decodeFrom, List.append_nil]
    simp
  | cons c cs ih =>
    obtain ⟨fuel, rfl⟩ := Nat.exists_eq_add_one_of_ne_zero (Nat.ne_of_gt (Nat.zero_lt_of_lt hfuel))
    obtain ⟨j, hj⟩ := decodeFrom_utf8EncodeChar fuel i acc (cs.flatMap String.utf8EncodeChar) c
    rw [List.flatMap_cons, hj, ih _ (Nat.lt_of_succ_lt_succ hfuel), List.reverse_cons,
      List.append_assoc, List.singleton_append]

theorem toList_loop (bs : ByteArray) (i : Nat) (r : List UInt8) :
    ByteArray.toList.loop bs i r = r.reverse ++ bs.data.toList.drop i := by
  fun_induction ByteArray.toList.loop bs i r with
  | case1 i r h ih =>
    have hi : i < bs.data.toList.length := by simpa using h
    have hget : bs.get! i = bs.data.toList[i] := by
      rw [Array.getElem_toList]
      exact getElem!_pos bs.data i h
    rw [ih, List.drop_eq_getElem_cons hi, List.reverse_cons, List.append_assoc, hget]
    rfl
  | case2 i r h =>
    rw [List.drop_eq_nil_of_le (by simpa using Nat.le_of_not_lt h), List.append_nil]

theorem toList_toUTF8 (s : String) : s.toUTF8.toList = s.toList.flatMap String.utf8EncodeChar := by
  have h : s.toUTF8 = (s.toList.flatMap String.utf8EncodeChar).toByteArray :=
    String.utf8Encode_toList.symm
  rw [h, ByteArray.toList, toList_loop, List.toList_data_toByteArray]
  rfl

theorem length_le_length_flatMap (cs : List Char) :
    cs.length ≤ (cs.flatMap String.utf8EncodeChar).length := by
  induction cs with
  | nil => exact Nat.le_refl 0
  | cons c cs ih =>
    have hc := c.utf8Size_pos
    rw [List.flatMap_cons, List.length_append, List.length_cons, String.length_utf8EncodeChar]
    omega

/-- The bytes of a text are read as that text. -/
theorem decodeUtf8_toUTF8 (s : String) : decodeUtf8 s.toUTF8.toList = .ok s := by
  have h := length_le_length_flatMap s.toList
  rw [toList_toUTF8, decodeUtf8, decodeFrom_flatMap s.toList [] (by omega), List.reverse_nil,
    List.nil_append, String.ofList_toList]

theorem unifyBreaks_of_not_mem {s : String} (h : '\r' ∉ s.toList) : unifyBreaks s = s := by
  have hlist : ∀ cs : List Char, '\r' ∉ cs → unifyBreaksList cs = cs := by
    intro cs hcs
    induction cs with
    | nil => rfl
    | cons c cs ih =>
      obtain ⟨hc, hcs⟩ := not_or.mp (mt List.mem_cons.mpr hcs)
      unfold unifyBreaksList
      split
      next heq => cases heq
      next heq => exact absurd (List.cons.inj heq).1.symm hc
      next heq => exact absurd (List.cons.inj heq).1.symm hc
      next heq =>
        obtain ⟨rfl, rfl⟩ := List.cons.inj heq
        rw [ih hcs]
  rw [unifyBreaks, hlist _ h, String.ofList_toList]

end Text

/-- A text without carriage returns is what a file with its bytes holds. -/
theorem textOf_toUTF8 {s : String} (h : '\r' ∉ s.toList) : textOf s.toUTF8.toList = .ok s := by
  rw [textOf, Text.decodeUtf8_toUTF8]
  exact congrArg Except.ok (Text.unifyBreaks_of_not_mem h)

end RouteAtlas
