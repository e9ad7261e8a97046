import RouteAtlas.Json.Reader
import RouteAtlas.Json.Writer

/-! Texts and whole numbers in JSON are read back as they were written. -/

namespace RouteAtlas.Json

open Decimal (isDigit natOfDigits)

variable {α : Type}

/-- Wherever these characters stand before that rest, reading takes just them, for this value. -/
def Takes (read : Cursor → Except Error (α × Cursor)) (cs : List Char) (a : α)
    (rest : List Char) : Prop :=
  ∀ i, ∃ j, read ⟨i, cs ++ rest⟩ = .ok (a, ⟨j, rest⟩)

theorem Cursor.skipSpace_append {bs : List Char} (hbs : bs.all isSpace = true) {c : Char}
    (hc : isSpace c = false) (i : Nat) (r : List Char) :
    skipSpace ⟨i, bs ++ c :: r⟩ = ⟨i + bs.length, c :: r⟩ := by
  have htake : (bs ++ c :: r).takeWhile isSpace = bs := by
    rw [List.takeWhile_append_of_pos (List.all_eq_true.mp hbs),
      List.takeWhile_cons_of_neg (by simp [hc]), List.append_nil]
  simp [skipSpace, advance, htake]

theorem Cursor.skipSpace_cons {c : Char} (hc : isSpace c = false) (i : Nat) (r : List Char) :
    skipSpace ⟨i, c :: r⟩ = ⟨i, c :: r⟩ :=
  skipSpace_append (show [].all isSpace = true from rfl) hc i r

theorem Layout.all_break (l : Layout) (depth : Nat) :
    (l.break depth).toList.all isSpace = true := by
  cases l <;> simp [Layout.break, isSpace]

/-! ### Texts -/

theorem unicodeEscape_hex {n : Nat} (hn : n < 32) (i : Nat) {r : List Char} (hr : r ≠ []) :
    unicodeEscape ⟨i, (Text.hex 4 n).toList ++ r⟩ = .ok (Char.ofNat n, ⟨i + 4, r⟩) := by
  have hhex : ∀ n < 32, (Text.hex 4 n).toList.length = 4 ∧
      hex4? (Text.hex 4 n).toList = some n := by
    decide +kernel
  obtain ⟨hlen, hval⟩ := hhex n hn
  have hpos := List.length_pos_iff.mpr hr
  have htake : ((Text.hex 4 n).toList ++ r).take 4 = (Text.hex 4 n).toList :=
    List.take_left' hlen
  have hdrop : ((Text.hex 4 n).toList ++ r).drop 4 = r :=
    List.drop_left' hlen
  unfold unicodeEscape
  rw [if_neg (by simp only [List.length_append]; omega)]
  simp only [htake, hval, Cursor.advance, hdrop]
  rw [if_neg (by simp; omega), if_neg (by simp; omega)]

/-- A character in its written form is read as itself. -/
theorem stringBody_escapeChar (start fuel i : Nat) (acc : List Char) (c : Char) {r : List Char}
    (hr : r ≠ []) :
    ∃ j, stringBody start (fuel + 1) acc ⟨i, (escapeChar c).toList ++ r⟩ =
      stringBody start fuel (c :: acc) ⟨j, r⟩ := by
  unfold escapeChar
  split
  iterate 7 exact ⟨_, rfl⟩
  next hquote hslash _ _ _ _ _ =>
    split
    next hc =>
      refine ⟨i + 2 + 4, ?_⟩
      have h := unicodeEscape_hex hc (i + 2) hr
      rw [Char.ofNat_toNat] at h
      have hmark : "\\u".toList = ['\\', 'u'] := by simp
      rw [String.toList_append, List.append_assoc, hmark]
      have hskip : Cursor.advance ⟨i, '\\' :: 'u' :: ((Text.hex 4 c.toNat).toList ++ r)⟩ 2 =
          ⟨i + 2, (Text.hex 4 c.toNat).toList ++ r⟩ := rfl
      simp only [List.cons_append, List.nil_append, stringBody, hskip, h]
      rfl
    next hc =>
      refine ⟨i + 1, ?_⟩
      have hplain : ¬ c.toNat ≤ 0x1f := by omega
      simp [stringBody, hplain, Cursor.advance]

/-- The characters of a text in their written form. -/
def written (cs : List Char) : List Char := cs.flatMap fun c => (escapeChar c).toList

theorem takes_stringBody (start : Nat) {cs : List Char} {fuel : Nat} (hfuel : cs.length < fuel)
    (acc r : List Char) :
    Takes (stringBody start fuel acc) (written cs ++ ['"'])
      (String.ofList (acc.reverse ++ cs)) r := by
  induction cs generalizing fuel acc with
  | nil =>
    intro i
    obtain ⟨fuel, rfl⟩ := Nat.exists_eq_add_one_of_ne_zero (Nat.ne_of_gt hfuel)
    exact ⟨i + 1, by simp [written, stringBody, Cursor.advance]⟩
  | cons c cs ih =>
    intro i
    obtain ⟨fuel, rfl⟩ := Nat.exists_eq_add_one_of_ne_zero (Nat.ne_of_gt (Nat.zero_lt_of_lt hfuel))
    obtain ⟨j, hj⟩ := stringBody_escapeChar start fuel i acc c
      (r := written cs ++ ['"'] ++ r) (by simp)
    obtain ⟨k, hk⟩ := ih (Nat.lt_of_succ_lt_succ hfuel) (c :: acc) j
    have hwritten : written (c :: cs) ++ ['"'] ++ r =
        (escapeChar c).toList ++ (written cs ++ ['"'] ++ r) := by simp [written]
    have hacc : acc.reverse ++ c :: cs = (c :: acc).reverse ++ cs := by simp
    exact ⟨k, by rw [hwritten, hacc, hj, hk]⟩

theorem toList_quoted (s : String) : (quoted s).toList = '"' :: (written s.toList ++ ['"']) := by
  simp [quoted, written, String.toList_join, List.flatMap_def, Function.comp_def]

/-- Behind the opening quote a written text is read as itself. -/
theorem takes_quoted (s : String) (start : Nat) {fuel : Nat} (hfuel : s.toList.length < fuel)
    (r : List Char) : Takes (stringBody start fuel []) (written s.toList ++ ['"']) s r := by
  have h := takes_stringBody start hfuel [] r
  rwa [List.reverse_nil, List.nil_append, String.ofList_toList] at h

theorem length_le_length_written (cs : List Char) : cs.length ≤ (written cs).length := by
  induction cs with
  | nil => exact Nat.le_refl 0
  | cons c cs ih =>
    have hc : 0 < (escapeChar c).toList.length := by
      unfold escapeChar
      split <;> try decide
      split <;> simp
    simp only [written, List.flatMap_cons, List.length_append, List.length_cons] at ih ⊢
    omega

/-! ### Whole numbers -/

theorem natOfDigits_toDigits (n : Nat) : natOfDigits (Nat.toDigits 10 n) = n := by
  have h := Nat.ofDigitChars_ten_toDigits (n := n)
  rw [Nat.ofDigitChars_eq_foldl] at h
  rw [natOfDigits]
  simpa [Nat.mul_comm] using h

theorem all_toDigits (n : Nat) : ∀ c ∈ Nat.toDigits 10 n, isDigit c = true :=
  fun _ hc => Nat.isDigit_of_mem_toDigits (by decide) (by decide) hc

theorem ne_of_isDigit {c : Char} (hc : isDigit c = true) {ds : List Char}
    (hds : ds.all (fun d => !isDigit d) = true) : ∀ d ∈ ds, c ≠ d := by
  rintro d hd rfl
  have hno := List.all_eq_true.mp hds c hd
  rw [hc] at hno
  cases hno

theorem exists_head_toDigits {n : Nat} (hn : 0 < n) :
    ∃ c cs, Nat.toDigits 10 n = c :: cs ∧ c ≠ '0' := by
  induction n using Nat.strongRecOn with
  | _ n ih =>
    by_cases hlt : n < 10
    · have hdigit : ∀ n < 10, 0 < n → n.digitChar ≠ '0' := by decide
      exact ⟨_, [], Nat.toDigits_of_lt_base hlt, hdigit n hlt hn⟩
    · obtain ⟨c, cs, hcs, hc⟩ := ih (n / 10) (by omega) (by omega)
      refine ⟨c, cs ++ [(n % 10).digitChar], ?_, hc⟩
      rw [Nat.toDigits_of_base_le (by decide) (by omega), hcs, List.cons_append]

/-- What stands here does not carry a number on. -/
def Ends (r : List Char) : Prop :=
  ∀ c ∈ r.head?, isDigit c = false ∧ c ≠ '.' ∧ c ≠ 'e' ∧ c ≠ 'E'

theorem takeWhile_toDigits (n : Nat) {r : List Char} (hr : Ends r) :
    (Nat.toDigits 10 n ++ r).takeWhile isDigit = Nat.toDigits 10 n := by
  rw [List.takeWhile_append_of_pos (all_toDigits n)]
  cases r with
  | nil => simp
  | cons c r => simp [(hr c rfl).1]

theorem fractionPart_of_ends {r : List Char} (hr : Ends r) : fractionPart r = none := by
  cases r with
  | nil => rfl
  | cons c r =>
    unfold fractionPart
    split
    next heq => exact absurd (List.cons.inj heq).1 (hr c rfl).2.1
    next => rfl

theorem powerPart_of_ends {r : List Char} (hr : Ends r) : powerPart r = none := by
  cases r with
  | nil => rfl
  | cons c r => simp [powerPart, hr c rfl]

theorem takes_number_nat {host : Host} (n : Nat)
    (hfits : host.digitsFault? (Nat.toDigits 10 n).length = none) {r : List Char} (hr : Ends r) :
    Takes (number host) (Nat.toDigits 10 n) (.int n) r := by
  intro i
  refine ⟨i + (Nat.toDigits 10 n).length, ?_⟩
  have h := takeWhile_toDigits n hr
  have hval := natOfDigits_toDigits n
  have hfraction := fractionPart_of_ends hr
  have hpower := powerPart_of_ends hr
  unfold number
  rcases Nat.eq_zero_or_pos n with rfl | hn
  · have hone : host.digitsFault? 1 = none := hfits
    simp [hfraction, hpower, numberOf, Cursor.advance, natOfDigits, wholeFault?, within, hone]
  · obtain ⟨c, cs, hcs, hc⟩ := exists_head_toDigits hn
    have hminus : c ≠ '-' :=
      ne_of_isDigit (all_toDigits n c (by simp [hcs]))
        (show ['-'].all (fun d => !isDigit d) = true by decide) '-' List.mem_cons_self
    rw [hcs] at h hval hfits ⊢
    simp only [List.cons_append, List.length_cons] at h hfits ⊢
    simp [hc, hminus, h, hval, hfraction, hpower, numberOf, Cursor.advance, wholeFault?, within,
      hfits]

theorem takes_number_neg {host : Host} {n : Nat} (hn : 0 < n)
    (hfits : host.digitsFault? (Nat.toDigits 10 n).length = none) {r : List Char} (hr : Ends r) :
    Takes (number host) ('-' :: Nat.toDigits 10 n) (.int (-n)) r := by
  intro i
  refine ⟨i + (1 + (Nat.toDigits 10 n).length), ?_⟩
  have h := takeWhile_toDigits n hr
  have hval := natOfDigits_toDigits n
  have hfraction := fractionPart_of_ends hr
  have hpower := powerPart_of_ends hr
  unfold number
  obtain ⟨c, cs, hcs, hc⟩ := exists_head_toDigits hn
  rw [hcs] at h hval hfits ⊢
  simp only [List.cons_append, List.length_cons] at h hfits ⊢
  have hdrop : ('-' :: c :: (cs ++ r)).drop (1 + (cs.length + 1)) = r := by
    rw [Nat.add_comm]
    simp
  simp [hc, h, hval, hfraction, hpower, hdrop, numberOf, Cursor.advance, wholeFault?, within, hfits]

end RouteAtlas.Json
