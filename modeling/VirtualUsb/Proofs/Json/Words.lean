import Mathlib.Data.List.TakeWhile
import Mathlib.Tactic.IntervalCases
import VirtualUsb.Json.Printer
import VirtualUsb.Json.Token

/-!
# The words of a JSON text

A text is read back from its UTF-16 units (`Utf16.decode_encode`), and so a string is read back from
its spelling with quotes and escapes (`Token.next_quote`) and a natural number from its digits
(`Token.next_natural`), whatever comes behind them.
-/

namespace VirtualUsb

/-! ## UTF-16 -/

namespace Utf16

theorem toNat_char (c : Char) : c.toNat < 0xD800 ∨ 0xDFFF < c.toNat ∧ c.toNat < 0x110000 := c.valid

theorem decode_single {u : UInt16} (hhigh : isHigh u = false) (hlow : isLow u = false)
    (us : List UInt16) : decode (u :: us) = (decode us).map (Char.ofNat u.toNat :: ·) := by
  rw [decode.eq_def]
  dsimp only
  rw [hhigh, hlow]
  rfl

theorem decode_pair {u v : UInt16} (hhigh : isHigh u = true) (hlow : isLow v = true)
    (us : List UInt16) : decode (u :: v :: us) = (decode us).map (pair u v :: ·) := by
  rw [decode.eq_def]
  dsimp only
  rw [hhigh, hlow]
  rfl

theorem isHigh_iff {u : UInt16} : isHigh u = true ↔ 0xD800 ≤ u.toNat ∧ u.toNat < 0xDC00 := by
  unfold isHigh
  rw [Bool.and_eq_true, decide_eq_true_eq, decide_eq_true_eq, UInt16.le_iff_toNat_le,
    UInt16.lt_iff_toNat_lt]
  rfl

theorem isLow_iff {u : UInt16} : isLow u = true ↔ 0xDC00 ≤ u.toNat ∧ u.toNat < 0xE000 := by
  unfold isLow
  rw [Bool.and_eq_true, decide_eq_true_eq, decide_eq_true_eq, UInt16.le_iff_toNat_le,
    UInt16.lt_iff_toNat_lt]
  rfl

/-- A character is read back from its units: one that is no surrogate, or a pair of them. -/
theorem decode_units (c : Char) (us : List UInt16) :
    decode (units c ++ us) = (decode us).map (c :: ·) := by
  have hc := toNat_char c
  unfold units
  split
  · rename_i h
    have hu : (UInt16.ofNat c.toNat).toNat = c.toNat := UInt16.toNat_ofNat_of_lt' h
    have hhigh : isHigh (UInt16.ofNat c.toNat) = false := by
      rw [Bool.eq_false_iff, Ne, isHigh_iff, hu]
      omega
    have hlow : isLow (UInt16.ofNat c.toNat) = false := by
      rw [Bool.eq_false_iff, Ne, isLow_iff, hu]
      omega
    rw [List.singleton_append, decode_single hhigh hlow, hu, Char.ofNat_toNat]
  · rename_i h
    have hrest : (c.toNat - 0x10000) / 0x400 < 0x400 := by omega
    have hhi : (UInt16.ofNat (0xD800 + (c.toNat - 0x10000) / 0x400)).toNat =
        0xD800 + (c.toNat - 0x10000) / 0x400 :=
      UInt16.toNat_ofNat_of_lt' (Nat.lt_trans (Nat.add_lt_add_left hrest _) (by decide))
    have hlo : (UInt16.ofNat (0xDC00 + (c.toNat - 0x10000) % 0x400)).toNat =
        0xDC00 + (c.toNat - 0x10000) % 0x400 :=
      UInt16.toNat_ofNat_of_lt' (Nat.lt_trans
        (Nat.add_lt_add_left (Nat.mod_lt _ (by decide)) _) (by decide))
    generalize UInt16.ofNat (0xD800 + (c.toNat - 0x10000) / 0x400) = high at hhi ⊢
    generalize UInt16.ofNat (0xDC00 + (c.toNat - 0x10000) % 0x400) = low at hlo ⊢
    have hhigh : isHigh high = true := isHigh_iff.2 (by omega)
    have hlow : isLow low = true := isLow_iff.2 (by omega)
    have hpair : pair high low = c := by
      have hvalue : 0x10000 + (high.toNat - 0xD800) * 0x400 + (low.toNat - 0xDC00) = c.toNat := by
        omega
      unfold pair
      rw [hvalue, Char.ofNat_toNat]
    rw [List.cons_append, List.singleton_append, decode_pair hhigh hlow, hpair]

theorem decode_encode (text : List Char) : decode (encode text) = some text := by
  induction text with
  | nil => rfl
  | cons c text ih =>
    unfold encode at ih ⊢
    rw [List.flatMap_cons, decode_units, ih]
    rfl

end Utf16

/-! ## Strings -/

namespace Token

open Json (escape quote)

theorem hexUnit_padded {n : Nat} (h : n < 0x20) :
    ∃ a b c d, (Hex.padded 4 n).toList = [a, b, c, d] ∧
      hexUnit a b c d = some (UInt16.ofNat n) := by
  interval_cases n <;> exact ⟨_, _, _, _, rfl, rfl⟩

/-- A letter behind a backslash is read back as the character that has it. -/
theorem stringBody_letter {c letter : Char} (h : Json.letters.lookup c = some letter)
    (us : List UInt16) (rest : List Char) :
    stringBody us ('\\' :: letter :: rest) = stringBody ((Utf16.units c).reverse ++ us) rest := by
  have hall : ∀ p ∈ Json.letters, stringBody us ('\\' :: p.2 :: rest) =
      stringBody ((Utf16.units p.1).reverse ++ us) rest := by
    simp only [Json.letters, List.forall_mem_cons]
    exact ⟨rfl, rfl, rfl, rfl, rfl, rfl, rfl, nofun⟩
  obtain ⟨l, _, hletters⟩ := List.lookup_eq_some_iff.1 h
  exact hall (c, letter) (by simp [hletters])

theorem stringBody_escape (us : List UInt16) (c : Char) (rest : List Char) :
    stringBody us ((escape c).toList ++ rest) =
      stringBody ((Utf16.units c).reverse ++ us) rest := by
  unfold escape
  split
  · rename_i letter h
    rw [String.toList_append, show letter.toString.toList = [letter] from
      String.toList_singleton letter]
    exact stringBody_letter h us rest
  · rename_i hletter
    split
    · rename_i h
      obtain ⟨a, b, d, e, hdigits, hunit⟩ := hexUnit_padded h
      have hunits : Utf16.units c = [UInt16.ofNat c.toNat] := if_pos (Nat.lt_trans h (by decide))
      rw [String.toList_append, hdigits, hunits]
      show stringBody us ('\\' :: 'u' :: a :: b :: d :: e :: rest) = _
      simp [stringBody, hunit]
    · rename_i hcontrol
      have hquote : c ≠ '"' := by
        rintro rfl
        exact nomatch hletter
      have hback : c ≠ '\\' := by
        rintro rfl
        exact nomatch hletter
      have hone : c.toString.toList = [c] := String.toList_singleton c
      rw [hone]
      show stringBody us (c :: rest) = _
      rw [stringBody]
      · exact if_neg hcontrol
      all_goals simp_all

theorem stringBody_text (us : List UInt16) (text rest : List Char) :
    stringBody us (text.flatMap (fun c => (escape c).toList) ++ '"' :: rest) =
      some (us.reverse ++ Utf16.encode text, rest) := by
  induction text generalizing us with
  | nil => exact congrArg (fun l => some (l, rest)) (List.append_nil _).symm
  | cons c text ih =>
    rw [List.flatMap_cons, List.append_assoc, stringBody_escape, ih]
    unfold Utf16.encode
    rw [List.flatMap_cons, List.reverse_append, List.reverse_reverse, List.append_assoc]

theorem toList_quote (s : String) :
    (quote s).toList = '"' :: (s.toList.flatMap (fun c => (escape c).toList) ++ ['"']) := by
  have hfold (out : String) (l : List Char) : (l.foldl (fun out c => out ++ escape c) out).toList =
      out.toList ++ l.flatMap fun c => (escape c).toList := by
    induction l generalizing out with
    | nil => exact (List.append_nil _).symm
    | cons c l ih =>
      rw [List.foldl_cons, ih, String.toList_append, List.flatMap_cons, List.append_assoc]
  unfold quote
  rw [String.foldl_eq_foldl_toList, String.toList_append, hfold]
  rfl

theorem next_quote (s : String) (rest : List Char) :
    next ((quote s).toList ++ rest) = some (some (string (some s)), rest) := by
  rw [toList_quote, List.cons_append, List.append_assoc]
  show ((stringBody [] _).bind fun body =>
    some (some (string ((Utf16.decode body.1).map String.ofList)), body.2)) = _
  rw [List.singleton_append, stringBody_text]
  show some (some (string ((Utf16.decode (Utf16.encode s.toList)).map String.ofList)), rest) = _
  rw [Utf16.decode_encode, Option.map_some, String.ofList_toList]

/-! ## Numbers -/

/-- Whether no number goes on in some characters. -/
def Stops (rest : List Char) : Prop := ∀ c ∈ rest.head?, isNumeric c = false

/-- No number but zero begins with a zero. -/
theorem toDigits_cases (n : Nat) :
    Nat.toDigits 10 n = ['0'] ∨ ∃ c cs, Nat.toDigits 10 n = c :: cs ∧ c ≠ '0' := by
  induction n using Nat.strong_induction_on with
  | _ n ih =>
    rw [Nat.toDigits_eq_if (by decide)]
    split
    · rename_i h
      interval_cases n
      · exact .inl rfl
      all_goals exact .inr ⟨_, _, rfl, by decide⟩
    · rename_i h
      rcases ih (n / 10) (by omega) with hzero | ⟨c, cs, hcs, hc⟩
      · have hn : Nat.ofDigitChars 10 (Nat.toDigits 10 (n / 10)) 0 = 0 := by
          rw [hzero]
          rfl
        rw [Nat.ofDigitChars_ten_toDigits] at hn
        omega
      · exact .inr ⟨c, _, congrArg (· ++ _) hcs, hc⟩

theorem isDigit_toDigits {n : Nat} {c : Char} (hc : c ∈ Nat.toDigits 10 n) : c.isDigit = true :=
  Nat.isDigit_of_mem_toDigits (by decide) (by decide) hc

theorem isUnsigned_toDigits (n : Nat) : isUnsigned (Nat.toDigits 10 n) = true := by
  have hwhole : afterWhole (Nat.toDigits 10 n) = some [] := by
    rcases toDigits_cases n with hzero | ⟨c, cs, hcs, hc⟩
    · rw [hzero]
      rfl
    · have hdigits (d : Char) (hd : d ∈ c :: cs) : d.isDigit = true := by
        rw [← hcs] at hd
        exact isDigit_toDigits hd
      obtain ⟨hfirst, hrest⟩ := List.forall_mem_cons.1 hdigits
      rw [hcs, afterWhole]
      · rw [afterDigits, if_pos hfirst, List.dropWhile_eq_nil_iff.2 hrest]
      · simpa using hc
  unfold isUnsigned
  rw [hwhole]
  rfl

theorem digitsValue_toDigits (n : Nat) : digitsValue (Nat.toDigits 10 n) = n := by
  unfold digitsValue
  simp only [Nat.mul_comm _ 10]
  rw [← Nat.ofDigitChars_eq_foldl, Nat.ofDigitChars_ten_toDigits]

theorem numeral_toDigits (n : Nat) : numeral (Nat.toDigits 10 n) = some (.natural n) := by
  have hall : (Nat.toDigits 10 n).all Char.isDigit = true :=
    List.all_eq_true.2 fun _ hc => isDigit_toDigits hc
  unfold numeral
  split
  · rename_i rest h
    have hminus : '-'.isDigit = true := isDigit_toDigits (h ▸ List.mem_cons_self)
    exact nomatch hminus
  · rw [isUnsigned_toDigits, if_pos rfl, hall, if_pos rfl, digitsValue_toDigits]

theorem next_of_isDigit {c : Char} (hc : c.isDigit = true) (rest : List Char) :
    next (c :: rest) = (numeral (c :: rest.takeWhile isNumeric)).map fun n =>
      (some (scalar (.number n)), rest.dropWhile isNumeric) := by
  rw [next]
  · cases numeral (c :: rest.takeWhile isNumeric) <;> rfl
  all_goals
    intros
    subst_vars
    exact nomatch hc

/-- A natural number is read back from its digits, if these go no further. -/
theorem next_natural (n : Nat) {rest : List Char} (hrest : Stops rest) :
    next ((toString n).toList ++ rest) = some (some (scalar (.ofNat n)), rest) := by
  rw [Nat.toString_eq_ofList_toDigits, String.toList_ofList]
  have hnumeral := numeral_toDigits n
  have hdigits (d : Char) (hd : d ∈ Nat.toDigits 10 n) : d.isDigit = true := isDigit_toDigits hd
  generalize Nat.toDigits 10 n = cs at hnumeral hdigits
  cases cs with
  | nil => exact nomatch hnumeral
  | cons c cs =>
    obtain ⟨hc, hcs⟩ := List.forall_mem_cons.1 hdigits
    have hnumeric (d : Char) (hd : d ∈ cs) : isNumeric d = true := by
      unfold isNumeric
      rw [hcs d hd, Bool.true_or]
    have htake : rest.takeWhile isNumeric = [] := by
      cases rest with
      | nil => rfl
      | cons d rest => exact List.takeWhile_cons_of_neg (by simp [hrest d rfl])
    have hdrop : rest.dropWhile isNumeric = rest := by
      cases rest with
      | nil => rfl
      | cons d rest => exact List.dropWhile_cons_of_neg (by simp [hrest d rfl])
    rw [List.cons_append, next_of_isDigit hc, List.takeWhile_append_of_pos hnumeric, htake,
      List.append_nil, hnumeral, List.dropWhile_append_of_pos hnumeric, hdrop]
    rfl

end Token

end VirtualUsb
