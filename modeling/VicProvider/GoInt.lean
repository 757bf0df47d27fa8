import Mathlib.Algebra.Group.Int
import Mathlib.Data.Nat.Digits

/-!
# Go's `int64` and `strconv.Atoi`

`GoInt64` is an integer that carries its `int64` range.  Arithmetic is Go's:
every result wraps around in two's complement (`GoInt64.wrap`), `/` truncates
towards zero and `%` takes the sign of the dividend (`Int.tdiv`, `Int.tmod`).
Division by zero panics in Go; the divisors of the program are non-zero
constants, so it does not arise here.

`atoi` is `strconv.Atoi` on a 64-bit platform: an optional sign and one or more
decimal digits whose value fits in 64 bits.  Its errors are `NumError`s with
`Func` `Atoi` and `Num` the whole input; whether an input is a syntax or a range
error depends on which of a non-digit and an overflow the digit loop meets
first.  Every value it returns fits in `int64` (`atoi_range`), and it reads
back every `int64` as Go prints it in decimal (`atoi_toString`).
-/

namespace Vic

/-- A Go `int64`. -/
@[ext] structure GoInt64 where
  val : Int
  min_le : -2^63 ≤ val
  lt_max : val < 2^63

namespace GoInt64

/-- Two `int64`s are equal when their values are. -/
instance : DecidableEq GoInt64 := fun a b =>
  decidable_of_iff (a.val = b.val) ⟨GoInt64.ext, congrArg _⟩

/-- Two's complement wrap-around of an exact result into `int64`. -/
def wrap (x : Int) : GoInt64 := ⟨(x + 2^63) % 2^64 - 2^63, by omega, by omega⟩

/-- A numeric literal, as its wrapped value. -/
instance (n : Nat) : OfNat GoInt64 n := ⟨wrap n⟩
/-- `+` wraps around. -/
instance : Add GoInt64 := ⟨fun a b => wrap (a.val + b.val)⟩
/-- `-` wraps around. -/
instance : Sub GoInt64 := ⟨fun a b => wrap (a.val - b.val)⟩
/-- `/` truncates towards zero, and wraps around. -/
instance : Div GoInt64 := ⟨fun a b => wrap (a.val.tdiv b.val)⟩
/-- `%` takes the sign of the dividend. -/
instance : Mod GoInt64 := ⟨fun a b => wrap (a.val.tmod b.val)⟩
/-- `<` compares the values. -/
instance : LT GoInt64 := ⟨fun a b => a.val < b.val⟩
/-- `<` is decided on the values. -/
instance (a b : GoInt64) : Decidable (a < b) := inferInstanceAs (Decidable (a.val < b.val))

/-- Wrapping a value in range changes nothing. -/
theorem val_wrap {x : Int} (h₁ : -2^63 ≤ x) (h₂ : x < 2^63) : (wrap x).val = x := by
  simp only [wrap]
  omega

/-- A sum is the wrapped exact sum. -/
@[simp] theorem val_add (a b : GoInt64) : (a + b).val = (wrap (a.val + b.val)).val := rfl
/-- A difference is the wrapped exact difference. -/
@[simp] theorem val_sub (a b : GoInt64) : (a - b).val = (wrap (a.val - b.val)).val := rfl
/-- A quotient is the wrapped truncated quotient. -/
@[simp] theorem val_div (a b : GoInt64) : (a / b).val = (wrap (a.val.tdiv b.val)).val := rfl
/-- A remainder is the wrapped truncated remainder. -/
@[simp] theorem val_mod (a b : GoInt64) : (a % b).val = (wrap (a.val.tmod b.val)).val := rfl
/-- The literal `0` is zero. -/
@[simp] theorem val_zero : (0 : GoInt64).val = 0 := rfl
/-- `<` on `int64` is `<` on the values. -/
theorem lt_iff (a b : GoInt64) : a < b ↔ a.val < b.val := Iff.rfl
/-- Two `int64`s are equal exactly when their values are. -/
theorem eq_iff (a b : GoInt64) : a = b ↔ a.val = b.val := ⟨congrArg _, GoInt64.ext⟩

end GoInt64

/-- `strconv.ErrSyntax` and `strconv.ErrRange`. -/
inductive NumErr
  | errSyntax
  | errRange
  deriving DecidableEq, Repr

/-- `strconv.NumError`. -/
structure NumError where
  func : String
  num : String
  err : NumErr
  deriving DecidableEq, Repr

/-- The digit loop of `strconv.ParseUint(s, 10, 64)` from the accumulated value
`n`: a non-digit is a syntax error and a value past `2^64 - 1` a range error,
whichever comes first. -/
def parseUintDigits : List Char → Nat → Except NumErr Nat
  | [], n => .ok n
  | c :: cs, n =>
    if '0' ≤ c ∧ c ≤ '9' then
      if n * 10 + (c.toNat - '0'.toNat) > 2^64 - 1 then .error .errRange
      else parseUintDigits cs (n * 10 + (c.toNat - '0'.toNat))
    else .error .errSyntax

/-- `strconv.Atoi` (through `ParseInt(s, 10, 0)`): the sign is picked off, the
digits are read by `parseUintDigits`, and the magnitude is checked against the
`int64` range. -/
def atoi (s : String) : Except NumError Int :=
  let fail := fun e => Except.error (NumError.mk "Atoi" s e)
  match s.toList with
  | [] => fail .errSyntax
  | c :: cs =>
    let (neg, digits) := if c = '-' then (true, cs) else if c = '+' then (false, cs)
      else (false, c :: cs)
    if digits = [] then fail .errSyntax else
    match parseUintDigits digits 0 with
    | .error e => fail e
    | .ok un =>
      if !neg ∧ un ≥ 2^63 then fail .errRange
      else if neg ∧ un > 2^63 then fail .errRange
      else .ok (if neg then -(un : Int) else un)

/-- `Atoi` returns only values of `int64`, so converting its result to `int64`
loses nothing. -/
theorem atoi_range {s : String} {n : Int} (h : atoi s = .ok n) : -2^63 ≤ n ∧ n < 2^63 := by
  unfold atoi at h
  split at h
  · cases h
  · split at h
    rename_i neg digits _
    simp only at h
    split at h
    · cases h
    · split at h
      · cases h
      · rename_i un _
        split at h
        · cases h
        · split at h
          · cases h
          · injection h with h
            subst h
            rename_i hpos hneg
            cases neg <;> simp at hpos hneg ⊢ <;> omega

/-! ### Decimal numerals

`toString` on `Int` is the decimal text Go's `strconv.Itoa` prints: a `-` for a
negative value, then the digits of `Nat.toDigitsCore`. -/

/-- A digit below ten prints as a decimal digit. -/
theorem digitChar_digit : ∀ d, d < 10 →
    '0' ≤ Nat.digitChar d ∧ Nat.digitChar d ≤ '9' ∧ (Nat.digitChar d).toNat - '0'.toNat = d := by
  decide

/-- `Nat.toDigitsCore` pushes its digits onto the front of the list it is given. -/
theorem toDigitsCore_append (f n : Nat) (ds : List Char) :
    Nat.toDigitsCore 10 f n ds = Nat.toDigitsCore 10 f n [] ++ ds := by
  induction f generalizing n ds with
  | zero => rfl
  | succ f ih =>
    simp only [Nat.toDigitsCore]
    split
    · rfl
    · rw [ih, ih _ [_], List.append_assoc]
      rfl

/-- A decimal numeral is made of digits. -/
theorem mem_toDigitsCore {f n : Nat} {c : Char} (hc : c ∈ Nat.toDigitsCore 10 f n []) :
    '0' ≤ c ∧ c ≤ '9' := by
  induction f generalizing n with
  | zero => cases hc
  | succ f ih =>
    obtain ⟨hlo, hhi, -⟩ := digitChar_digit (n % 10) (Nat.mod_lt _ (by omega))
    simp only [Nat.toDigitsCore] at hc
    split at hc
    · rw [List.mem_singleton.mp hc]; exact ⟨hlo, hhi⟩
    · rw [toDigitsCore_append, List.mem_append, List.mem_singleton] at hc
      rcases hc with hc | rfl
      exacts [ih hc, ⟨hlo, hhi⟩]

/-- The digit loop runs over a numeral with enough fuel to print it, and goes on
from its value, unless that value is past `2^64 - 1`. -/
theorem parseUintDigits_toDigitsCore {f m : Nat} (hm : m < f) (rest : List Char) :
    parseUintDigits (Nat.toDigitsCore 10 f m [] ++ rest) 0 =
      if m ≤ 2^64 - 1 then parseUintDigits rest m else .error .errRange := by
  induction f generalizing m rest with
  | zero => omega
  | succ f ih =>
    obtain ⟨hlo, hhi, hval⟩ := digitChar_digit (m % 10) (Nat.mod_lt _ (by omega))
    simp only [Nat.toDigitsCore]
    split
    · rename_i h0
      simp only [List.singleton_append, parseUintDigits, hlo, hhi, and_self, if_true, hval,
        Nat.zero_mul, Nat.zero_add]
      rw [Nat.mod_eq_of_lt (by omega), if_neg (by omega), if_pos (by omega)]
      rfl
    · rw [toDigitsCore_append, List.append_assoc, List.singleton_append, ih (by omega)]
      simp only [parseUintDigits, hlo, hhi, and_self, if_true, hval, Nat.div_add_mod' m 10]
      split_ifs <;> first | rfl | omega

/-- `Atoi` on a text that starts with a digit. -/
theorem atoi_of_digit {s : String} {c : Char} {cs : List Char} (hs : s.toList = c :: cs)
    (hc : '0' ≤ c ∧ c ≤ '9') :
    atoi s = match parseUintDigits (c :: cs) 0 with
      | .error e => .error ⟨"Atoi", s, e⟩
      | .ok un => if un ≥ 2^63 then .error ⟨"Atoi", s, .errRange⟩ else .ok un := by
  have hminus : c ≠ '-' := by rintro rfl; revert hc; decide
  have hplus : c ≠ '+' := by rintro rfl; revert hc; decide
  simp only [atoi, hs, if_neg hminus, if_neg hplus, reduceCtorEq, if_false, Bool.not_false,
    true_and, false_and]

/-- `Atoi` on a text that starts with `-` and has more after it. -/
theorem atoi_of_minus {s : String} {cs : List Char} (hs : s.toList = '-' :: cs) (hcs : cs ≠ []) :
    atoi s = match parseUintDigits cs 0 with
      | .error e => .error ⟨"Atoi", s, e⟩
      | .ok un => if un > 2^63 then .error ⟨"Atoi", s, .errRange⟩ else .ok (-(un : Int)) := by
  simp only [atoi, hs, if_pos, if_neg hcs, Bool.not_true, Bool.false_eq_true, false_and, if_false,
    true_and]

/-- Go prints a non-negative value as its digits. -/
theorem toString_ofNat_toList (m : Nat) :
    (toString (Int.ofNat m)).toList = Nat.toDigitsCore 10 (m + 1) m [] := rfl

/-- Go prints a negative value as `-` and the digits of its magnitude. -/
theorem toString_negSucc_toList (m : Nat) :
    (toString (Int.negSucc m)).toList = '-' :: Nat.toDigitsCore 10 (m + 2) (m + 1) [] := rfl

/-- A numeral printed with some fuel has a digit. -/
theorem toDigitsCore_ne_nil (f n : Nat) : Nat.toDigitsCore 10 (f + 1) n [] ≠ [] := by
  simp only [Nat.toDigitsCore]
  split
  · exact List.cons_ne_nil _ _
  · rw [toDigitsCore_append]
    simp

/-- The digit loop reads back the decimal text of every value it can hold. -/
theorem parseUintDigits_toDigits {m : Nat} (hm : m ≤ 2^64 - 1) :
    parseUintDigits (Nat.toDigitsCore 10 (m + 1) m []) 0 = .ok m := by
  rw [← List.append_nil (Nat.toDigitsCore 10 (m + 1) m []),
    parseUintDigits_toDigitsCore (Nat.lt_succ_self m), if_pos hm]
  rfl

/-- **`Atoi` reads back every `int64` as Go prints it.** -/
theorem atoi_toString {n : Int} (h₁ : -2^63 ≤ n) (h₂ : n < 2^63) : atoi (toString n) = .ok n := by
  cases n with
  | ofNat m =>
    simp only [Int.ofNat_eq_coe] at h₁ h₂
    obtain ⟨c, cs, hD⟩ := List.exists_cons_of_ne_nil (toDigitsCore_ne_nil m m)
    have hmem : c ∈ Nat.toDigitsCore 10 (m + 1) m [] := by rw [hD]; exact List.mem_cons_self c cs
    rw [atoi_of_digit ((toString_ofNat_toList m).trans hD) (mem_toDigitsCore hmem), ← hD, parseUintDigits_toDigits (by omega)]
    simp only [ge_iff_le, if_neg (show ¬ 2^63 ≤ m by omega)]
    rfl
  | negSucc m =>
    rw [Int.negSucc_eq] at h₁
    rw [atoi_of_minus (toString_negSucc_toList m) (toDigitsCore_ne_nil _ _), parseUintDigits_toDigits (by omega)]
    simp only [gt_iff_lt, if_neg (show ¬ 2^63 < m + 1 by omega), Int.negSucc_eq]
    push_cast
    rfl

end Vic
