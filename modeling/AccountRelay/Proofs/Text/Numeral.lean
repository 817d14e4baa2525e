import AccountRelay.Text.Numeral
import AccountRelay.Proofs.Text.Order
/-!
# Numerals and their numbers

The numeral that a number is written as denotes that number. A numeral denotes no number if one of
its digits has no place value.
-/

namespace AccountRelay.Text

theorem digitValue?_digit (n : Nat) : digitValue? (digit n) = some (n % 10) := by
  have code : (Char.ofNat (48 + n % 10)).toNat = 48 + n % 10 := rank_digit n
  have first : zeros.find? (fun first => first ≤ 48 + n % 10 && 48 + n % 10 < first + 10) =
      some 0x30 := by
    rw [zeros, List.find?_cons_of_pos]
    simp only [Bool.and_eq_true, decide_eq_true_eq]
    omega
  simp only [digit, digitValue?, code, first, Option.map_some]
  congr 1
  omega

theorem isDigit_digit (n : Nat) : isDigit (digit n) = true := by
  rw [isDigit, digitValue?_digit]
  rfl

theorem isNumeral_twoDigits (n : Nat) : isNumeral (twoDigits n) = true := by
  simp [isNumeral, twoDigits, isDigit_digit]

theorem number?_twoDigits {n : Nat} (h : n < 100) : number? (twoDigits n) = some n := by
  simp only [number?, twoDigits, numberFrom, digitValue?_digit, Option.bind_some]
  congr 1
  omega

theorem numberFrom_append (value : Nat) (s t : Text) :
    numberFrom value (s ++ t) = (numberFrom value s).bind fun v => numberFrom v t := by
  induction s generalizing value with
  | nil => rfl
  | cons c rest ih =>
    rw [List.cons_append, numberFrom, numberFrom]
    cases digitValue? c with
    | none => rfl
    | some d => exact ih _

theorem number?_decimal (n : Nat) : number? (decimal n) = some n := by
  rw [number?]
  fun_induction decimal n with
  | case1 n small =>
    rw [numberFrom, digitValue?_digit, Option.bind_some, numberFrom]
    congr 1
    omega
  | case2 n large ih =>
    rw [numberFrom_append, ih, Option.bind_some, numberFrom, digitValue?_digit, Option.bind_some,
      numberFrom]
    congr 1
    omega

theorem decimal_injective {m n : Nat} (h : decimal m = decimal n) : m = n := by
  have numbers := congrArg number? h
  rw [number?_decimal, number?_decimal] at numbers
  exact Option.some.inj numbers

/-! ## Digits without a number -/

/-- These are digits, and one of them has no place value. -/
structure Valueless (t : Text) : Prop where
  digits : ∀ c ∈ t, isDigit c = true
  sign : ∃ c ∈ t, digitValue? c = none

theorem numberFrom_eq_none_iff (value : Nat) (t : Text) :
    numberFrom value t = none ↔ ∃ c ∈ t, digitValue? c = none := by
  induction t generalizing value with
  | nil => simp [numberFrom]
  | cons c rest ih =>
    rw [numberFrom]
    cases here : digitValue? c with
    | none => simp [here]
    | some d => simp [here, ih]

theorem valueless_iff (t : Text) : t.Valueless ↔ t.isNumeral = true ∧ t.number? = none := by
  rw [number?, numberFrom_eq_none_iff]
  constructor
  · rintro ⟨digits, c, inside, sign⟩
    refine ⟨?_, c, inside, sign⟩
    simpa [isNumeral, List.ne_nil_of_mem inside] using digits
  · rintro ⟨numeral, sign⟩
    rw [isNumeral, Bool.and_eq_true, List.all_eq_true] at numeral
    exact ⟨numeral.2, sign⟩

end AccountRelay.Text
