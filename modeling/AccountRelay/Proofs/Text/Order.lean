import Mathlib.Algebra.Ring.Nat
import Mathlib.Data.List.Sort
import AccountRelay.Text
/-!
# The order of texts

Texts are listed in the order of their ranks. Ranks tell symbols apart, so the order is total and
two texts that are not before one another are equal. A text of digits of a fixed width comes before
another one exactly when its number is smaller, which is why names with a date, a time and a sequence
number of fixed widths are listed in the order of their creation.
-/

namespace AccountRelay

theorem Symbol.rank_injective {a b : Symbol} (h : a.rank = b.rank) : a = b := by
  -- Characters are never surrogates, and a stray byte ranks among those.
  have apart (c : Char) (low : Fin 128) : c.toNat ≠ 0xDC80 + low.val := by
    have valid := c.valid
    simp only [UInt32.isValidChar, Nat.isValidChar] at valid
    change c.val.toNat ≠ _
    omega
  cases a with
  | char c =>
    cases b with
    | char d => exact congrArg Symbol.char (Char.toNat_inj.1 h)
    | byte low => exact absurd h (apart c low)
  | byte low =>
    cases b with
    | char d => exact absurd h.symm (apart d low)
    | byte high =>
      simp only [Symbol.rank] at h
      exact congrArg Symbol.byte (Fin.ext (by omega))

namespace Text

theorem ranks_injective {s t : Text} (h : s.ranks = t.ranks) : s = t :=
  List.map_injective_iff.2 (fun _ _ => Symbol.rank_injective) h

/-- `s` is listed before `t`. -/
def Before (s t : Text) : Prop := List.Lex (fun a b => a < b) s.ranks t.ranks

theorem Before.irrefl (s : Text) : ¬ Before s s := List.lt_irrefl _

theorem Before.trans {s t u : Text} (h : Before s t) (h' : Before t u) : Before s u :=
  List.lt_trans h h'

theorem Before.asymm {s t : Text} (h : Before s t) : ¬ Before t s := fun h' =>
  Before.irrefl s (h.trans h')

theorem Before.ne {s t : Text} (h : Before s t) : s ≠ t := by
  rintro rfl
  exact Before.irrefl s h

theorem le_iff_not_before (s t : Text) : le s t = true ↔ ¬ Before t s := by
  simp only [le, Bool.not_eq_true', List.lex_eq_false_iff_not_lex, decide_eq_true_eq, Before]

theorem eq_or_before_or_before (s t : Text) : s = t ∨ Before s t ∨ Before t s := by
  by_cases h : Before s t
  · exact Or.inr (Or.inl h)
  · by_cases h' : Before t s
    · exact Or.inr (Or.inr h')
    · exact Or.inl (ranks_injective (List.le_antisymm h' h))

theorem le_trans (s t u : Text) (h : le s t = true) (h' : le t u = true) : le s u = true := by
  rw [le_iff_not_before] at *
  intro back
  obtain rfl | before | before := eq_or_before_or_before s t
  · exact h' back
  · exact h' (back.trans before)
  · exact h before

theorem le_total (s t : Text) : (le s t || le t s) = true := by
  rw [Bool.or_eq_true, le_iff_not_before, le_iff_not_before]
  by_cases h : Before t s
  · exact Or.inr h.asymm
  · exact Or.inl h

instance (s t : Text) : Decidable (Before s t) :=
  decidable_of_iff (¬ le t s = true) (by rw [le_iff_not_before, not_not])

instance : Std.Irrefl Before := ⟨Before.irrefl⟩

instance : Std.Asymm Before := ⟨fun _ _ h => h.asymm⟩

instance : Std.Total fun s t => le s t = true := ⟨fun s t => by
  have := le_total s t
  rwa [Bool.or_eq_true] at this⟩

instance : IsTrans Text fun s t => le s t = true := ⟨le_trans⟩

theorem sort_eq (names : List Text) :
    sort names = names.insertionSort fun s t => le s t = true := by
  have placed (t : Text) (rest : List Text) :
      place t rest = rest.orderedInsert (fun s t => le s t = true) t := by
    induction rest with
    | nil => rfl
    | cons s rest ih => rw [place, List.orderedInsert, ih]
  induction names with
  | nil => rfl
  | cons t rest ih => rw [sort, placed, ih, List.insertionSort_cons]

theorem sort_perm (names : List Text) : (sort names).Perm names := by
  rw [sort_eq]
  exact List.perm_insertionSort _ names

theorem pairwise_sort (names : List Text) : (sort names).Pairwise fun s t => le s t = true := by
  rw [sort_eq]
  exact List.pairwise_insertionSort _ names

/-! ## Texts with common parts -/

theorem before_append_left_iff (stem s t : Text) : Before (stem ++ s) (stem ++ t) ↔ Before s t := by
  induction stem with
  | nil => exact Iff.rfl
  | cons c rest ih =>
    rw [Before, List.cons_append, List.cons_append, ranks_cons, ranks_cons, List.cons_lex_cons_iff]
    simp only [Nat.lt_irrefl, false_or, true_and]
    exact ih

/-- Of two texts with beginnings of one length, the beginnings decide, if they differ. -/
theorem Before.append {s t : Text} (h : Before s t) (same : s.length = t.length) (a b : Text) :
    Before (s ++ a) (t ++ b) := by
  induction s generalizing t with
  | nil =>
    obtain rfl : t = [] := List.length_eq_zero_iff.1 same.symm
    exact absurd h (Before.irrefl _)
  | cons c rest ih =>
    obtain ⟨d, others, rfl⟩ := List.exists_cons_of_length_eq_add_one same.symm
    simp only [Before, List.cons_append, ranks_cons, List.cons_lex_cons_iff] at h ⊢
    obtain lower | ⟨equal, later⟩ := h
    · exact Or.inl lower
    · exact Or.inr ⟨equal, ih later (by simpa using same)⟩

/-! ## Digits -/

theorem rank_digit (n : Nat) : (digit n).rank = 48 + n % 10 := by
  have small : (48 + n % 10).isValidChar := Or.inl (by omega)
  change (Char.ofNat (48 + n % 10)).toNat = _
  rw [Char.ofNat, dif_pos small]
  rfl

theorem digit_eq_iff (m n : Nat) : digit m = digit n ↔ m % 10 = n % 10 := by
  constructor
  · intro h
    have ranks := congrArg Symbol.rank h
    rw [rank_digit, rank_digit] at ranks
    omega
  · intro h
    simp only [digit, h]

def digits : Nat → Nat → Text
  | 0, _ => []
  | width + 1, n => digits width (n / 10) ++ [digit n]

@[simp] theorem length_digits (width n : Nat) : (digits width n).length = width := by
  induction width generalizing n with
  | zero => rfl
  | succ width ih => simp [digits, ih]

theorem twoDigits_eq_digits (n : Nat) : twoDigits n = digits 2 n := rfl

theorem decimal_eq_digits {n : Nat} (low : 1000 ≤ n) (high : n ≤ 9999) :
    decimal n = digits 4 n := by
  have thousands : decimal (n / 10 / 10 / 10) = [digit (n / 10 / 10 / 10)] := by
    rw [decimal, if_pos (by omega)]
  rw [decimal, if_neg (by omega), decimal, if_neg (by omega), decimal, if_neg (by omega), thousands]
  rfl

/-- Numerals side by side are the numeral of one number. -/
theorem digits_append (width more m n : Nat) (h : n < 10 ^ more) :
    digits width m ++ digits more n = digits (width + more) (m * 10 ^ more + n) := by
  induction more generalizing n with
  | zero =>
    obtain rfl : n = 0 := by simpa using h
    simp [digits]
  | succ more ih =>
    have tens : (m * 10 ^ (more + 1) + n) / 10 = m * 10 ^ more + n / 10 := by
      rw [Nat.pow_succ, ← Nat.mul_assoc, Nat.add_comm, Nat.add_mul_div_right _ _ (by decide)]
      exact Nat.add_comm _ _
    have ones : digit (m * 10 ^ (more + 1) + n) = digit n := by
      rw [digit_eq_iff, Nat.pow_succ, ← Nat.mul_assoc, Nat.add_comm, Nat.add_mul_mod_self_right]
    have room : n / 10 < 10 ^ more := by
      rw [Nat.div_lt_iff_lt_mul (by decide), ← Nat.pow_succ]
      exact h
    change digits width m ++ (digits more (n / 10) ++ [digit n]) = digits (width + more) _ ++ [_]
    rw [← List.append_assoc, ih (n / 10) room, tens, ones]

theorem mem_decimal {n : Nat} {c : Symbol} (h : c ∈ decimal n) : ∃ m, c = digit m := by
  fun_induction decimal n with
  | case1 n small => exact ⟨n, by simpa using h⟩
  | case2 n large ih =>
    obtain before | last := List.mem_append.1 h
    · exact ih before
    · exact ⟨n, by simpa using last⟩

theorem digits_before {width m n : Nat} (h : m < n) (high : n < 10 ^ width) :
    Before (digits width m) (digits width n) := by
  induction width generalizing m n with
  | zero => omega
  | succ width ih =>
    by_cases tens : m / 10 < n / 10
    · have room : n / 10 < 10 ^ width := by
        rw [Nat.div_lt_iff_lt_mul (by decide), ← Nat.pow_succ]
        exact high
      exact (ih tens room).append (by simp) _ _
    · have same : m / 10 = n / 10 := by omega
      change Before (digits width (m / 10) ++ [digit m]) (digits width (n / 10) ++ [digit n])
      rw [same, before_append_left_iff]
      have lower : (digit m).rank < (digit n).rank := by
        rw [rank_digit, rank_digit]
        omega
      exact List.cons_lt_cons_iff.2 (Or.inl lower)

theorem digits_injective {width m n : Nat} (hm : m < 10 ^ width) (hn : n < 10 ^ width)
    (h : digits width m = digits width n) : m = n := by
  by_contra ne
  obtain lower | lower := Nat.lt_or_gt_of_ne ne
  · exact (digits_before lower hn).ne h
  · exact (digits_before lower hm).ne h.symm

end Text

end AccountRelay
