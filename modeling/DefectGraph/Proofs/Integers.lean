import DefectGraph.Number.Integer

/-!
# Integers are read back from their digits

## Main Statements

* `grow_toDigits`, `shrink_of_grow` - digits are read as the number that they stand for, or its opposite.
* `parse_toDigits`, `parse_toString` - an integer within bounds is read back from its digits.
* `parse_bounds` - an integer that is read is within bounds.

## Design Notes

Reading fails at the first digit that takes the value out of bounds, so a number is read back only if no
start of its digits is out of bounds already. Starts of a number are never further from zero than the
number, which is what makes the digits of a number within bounds readable from left to right. `grow` is for
numbers above zero and `shrink` for those below; `shrink_of_grow` derives the second from the first.
-/

namespace DefectGraph.Number.Integer

/-- Digits are read from the front, each part from what the part before has given. -/
theorem grow_append (base : Nat) (greatest value : Int) (first second : List Char) :
    grow base greatest value (first ++ second) =
      (grow base greatest value first).bind fun between => grow base greatest between second := by
  induction first generalizing value with
  | nil => rfl
  | cons c rest ih =>
    rw [List.cons_append, grow, grow]
    cases digit? base c with
    | none => rfl
    | some d =>
      simp only
      split
      · exact ih _
      · rfl

theorem digit?_digitChar {d : Nat} (small : d < 10) : digit? 10 d.digitChar = some d := by
  revert d
  decide

/-- The digits of a number that fits are read as that number. -/
theorem grow_toDigits (n : Nat) (greatest : Int) (fits : (n : Int) ≤ greatest) :
    grow 10 greatest 0 (Nat.toDigits 10 n) = .ok n := by
  induction n using Nat.strongRecOn with
  | ind n ih =>
    by_cases single : n < 10
    · rw [Nat.toDigits_of_lt_base single, grow, digit?_digitChar single]
      simp [fits, grow]
    · -- All but the last digit are the digits of a tenth, which fits as well.
      have tenth := ih (n / 10) (by omega) (by omega)
      have last : ((n / 10 : Nat) : Int) * (10 : Nat) + (n % 10 : Nat) = n := by omega
      rw [Nat.toDigits_of_base_le (by omega) (Nat.le_of_not_lt single), grow_append, tenth]
      change grow 10 greatest (n / 10 : Nat) [(n % 10).digitChar] = .ok n
      rw [grow, digit?_digitChar (Nat.mod_lt n (by omega))]
      simp only [last, fits, if_true, grow]

/-- Digits that stand for a number stand for its opposite after a minus sign. -/
theorem shrink_of_grow {base : Nat} {least value result : Int} {digits : List Char}
    (grown : grow base (-least) (-value) digits = .ok result) :
    shrink base least value digits = .ok (-result) := by
  induction digits generalizing value with
  | nil =>
    cases grown
    simp [shrink]
  | cons c rest ih =>
    rw [grow] at grown
    rw [shrink]
    cases digit : digit? base c with
    | none => simp [digit] at grown
    | some d =>
      have opposite : -value * base + d = -(value * base - d) := by
        rw [Int.neg_mul]
        omega
      simp only [digit, opposite] at grown ⊢
      split at grown
      · rename_i fits
        rw [if_pos (by omega)]
        exact ih grown
      · cases grown

/-- The code points of digits. -/
theorem toNat_of_isDigit {c : Char} (digit : c.isDigit = true) : 48 ≤ c.toNat ∧ c.toNat ≤ 57 := by
  simp only [Char.isDigit, Bool.and_eq_true, decide_eq_true_eq, ge_iff_le,
    UInt32.le_iff_toNat_le] at digit
  exact digit

theorem isSome_digit? {c : Char} (digit : c.isDigit = true) : (digit? 10 c).isSome = true := by
  obtain ⟨low, high⟩ := toNat_of_isDigit digit
  have small : c.toNat - 48 < 10 := by omega
  simp [digit?, digit, Option.filter, small]

theorem isDigit_of_mem {n : Nat} {c : Char} (present : c ∈ Nat.toDigits 10 n) : c.isDigit = true :=
  Nat.isDigit_of_mem_toDigits (by omega) (by omega) present

theorem notMem_toDigits {c : Char} (other : c.isDigit = false) (n : Nat) : c ∉ Nat.toDigits 10 n := by
  intro present
  rw [isDigit_of_mem present] at other
  cases other

/-- Digits without a sign are read as the number that they grow to. -/
theorem parse_of_digits {text : List Char} (bounds : Bounds) (filled : text ≠ [])
    (digits : ∀ c ∈ text, c.isDigit = true) : parse 10 bounds text = grow 10 bounds.greatest 0 text := by
  have noDigit : ∀ c, c.isDigit = false → c ∉ text := by
    intro c other present
    rw [digits c present] at other
    cases other
  unfold parse
  split
  · exact absurd rfl filled
  · exact absurd (by simp) (noDigit '+' (by decide))
  · exact absurd (by simp) (noDigit '-' (by decide))
  · exact absurd (by simp) (noDigit '+' (by decide))
  · exact absurd (by simp) (noDigit '-' (by decide))
  · rfl

/-- A number within bounds is read back from its digits. -/
theorem parse_toDigits {n : Nat} {bounds : Bounds} (fits : (n : Int) ≤ bounds.greatest) :
    parse 10 bounds (Nat.toDigits 10 n) = .ok n := by
  rw [parse_of_digits bounds Nat.toDigits_ne_nil fun c => isDigit_of_mem]
  exact grow_toDigits n _ fits

/-- A number is spelled by its digits. -/
theorem toList_toString_ofNat (n : Nat) :
    (toString (Int.ofNat n)).toList = Nat.toDigits 10 n := by
  simp [Int.toString_eq_repr, Int.repr, Nat.repr]

/-- A negative number has a sign in front of its digits. -/
theorem toList_toString_negSucc (n : Nat) :
    (toString (Int.negSucc n)).toList = '-' :: Nat.toDigits 10 (n + 1) := by
  simp [Int.toString_eq_repr, Int.repr, Nat.repr]

/-- Digits after a minus sign are read as the number that they shrink to. -/
theorem parse_of_minus {digits : List Char} {bounds : Bounds} (filled : digits ≠ [])
    (negative : bounds.least < 0) :
    parse 10 bounds ('-' :: digits) = shrink 10 bounds.least 0 digits := by
  cases digits with
  | nil => exact absurd rfl filled
  | cons c rest => exact if_pos negative

/-- An integer within bounds is read back from its digits. -/
theorem parse_toString {n : Int} {bounds : Bounds} (least : bounds.least ≤ n)
    (greatest : n ≤ bounds.greatest) : parse 10 bounds (toString n).toList = .ok n := by
  cases n with
  | ofNat m =>
    rw [toList_toString_ofNat]
    exact parse_toDigits greatest
  | negSucc m =>
    have fits : ((m + 1 : Nat) : Int) ≤ -bounds.least := by omega
    have grown : grow 10 (-bounds.least) (-0) (Nat.toDigits 10 (m + 1)) = .ok (m + 1 : Nat) :=
      grow_toDigits (m + 1) _ fits
    rw [toList_toString_negSucc, parse_of_minus Nat.toDigits_ne_nil (by omega)]
    exact shrink_of_grow grown

/-! ### Bounds -/

/-- A number that is read stays within the bound. -/
theorem grow_bounds {base : Nat} {greatest value result : Int} {digits : List Char}
    (grown : grow base greatest value digits = .ok result) (low : 0 ≤ value) (high : value ≤ greatest) :
    0 ≤ result ∧ result ≤ greatest := by
  induction digits generalizing value with
  | nil =>
    cases grown
    exact ⟨low, high⟩
  | cons c rest ih =>
    rw [grow] at grown
    cases digit : digit? base c with
    | none => simp [digit] at grown
    | some d =>
      simp only [digit] at grown
      split at grown
      · next fits =>
        have raised : 0 ≤ value * (base : Int) := Int.mul_nonneg low (Int.natCast_nonneg base)
        exact ih grown (by omega) fits
      · cases grown

/-- So does a negative one. -/
theorem shrink_bounds {base : Nat} {least value result : Int} {digits : List Char}
    (shrunk : shrink base least value digits = .ok result) (low : least ≤ value) (high : value ≤ 0) :
    least ≤ result ∧ result ≤ 0 := by
  induction digits generalizing value with
  | nil =>
    cases shrunk
    exact ⟨low, high⟩
  | cons c rest ih =>
    rw [shrink] at shrunk
    cases digit : digit? base c with
    | none => simp [digit] at shrunk
    | some d =>
      simp only [digit] at shrunk
      split at shrunk
      · next fits =>
        have lowered : value * (base : Int) ≤ 0 := Int.mul_nonpos_of_nonpos_of_nonneg high (Int.natCast_nonneg base)
        exact ih shrunk fits (by omega)
      · cases shrunk

/-- An integer that is read is within bounds. -/
theorem parse_bounds {base : Nat} {bounds : Bounds} {text : List Char} {n : Int}
    (least : bounds.least ≤ 0) (greatest : 0 ≤ bounds.greatest) (parsed : parse base bounds text = .ok n) :
    bounds.least ≤ n ∧ n ≤ bounds.greatest := by
  have up : ∀ digits, grow base bounds.greatest 0 digits = .ok n →
      bounds.least ≤ n ∧ n ≤ bounds.greatest := by
    intro digits grown
    obtain ⟨low, high⟩ := grow_bounds grown (Int.le_refl 0) greatest
    exact ⟨Int.le_trans least low, high⟩
  unfold parse at parsed
  split at parsed
  · cases parsed
  · cases parsed
  · cases parsed
  · exact up _ parsed
  · split at parsed
    · obtain ⟨low, high⟩ := shrink_bounds parsed least (Int.le_refl 0)
      exact ⟨low, Int.le_trans high greatest⟩
    · cases parsed
  · exact up _ parsed

end DefectGraph.Number.Integer
