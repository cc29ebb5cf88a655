/-
  AddressWatch.Proofs.Text.Numeral

  Numbers as digits. Reading the digits of a number gives the number (`readNumeral_numeral`), so
  different numbers have different digits. No number has more digits than its size calls for, and
  none but zero starts with a zero.
-/

import Mathlib.Algebra.Group.Nat.Defs
import Mathlib.Data.List.Basic
import AddressWatch.Text.Numeral

namespace AddressWatch.Text

variable {base : Nat}

/-! ## Digits -/

theorem toNat_digitChar {d : Nat} (hd : d < 36) :
    (digitChar d).toNat = if d < 10 then 48 + d else 87 + d := by
  have hall : ∀ d < 36, (digitChar d).toNat = if d < 10 then 48 + d else 87 + d := by decide
  exact hall d hd

/-- A digit is read back in every base that has it. -/
theorem digitValue?_digitChar {d : Nat} (hbase : base ≤ 36) (hd : d < base) :
    digitValue? base (digitChar d) = some d := by
  have hchar := toNat_digitChar (d := d) (by omega)
  rw [digitValue?, hchar]
  by_cases hten : d < 10
  · have hrange : 48 ≤ 48 + d ∧ 48 + d ≤ 57 := by omega
    simp [hten, hrange, Option.filter, hd]
  · have hnot : ¬ (48 ≤ 87 + d ∧ 87 + d ≤ 57) := by omega
    have hrange : 97 ≤ 87 + d ∧ 87 + d ≤ 122 := by omega
    simp [hten, hnot, hrange, Option.filter, hd]

theorem isDecimalDigit_digitChar {d : Nat} (hd : d < 10) : isDecimalDigit (digitChar d) = true := by
  have hchar := toNat_digitChar (d := d) (by omega)
  rw [if_pos hd] at hchar
  rw [isDecimalDigit, hchar]
  simp only [Bool.and_eq_true, decide_eq_true_eq]
  omega

/-! ## The digits of a number -/

theorem numeral_of_lt {n : Nat} (hn : n < base) : numeral base n = [digitChar n] := by
  rw [numeral, dif_pos (Or.inl hn)]

theorem numeral_of_le {n : Nat} (hbase : 2 ≤ base) (hn : base ≤ n) :
    numeral base n = numeral base (n / base) ++ [digitChar (n % base)] := by
  rw [numeral, dif_neg (by omega)]

/-- A number is reached from the numbers of one digit by adding a digit at the end. -/
theorem numeral_induction {P : Nat → Prop} (hbase : 2 ≤ base) (hdigit : ∀ n, n < base → P n)
    (hmore : ∀ n, base ≤ n → P (n / base) → P n) (n : Nat) : P n := by
  induction n using Nat.strongRecOn with
  | _ n ih =>
      by_cases hn : n < base
      · exact hdigit n hn
      · exact hmore n (by omega) (ih _ (Nat.div_lt_self (by omega) (by omega)))

theorem numeral_ne_nil (base n : Nat) : numeral base n ≠ [] := by
  rw [numeral]
  split
  · exact List.cons_ne_nil _ _
  · exact List.append_ne_nil_of_right_ne_nil _ (List.cons_ne_nil _ _)

theorem exists_digit_of_mem_numeral {n : Nat} {c : Char} (hbase : 2 ≤ base)
    (hc : c ∈ numeral base n) : ∃ d < base, c = digitChar d := by
  induction n using numeral_induction hbase with
  | hdigit n hn =>
      rw [numeral_of_lt hn, List.mem_singleton] at hc
      exact ⟨n, hn, hc⟩
  | hmore n hn ih =>
      rw [numeral_of_le hbase hn, List.mem_append, List.mem_singleton] at hc
      rcases hc with hc | hc
      · exact ih hc
      · exact ⟨n % base, Nat.mod_lt n (by omega), hc⟩

theorem isSome_digitValue?_of_mem_numeral {n : Nat} {c : Char} (hbase : 2 ≤ base) (hmax : base ≤ 36)
    (hc : c ∈ numeral base n) : (digitValue? base c).isSome = true := by
  obtain ⟨d, hd, rfl⟩ := exists_digit_of_mem_numeral hbase hc
  rw [digitValue?_digitChar hmax hd]
  rfl

theorem isDecimalDigit_of_mem_numeral {n : Nat} {c : Char} (hc : c ∈ numeral 10 n) :
    isDecimalDigit c = true := by
  obtain ⟨d, hd, rfl⟩ := exists_digit_of_mem_numeral (by omega) hc
  exact isDecimalDigit_digitChar hd

theorem length_numeral_le {k n : Nat} (hbase : 2 ≤ base) (hk : 0 < k) (hn : n < base ^ k) :
    (numeral base n).length ≤ k := by
  induction n using numeral_induction hbase generalizing k with
  | hdigit n hlt =>
      rw [numeral_of_lt hlt]
      exact hk
  | hmore n hle ih =>
      have hone : k ≠ 1 := by
        rintro rfl
        rw [Nat.pow_one] at hn
        omega
      obtain ⟨j, rfl⟩ : ∃ j, k = j + 1 := ⟨k - 1, by omega⟩
      have hquotient : n / base < base ^ j := by
        rw [Nat.pow_succ, Nat.mul_comm] at hn
        exact Nat.div_lt_of_lt_mul hn
      have hshorter := ih (k := j) (by omega) hquotient
      rw [numeral_of_le hbase hle, List.length_append, List.length_singleton]
      omega

/-- Only zero starts with the digit zero. -/
theorem head?_numeral_ne_zero {n : Nat} (hbase : 2 ≤ base) (hmax : base ≤ 36) (hn : 0 < n) :
    (numeral base n).head? ≠ some '0' := by
  induction n using numeral_induction hbase with
  | hdigit n hlt =>
      rw [numeral_of_lt hlt, List.head?_cons]
      intro hzero
      have hchar := toNat_digitChar (d := n) (by omega)
      rw [Option.some.inj hzero] at hchar
      have hcode : '0'.toNat = 48 := rfl
      split at hchar <;> omega
  | hmore n hle ih =>
      have hquotient : 0 < n / base := Nat.div_pos hle (by omega)
      rw [numeral_of_le hbase hle, List.head?_append_of_ne_nil _ (numeral_ne_nil _ _)]
      exact ih hquotient

theorem numeral_zero (hbase : 2 ≤ base) : numeral base 0 = ['0'] := numeral_of_lt (by omega)

/-- No zero stands in front of other digits. -/
theorem length_numeral_of_head?_zero {n : Nat} (hbase : 2 ≤ base) (hmax : base ≤ 36)
    (hzero : (numeral base n).head? = some '0') : (numeral base n).length = 1 := by
  by_cases hn : n = 0
  · rw [hn, numeral_zero hbase]
    rfl
  · exact absurd hzero (head?_numeral_ne_zero hbase hmax (by omega))

/-! ## Reading digits -/

theorem readDigits_append (acc : Nat) (xs ys : List Char) :
    readDigits base acc (xs ++ ys) =
      (readDigits base acc xs).bind fun n => readDigits base n ys := by
  induction xs generalizing acc with
  | nil => rfl
  | cons x xs ih =>
      simp only [List.cons_append, readDigits, Option.bind_assoc]
      congr 1
      funext d
      exact ih _

theorem readDigits_numeral (hbase : 2 ≤ base) (hmax : base ≤ 36) (n : Nat) :
    readDigits base 0 (numeral base n) = some n := by
  induction n using numeral_induction hbase with
  | hdigit n hn =>
      rw [numeral_of_lt hn, readDigits, digitValue?_digitChar hmax hn]
      simp [readDigits]
  | hmore n hn ih =>
      have hdigit := digitValue?_digitChar (d := n % base) hmax (Nat.mod_lt n (by omega))
      rw [numeral_of_le hbase hn, readDigits_append, ih]
      simp only [Option.bind_some, readDigits, hdigit, Nat.div_add_mod']

/-- A number is read back from its digits. -/
theorem readNumeral_numeral (hbase : 2 ≤ base) (hmax : base ≤ 36) (n : Nat) :
    readNumeral base (numeral base n) = some n := by
  rw [readNumeral, if_neg (by rw [List.isEmpty_iff]; exact numeral_ne_nil base n)]
  exact readDigits_numeral hbase hmax n

end AddressWatch.Text
