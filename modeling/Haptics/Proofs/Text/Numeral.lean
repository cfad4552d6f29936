import Haptics.Text.Numeral

/-!
# Decimal numbers read back

The decimal digits of a number denote it, and a zero begins them only if the number is zero. Reading
digits is carried from the right: `readDigitsFrom_append` splits off the last ones, as `decimal` adds them.
-/

namespace Haptics.Text

theorem digitValue?_decimalDigit {d : Nat} (h : d < 10) : digitValue? 10 (decimalDigit d) = some d := by
  revert d; decide

theorem isDigit_decimalDigit {d : Nat} (h : d < 10) : (decimalDigit d).isDigit = true := by
  revert d; decide

theorem readDigitsFrom_append (radix acc : Nat) (cs ds : List Char) :
    readDigitsFrom radix acc (cs ++ ds) =
      (readDigitsFrom radix acc cs).bind fun n => readDigitsFrom radix n ds := by
  induction cs generalizing acc with
  | nil => rfl
  | cons c cs ih =>
    rw [List.cons_append, readDigitsFrom, readDigitsFrom, Option.bind_assoc]
    simp only [ih]

theorem le_of_readDigitsFrom {radix acc n : Nat} {cs : List Char} (hr : 0 < radix)
    (h : readDigitsFrom radix acc cs = some n) : acc ≤ n := by
  induction cs generalizing acc with
  | nil => exact Nat.le_of_eq (Option.some.inj h)
  | cons c cs ih =>
    obtain ⟨d, -, hd⟩ := Option.bind_eq_some_iff.1 h
    calc acc ≤ acc * radix := Nat.le_mul_of_pos_right acc hr
      _ ≤ acc * radix + d := Nat.le_add_right ..
      _ ≤ n := ih hd

theorem decimal_ne_nil (n : Nat) : decimal n ≠ [] := by
  rw [decimal]; split <;> simp

theorem readDigits?_eq {radix : Nat} {cs : List Char} (h : cs ≠ []) :
    readDigits? radix cs = readDigitsFrom radix 0 cs := by
  cases cs with
  | nil => exact absurd rfl h
  | cons c cs => rfl

theorem readDigitsFrom_decimal (n : Nat) : readDigitsFrom 10 0 (decimal n) = some n := by
  induction n using decimal.induct with
  | case1 n h => simp [decimal, h, readDigitsFrom, digitValue?_decimalDigit h]
  | case2 n h ih =>
    have hd : digitValue? 10 (decimalDigit (n % 10)) = some (n % 10) :=
      digitValue?_decimalDigit (Nat.mod_lt n (by omega))
    rw [decimal, if_neg h, readDigitsFrom_append, ih, Option.bind_some, readDigitsFrom, hd, Option.bind_some,
      readDigitsFrom, Nat.div_add_mod' n 10]

theorem readDigits?_decimal (n : Nat) : readDigits? 10 (decimal n) = some n := by
  rw [readDigits?_eq (decimal_ne_nil n), readDigitsFrom_decimal]

theorem isDigit_of_mem_decimal {n : Nat} {c : Char} (hc : c ∈ decimal n) : c.isDigit = true := by
  induction n using decimal.induct with
  | case1 n h =>
    rw [decimal, if_pos h, List.mem_singleton] at hc
    exact hc ▸ isDigit_decimalDigit h
  | case2 n h ih =>
    rw [decimal, if_neg h, List.mem_append, List.mem_singleton] at hc
    rcases hc with hc | rfl
    · exact ih hc
    · exact isDigit_decimalDigit (Nat.mod_lt n (by omega))

theorem head?_decimal {n : Nat} (h : n ≠ 0) : (decimal n).head? ≠ some '0' := by
  induction n using decimal.induct with
  | case1 n hn =>
    rw [decimal, if_pos hn, List.head?_singleton]
    revert n; decide
  | case2 n hn ih =>
    rw [decimal, if_neg hn, List.head?_append,
      List.head?_eq_some_head (decimal_ne_nil _), Option.some_or, ← List.head?_eq_some_head (decimal_ne_nil _)]
    exact ih (by omega)

end Haptics.Text
