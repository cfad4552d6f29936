import Mathlib.Data.Nat.Digits.Defs
import Haptics.Proofs.Text.Numeral
import Haptics.Proofs.Text.Upper

/-!
# What a row of digits is worth

`worth` is the value of a row of digits by place, and `Spells` says that a row has the digits of a number, in any
case and with any zeros before them. A row is read exactly if it is not empty and has digits only, and then as
what it is worth (`readDigits?_eq_some_iff`), so that a number is read however it is spelled
(`Spells.readDigits?_eq`). Both readers of numbers with a sign are this one behind the sign, with a range for the
result (`readHex?_eq_some_iff`, `readInt64?_eq_some_iff`).
-/

namespace Haptics.Text

variable {radix acc n : Nat} {c : Char} {cs ds : List Char}

/-- The digits of radix sixteen, each at the place of its value. -/
def digitRow : List Char := "0123456789ABCDEF".toList

/-- The value of a character as a digit, in either case; sixteen if it is none. -/
def digitAt (c : Char) : Nat := digitRow.idxOf c.toUpper

/-- What a row of digits is worth, the last one counting least. -/
def worth (radix : Nat) (cs : List Char) : Nat := Nat.ofDigits radix (cs.reverse.map digitAt)

theorem worth_append (radix : Nat) (cs ds : List Char) :
    worth radix (cs ++ ds) = worth radix cs * radix ^ ds.length + worth radix ds := by
  rw [worth, List.reverse_append, List.map_append, Nat.ofDigits_append, List.length_map, List.length_reverse,
    Nat.add_comm, Nat.mul_comm]
  rfl

theorem worth_singleton (radix : Nat) (c : Char) : worth radix [c] = digitAt c := Nat.ofDigits_singleton ..

theorem worth_cons (radix : Nat) (c : Char) (cs : List Char) :
    worth radix (c :: cs) = digitAt c * radix ^ cs.length + worth radix cs := by
  have happend := worth_append radix [c] cs
  rwa [worth_singleton] at happend

/-! ### Single digits -/

theorem of_forall_ascii {P : Char → Prop} (h : ∀ n < 128, P (Char.ofNat n)) (hc : c.toNat < 128) : P c := by
  have hp := h c.toNat hc
  rwa [Char.ofNat_toNat] at hp

theorem digitAt_of_le (h : 128 ≤ c.toNat) : digitAt c = 16 := by
  have hupper : c.toUpper = c := by
    rcases toUpper_cases c with ⟨hc, -⟩ | ⟨-, hc, -⟩
    · exact hc
    · omega
  have hsmall : digitRow.all (·.toNat < 128) = true := by decide
  have hnot : c ∉ digitRow := fun hm => Nat.not_lt.2 h (of_decide_eq_true (List.all_eq_true.1 hsmall c hm))
  rw [digitAt, hupper, List.idxOf_eq_length hnot]
  rfl

theorem digitValue?_of_le (radix : Nat) (h : 128 ≤ c.toNat) : digitValue? radix c = none := by
  have hle : ∀ x y : Char, x ≤ y ↔ x.toNat ≤ y.toNat := fun _ _ => UInt32.le_iff_toNat_le
  have hout : ∀ low high : Char, high.toNat < 128 → ¬ (low ≤ c ∧ c ≤ high) := by
    rintro low high hhigh ⟨-, hc⟩
    have := (hle c high).1 hc
    omega
  rw [digitValue?, if_neg (hout '0' '9' (by decide)), if_neg (hout 'a' 'z' (by decide)),
    if_neg (hout 'A' 'Z' (by decide))]
  rfl

theorem digitValue?_sixteen (c : Char) : digitValue? 16 c = (some (digitAt c)).filter (· < 16) := by
  by_cases h : c.toNat < 128
  · exact of_forall_ascii (P := fun c => digitValue? 16 c = (some (digitAt c)).filter (· < 16)) (by decide +kernel) h
  · have h : 128 ≤ c.toNat := Nat.not_lt.1 h
    rw [digitValue?_of_le 16 h, digitAt_of_le h]
    rfl

theorem digitValue?_eq (hr : radix ≤ 16) (c : Char) :
    digitValue? radix c = (some (digitAt c)).filter (· < radix) := by
  have hsame : ∀ v : Option Nat, v.filter (· < radix) = (v.filter (· < 16)).filter (· < radix) := by
    intro v
    rw [Option.filter_filter]
    congr 1
    funext d
    by_cases hd : d < radix
    · simp [hd, Nat.lt_of_lt_of_le hd hr]
    · simp [hd]
  rw [digitValue?, hsame, ← digitValue?, digitValue?_sixteen, ← hsame]

theorem digitValue?_eq_some_iff {d : Nat} (hr : radix ≤ 16) :
    digitValue? radix c = some d ↔ digitAt c < radix ∧ digitAt c = d := by
  rw [digitValue?_eq hr, Option.filter_eq_some_iff, Option.some_inj, decide_eq_true_eq]
  constructor
  · rintro ⟨rfl, h⟩
    exact ⟨h, rfl⟩
  · rintro ⟨h, rfl⟩
    exact ⟨rfl, h⟩

theorem digitAt_lt_ten_iff : digitAt c < 10 ↔ c.isDigit = true := by
  by_cases h : c.toNat < 128
  · exact of_forall_ascii (P := fun c => digitAt c < 10 ↔ c.isDigit = true) (by decide +kernel) h
  · rw [digitAt_of_le (Nat.not_lt.1 h)]
    refine iff_of_false (by decide) fun hd => h ?_
    have hle : c.toNat ≤ '9'.toNat := by
      simp only [Char.isDigit, Bool.and_eq_true, decide_eq_true_eq] at hd
      exact UInt32.le_iff_toNat_le.1 hd.2
    exact Nat.lt_of_le_of_lt hle (by decide)

theorem isBlank_of_digitAt_lt (h : digitAt c < 16) : isBlank c = false := by
  by_cases hc : c.toNat < 128
  · exact of_forall_ascii (P := fun c => digitAt c < 16 → isBlank c = false) (by decide +kernel) hc h
  · rw [digitAt_of_le (Nat.not_lt.1 hc)] at h
    exact absurd h (Nat.lt_irrefl 16)

theorem isBlank_of_isDigit (h : c.isDigit = true) : isBlank c = false :=
  isBlank_of_digitAt_lt (Nat.lt_trans (digitAt_lt_ten_iff.2 h) (by decide))

/-! ### Rows -/

theorem readDigitsFrom_eq_some_iff (hr : radix ≤ 16) : readDigitsFrom radix acc cs = some n ↔
    (∀ c ∈ cs, digitAt c < radix) ∧ acc * radix ^ cs.length + worth radix cs = n := by
  induction cs generalizing acc with
  | nil => simp [readDigitsFrom, worth]
  | cons c cs ih =>
    have hplace : (acc * radix + digitAt c) * radix ^ cs.length + worth radix cs =
        acc * radix ^ (c :: cs).length + worth radix (c :: cs) := by
      rw [worth_cons, List.length_cons, Nat.pow_succ', Nat.add_mul, Nat.mul_assoc, Nat.add_assoc]
    rw [readDigitsFrom, Option.bind_eq_some_iff, List.forall_mem_cons, and_assoc]
    constructor
    · rintro ⟨d, hd, hrest⟩
      obtain ⟨hc, rfl⟩ := (digitValue?_eq_some_iff hr).1 hd
      obtain ⟨hcs, hn⟩ := ih.1 hrest
      exact ⟨hc, hcs, hplace ▸ hn⟩
    · rintro ⟨hc, hcs, hn⟩
      exact ⟨_, (digitValue?_eq_some_iff hr).2 ⟨hc, rfl⟩, ih.2 ⟨hcs, hplace.trans hn⟩⟩

theorem readDigits?_eq_some_iff (hr : radix ≤ 16) : readDigits? radix cs = some n ↔
    cs ≠ [] ∧ (∀ c ∈ cs, digitAt c < radix) ∧ worth radix cs = n := by
  by_cases hcs : cs = []
  · subst hcs
    exact iff_of_false nofun fun h => h.1 rfl
  · rw [readDigits?_eq hcs, readDigitsFrom_eq_some_iff hr, Nat.zero_mul, Nat.zero_add]
    exact (and_iff_right hcs).symm

/-! ### Numbers spelled out -/

/-- Whether a row has the digits of a number, in any case and with any zeros before them. -/
def Spells (radix : Nat) (cs : List Char) (n : Nat) : Prop :=
  ∃ zeros, cs.map Char.toUpper = (List.replicate zeros '0' ++ Nat.toDigits radix n).map Char.toUpper

theorem digitAt_digitChar {d : Nat} (h : d < 16) : digitAt (Nat.digitChar d) = d := by
  revert d; decide

theorem exists_of_mem_toDigits (hr : 1 < radix) : ∀ c ∈ Nat.toDigits radix n, ∃ d < radix, c = Nat.digitChar d := by
  induction n using Nat.strong_induction_on with
  | _ n ih =>
    intro c hc
    rw [Nat.toDigits_eq_if hr] at hc
    split at hc
    next hn => exact ⟨n, hn, List.mem_singleton.1 hc⟩
    next hn =>
      rcases List.mem_append.1 hc with hc | hc
      · exact ih (n / radix) (Nat.div_lt_self (by omega) hr) c hc
      · exact ⟨n % radix, Nat.mod_lt n (by omega), List.mem_singleton.1 hc⟩

theorem forall_digitAt_toDigits (hr : 1 < radix) (hr' : radix ≤ 16) (n : Nat) :
    ∀ c ∈ Nat.toDigits radix n, digitAt c < radix := by
  intro c hc
  obtain ⟨d, hd, rfl⟩ := exists_of_mem_toDigits hr c hc
  rw [digitAt_digitChar (Nat.lt_of_lt_of_le hd hr')]
  exact hd

theorem worth_toDigits (hr : 1 < radix) (hr' : radix ≤ 16) (n : Nat) : worth radix (Nat.toDigits radix n) = n := by
  induction n using Nat.strong_induction_on with
  | _ n ih =>
    rw [Nat.toDigits_eq_if hr]
    split
    next hn => rw [worth_singleton, digitAt_digitChar (Nat.lt_of_lt_of_le hn hr')]
    next hn =>
      have hd : n % radix < radix := Nat.mod_lt n (by omega)
      rw [worth_append, ih (n / radix) (Nat.div_lt_self (by omega) hr), worth_singleton,
        digitAt_digitChar (Nat.lt_of_lt_of_le hd hr'), List.length_singleton, Nat.pow_one, Nat.div_add_mod']

theorem worth_zeros (radix zeros : Nat) : worth radix (List.replicate zeros '0') = 0 := by
  induction zeros with
  | zero => rfl
  | succ zeros ih =>
    rw [List.replicate_succ, worth_cons, ih, Nat.add_zero]
    exact Nat.zero_mul _

theorem readDigits?_zeros_toDigits (hr : 1 < radix) (hr' : radix ≤ 16) (zeros n : Nat) :
    readDigits? radix (List.replicate zeros '0' ++ Nat.toDigits radix n) = some n := by
  refine (readDigits?_eq_some_iff hr').2 ⟨?_, ?_, ?_⟩
  · exact List.append_ne_nil_of_right_ne_nil _ Nat.toDigits_ne_nil
  · intro c hc
    rcases List.mem_append.1 hc with hc | hc
    · obtain ⟨-, rfl⟩ := List.mem_replicate.1 hc
      exact Nat.lt_trans Nat.zero_lt_one hr
    · exact forall_digitAt_toDigits hr hr' n c hc
  · rw [worth_append, worth_zeros, Nat.zero_mul, Nat.zero_add, worth_toDigits hr hr']

theorem Spells.readDigits?_eq (h : Spells radix cs n) (hr : 1 < radix) (hr' : radix ≤ 16) :
    readDigits? radix cs = some n := by
  obtain ⟨zeros, h⟩ := h
  rw [← readDigits?_map_toUpper, h, readDigits?_map_toUpper, readDigits?_zeros_toDigits hr hr']

theorem Spells.forall_digitAt (h : Spells radix cs n) (hr : 1 < radix) (hr' : radix ≤ 16) :
    ∀ c ∈ cs, digitAt c < radix :=
  ((readDigits?_eq_some_iff hr').1 (h.readDigits?_eq hr hr')).2.1

/-! ### Numbers with a sign -/

/-- What is left of a text without a plus sign at its beginning. -/
def dropPlus : List Char → List Char
  | '+' :: cs => cs
  | cs => cs

theorem readHex?_eq (bound : Nat) (cs : List Char) :
    readHex? bound cs = (readDigits? 16 (dropPlus cs)).filter (· < bound) := by
  unfold readHex?
  split
  · rfl
  · rename_i hplus
    rw [dropPlus]
    exact hplus

theorem readHex?_eq_some_iff {bound : Nat} : readHex? bound cs = some n ↔
    dropPlus cs ≠ [] ∧ (∀ c ∈ dropPlus cs, digitAt c < 16) ∧ worth 16 (dropPlus cs) = n ∧ n < bound := by
  rw [readHex?_eq, Option.filter_eq_some_iff, readDigits?_eq_some_iff (Nat.le_refl 16), decide_eq_true_eq,
    and_assoc, and_assoc]

theorem readHex?_eq_none_iff {bound : Nat} : readHex? bound cs = none ↔
    dropPlus cs = [] ∨ (∃ c ∈ dropPlus cs, 16 ≤ digitAt c) ∨ bound ≤ worth 16 (dropPlus cs) := by
  constructor
  · intro h
    by_contra hnot
    simp only [not_or, not_exists, not_and, Nat.not_le] at hnot
    obtain ⟨hne, hdigits, hlt⟩ := hnot
    rw [readHex?_eq_some_iff.2 ⟨hne, hdigits, rfl, hlt⟩] at h
    cases h
  · intro h
    rcases hr : readHex? bound cs with _ | n
    · rfl
    obtain ⟨hne, hdigits, rfl, hlt⟩ := readHex?_eq_some_iff.1 hr
    rcases h with h | ⟨c, hc, hd⟩ | h
    · exact absurd h hne
    · exact absurd (hdigits c hc) (Nat.not_lt.2 hd)
    · exact absurd hlt (Nat.not_lt.2 h)

theorem int64?_eq_some_iff {n : Int} {v : Int64} : int64? n = some v ↔ v.toInt = n := by
  have hlow : Int64.minValue.toInt = -2 ^ 63 := rfl
  have hhigh : Int64.maxValue.toInt = 2 ^ 63 - 1 := rfl
  have hv := v.le_toInt
  have hv' := v.toInt_lt
  unfold int64?
  constructor
  · intro h
    split at h
    · obtain rfl := Option.some.inj h
      exact Int64.toInt_ofInt_of_le (by omega) (by omega)
    · cases h
  · rintro rfl
    rw [if_pos (by omega), Int64.ofInt_toInt]

theorem int64?_of_out {n : Int} (h : n < -2 ^ 63 ∨ 2 ^ 63 ≤ n) : int64? n = none := by
  have hlow : Int64.minValue.toInt = -2 ^ 63 := rfl
  have hhigh : Int64.maxValue.toInt = 2 ^ 63 - 1 := rfl
  exact if_neg (by omega)

/-- A number in decimal: perhaps a sign, then digits. -/
def IsNumeral (w : List Char) (n : Int) : Prop :=
  ∃ sign digits, w = sign ++ digits ∧ digits ≠ [] ∧ (∀ c ∈ digits, c.isDigit = true) ∧
    (sign = ['-'] ∧ n = -(worth 10 digits : Int) ∨ (sign = [] ∨ sign = ['+']) ∧ n = worth 10 digits)

theorem readDigits?_ten_iff : readDigits? 10 cs = some n ↔
    cs ≠ [] ∧ (∀ c ∈ cs, c.isDigit = true) ∧ worth 10 cs = n := by
  rw [readDigits?_eq_some_iff (by decide)]
  simp only [digitAt_lt_ten_iff]

theorem readInt64?_of_digits (h : ∀ c ∈ cs, c.isDigit = true) :
    readInt64? cs = (readDigits? 10 cs).bind fun n => int64? n := by
  unfold readInt64?
  split
  · exact absurd (h '-' List.mem_cons_self) (by decide)
  · exact absurd (h '+' List.mem_cons_self) (by decide)
  · rfl

theorem IsNumeral.readInt64?_eq {w : List Char} {n : Int} (h : IsNumeral w n) : readInt64? w = int64? n := by
  obtain ⟨sign, digits, rfl, hne, hdigits, h⟩ := h
  have hread : readDigits? 10 digits = some (worth 10 digits) := readDigits?_ten_iff.2 ⟨hne, hdigits, rfl⟩
  rcases h with ⟨rfl, rfl⟩ | ⟨rfl | rfl, rfl⟩
  · show (readDigits? 10 digits).bind (fun n => int64? (-n)) = _
    rw [hread, Option.bind_some]
  · rw [List.nil_append, readInt64?_of_digits hdigits, hread, Option.bind_some]
  · show (readDigits? 10 digits).bind (fun n => int64? n) = _
    rw [hread, Option.bind_some]

theorem exists_isNumeral_of_readInt64? {w : List Char} {v : Int64} (h : readInt64? w = some v) :
    IsNumeral w v.toInt := by
  unfold readInt64? at h
  split at h
  all_goals
    obtain ⟨n, hn, hv⟩ := Option.bind_eq_some_iff.1 h
    obtain ⟨hne, hdigits, rfl⟩ := readDigits?_ten_iff.1 hn
    rw [int64?_eq_some_iff.1 hv]
  · exact ⟨['-'], _, rfl, hne, hdigits, .inl ⟨rfl, rfl⟩⟩
  · exact ⟨['+'], _, rfl, hne, hdigits, .inr ⟨.inr rfl, rfl⟩⟩
  · exact ⟨[], _, rfl, hne, hdigits, .inr ⟨.inl rfl, rfl⟩⟩

theorem readInt64?_eq_some_iff {w : List Char} {v : Int64} : readInt64? w = some v ↔ IsNumeral w v.toInt :=
  ⟨exists_isNumeral_of_readInt64?, fun h => h.readInt64?_eq.trans (int64?_eq_some_iff.2 rfl)⟩

end Haptics.Text
