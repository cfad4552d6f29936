import Haptics.Proofs.Text.Split
import Haptics.Text.Blank
import Haptics.Text.Numeral
import Haptics.Text.Upper

/-!
# What the upper case leaves alone

The signs and digits of ASCII are no upper case but their own, so a text has its lines, and its lines their
fields, where their upper case has them (`pieces_upper`). Nor does the case of letters matter to white
space or to a hexadecimal number.
-/

namespace Haptics.Text

variable {c u : Char} {cs : List Char}

theorem toUpper_cases (c : Char) :
    c.toUpper = c ∧ ¬ (97 ≤ c.toNat ∧ c.toNat ≤ 122) ∨
      97 ≤ c.toNat ∧ c.toNat ≤ 122 ∧ c.toUpper.toNat + 32 = c.toNat := by
  by_cases h : 97 ≤ c.toNat ∧ c.toNat ≤ 122
  · have hval : c.val ≥ 'a'.val ∧ c.val ≤ 'z'.val := by
      rw [ge_iff_le, UInt32.le_iff_toNat_le, UInt32.le_iff_toNat_le]
      exact h
    have hshifted : c.toUpper.val = c.val + ('A'.val - 'a'.val) := by
      delta Char.toUpper
      rw [dif_pos hval]
    have hshift : ('A'.val - 'a'.val).toNat = 4294967264 := rfl
    have hc : 97 ≤ c.val.toNat ∧ c.val.toNat ≤ 122 := h
    refine .inr ⟨h.1, h.2, ?_⟩
    show c.toUpper.val.toNat + 32 = c.val.toNat
    rw [hshifted, UInt32.toNat_add]
    omega
  · have hval : ¬ (c.val ≥ 'a'.val ∧ c.val ≤ 'z'.val) := by
      rw [ge_iff_le, UInt32.le_iff_toNat_le, UInt32.le_iff_toNat_le]
      exact h
    exact .inl ⟨dif_neg hval, h⟩

/-- Whatever comes before the letters of ASCII is its own upper case, and that of no other character. -/
theorem toUpper_eq_iff (hu : u.toNat < 65) : c.toUpper = u ↔ c = u := by
  rcases toUpper_cases c with ⟨h, -⟩ | ⟨hlow, hhigh, h⟩
  · rw [h]
  · refine iff_of_false ?_ ?_
    · rintro rfl
      omega
    · rintro rfl
      omega

/-- The table has letters only, and the upper case of each has a character behind `E`. -/
theorem lookup_upperIntoAscii {us : List Char} (h : upperIntoAscii.lookup c = some us) :
    65 ≤ c.toNat ∧ (∀ x ∈ us, 65 ≤ x.toNat) ∧ ∃ x ∈ us, 70 ≤ x.toNat := by
  have htable : (upperIntoAscii.all fun p =>
      decide (65 ≤ p.1.toNat) && p.2.all (65 ≤ ·.toNat) && p.2.any (70 ≤ ·.toNat)) = true := by decide
  obtain ⟨l, l', hl, -⟩ := List.lookup_eq_some_iff.1 h
  have hmem : (c, us) ∈ upperIntoAscii := hl ▸ List.mem_append_right l List.mem_cons_self
  simpa only [Bool.and_eq_true, decide_eq_true_eq, List.all_eq_true, List.any_eq_true, and_assoc]
    using List.all_eq_true.1 htable _ hmem

theorem mem_upperChar_iff (hu : u.toNat < 65) : u ∈ upperChar c ↔ c = u := by
  rw [upperChar]
  rcases h : upperIntoAscii.lookup c with _ | us
  · rw [Option.getD_none, List.mem_singleton, eq_comm, toUpper_eq_iff hu]
  · obtain ⟨hc, hus, -⟩ := lookup_upperIntoAscii h
    refine iff_of_false (fun hm => ?_) ?_
    · have := hus u hm
      omega
    · rintro rfl
      exact Nat.not_lt.2 hc hu

theorem upperChar_self (hu : u.toNat < 65) : upperChar u = [u] := by
  have hnone : upperIntoAscii.lookup u = none := by
    by_contra h
    obtain ⟨us, hus⟩ := Option.ne_none_iff_exists'.1 h
    exact Nat.not_lt.2 (lookup_upperIntoAscii hus).1 hu
  rw [upperChar, hnone, Option.getD_none, (toUpper_eq_iff hu).2 rfl]

theorem mem_upper_iff (hu : u.toNat < 65) : u ∈ upper cs ↔ u ∈ cs := by
  simp only [upper, List.mem_flatMap, mem_upperChar_iff hu, exists_eq_right]

theorem pieces_upper (hu : u.toNat < 65) (cs : List Char) : pieces u (upper cs) = (pieces u cs).map upper :=
  pieces_flatMap (upperChar_self hu) (fun _ hc hm => hc ((mem_upperChar_iff hu).1 hm)) cs

theorem upper_append (cs cs' : List Char) : upper (cs ++ cs') = upper cs ++ upper cs' := List.flatMap_append

theorem upper_cons_of_lt (hu : u.toNat < 65) (cs : List Char) : upper (u :: cs) = u :: upper cs := by
  rw [upper, List.flatMap_cons, upperChar_self hu]
  rfl

/-- A text of which the upper case has no letter but `A` to `E` is one of ASCII. -/
theorem upper_eq_map (h : ∀ x ∈ upper cs, x.toNat < 70) : upper cs = cs.map Char.toUpper := by
  rw [List.map_eq_flatMap]
  refine List.flatMap_congr fun c hc => ?_
  rw [upperChar]
  rcases hl : upperIntoAscii.lookup c with _ | us
  · rfl
  · obtain ⟨-, -, x, hx, hlarge⟩ := lookup_upperIntoAscii hl
    have hmem : x ∈ upper cs := List.mem_flatMap.2 ⟨c, hc, by rw [upperChar, hl]; exact hx⟩
    exact absurd (h x hmem) (Nat.not_lt.2 hlarge)

/-! ### White space and numbers -/

theorem isBlank_toUpper (c : Char) : isBlank c.toUpper = isBlank c := by
  rcases toUpper_cases c with ⟨h, -⟩ | ⟨hlow, hhigh, h⟩
  · rw [h]
  · have hletter : ∀ x : Char, 65 ≤ x.toNat → x.toNat ≤ 122 → isBlank x = false := by
      intro x hx hx'
      rw [isBlank, List.any_eq_false]
      rintro ⟨low, high⟩ hp
      have hsides : ∀ p ∈ blankIntervals, p.2 < 65 ∨ 122 < p.1 := by decide
      have := hsides _ hp
      simp only [Bool.and_eq_true, decide_eq_true_eq]
      omega
    rw [hletter c (by omega) hhigh, hletter c.toUpper (by omega) (by omega)]

theorem trim_map_toUpper (cs : List Char) : trim (cs.map Char.toUpper) = (trim cs).map Char.toUpper := by
  have hblank : isBlank ∘ Char.toUpper = isBlank := funext isBlank_toUpper
  simp only [trim, trimLeft, trimRight, List.dropWhile_map, ← List.map_reverse, hblank]

theorem digitValue?_toUpper (radix : Nat) (c : Char) : digitValue? radix c.toUpper = digitValue? radix c := by
  rcases toUpper_cases c with ⟨h, -⟩ | ⟨hlow, hhigh, h⟩
  · rw [h]
  · have hle : ∀ x y : Char, x ≤ y ↔ x.toNat ≤ y.toNat := fun _ _ => UInt32.le_iff_toNat_le
    have hdigit : ∀ x : Char, 65 ≤ x.toNat → ¬ ('0' ≤ x ∧ x ≤ '9') := by
      rintro x hx ⟨-, hx'⟩
      exact Nat.not_lt.2 ((hle x '9').1 hx') (Nat.lt_of_lt_of_le (by decide) hx)
    have hsmall : 'a' ≤ c ∧ c ≤ 'z' := ⟨(hle _ _).2 hlow, (hle _ _).2 hhigh⟩
    have hnot : ¬ ('a' ≤ c.toUpper ∧ c.toUpper ≤ 'z') := by
      rintro ⟨hc, -⟩
      have : 97 ≤ c.toUpper.toNat := (hle _ _).1 hc
      omega
    have hlarge : 'A' ≤ c.toUpper ∧ c.toUpper ≤ 'Z' :=
      ⟨(hle _ _).2 (show 65 ≤ c.toUpper.toNat by omega), (hle _ _).2 (show c.toUpper.toNat ≤ 90 by omega)⟩
    have hvalue : c.toUpper.toNat - 'A'.toNat = c.toNat - 'a'.toNat := by
      show c.toUpper.toNat - 65 = c.toNat - 97
      omega
    rw [digitValue?, digitValue?, if_neg (hdigit _ (by omega)), if_neg (hdigit _ (by omega)), if_neg hnot,
      if_pos hlarge, if_pos hsmall, hvalue]

theorem readDigitsFrom_map_toUpper (radix acc : Nat) (cs : List Char) :
    readDigitsFrom radix acc (cs.map Char.toUpper) = readDigitsFrom radix acc cs := by
  induction cs generalizing acc with
  | nil => rfl
  | cons c cs ih =>
    rw [List.map_cons, readDigitsFrom, readDigitsFrom, digitValue?_toUpper]
    simp only [ih]

theorem readDigits?_map_toUpper (radix : Nat) (cs : List Char) :
    readDigits? radix (cs.map Char.toUpper) = readDigits? radix cs := by
  cases cs with
  | nil => rfl
  | cons c cs => exact readDigitsFrom_map_toUpper radix 0 (c :: cs)

theorem readHex?_map_toUpper (bound : Nat) (cs : List Char) :
    readHex? bound (cs.map Char.toUpper) = readHex? bound cs := by
  have hplus : ∀ l, (∀ l', l ≠ '+' :: l') → readHex? bound l = (readDigits? 16 l).filter (· < bound) := by
    intro l hl
    rw [readHex?]
    exact hl
  by_cases h : ∃ l, cs = '+' :: l
  · obtain ⟨l, rfl⟩ := h
    exact congrArg (Option.filter (· < bound)) (readDigits?_map_toUpper 16 l)
  · have hcs : ∀ l, cs ≠ '+' :: l := fun l hl => h ⟨l, hl⟩
    have hmap : ∀ l, cs.map Char.toUpper ≠ '+' :: l := by
      intro l hl
      obtain ⟨x, xs, rfl, hx, -⟩ := List.map_eq_cons_iff.1 hl
      exact hcs xs (by rw [(toUpper_eq_iff (by decide)).1 hx])
    rw [hplus cs hcs, hplus _ hmap, readDigits?_map_toUpper]

end Haptics.Text
