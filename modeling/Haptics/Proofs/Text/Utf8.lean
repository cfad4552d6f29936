import Haptics.Text.Utf8
import Mathlib.Data.List.Basic

/-!
# Reading what was encoded

The octets of a text are read back as its characters (`letters_encode`), and octets that are read as a
character are its encoding (`encodeChar_of_front`).
-/

namespace Haptics.Text

theorem lead?_eq (b : UInt8) : lead? b =
    if 0xC2 ≤ b.toNat ∧ b.toNat ≤ 0xDF then some (1, 0x80, 0xBF)
    else if b.toNat = 0xE0 then some (2, 0xA0, 0xBF)
    else if b.toNat = 0xED then some (2, 0x80, 0x9F)
    else if 0xE1 ≤ b.toNat ∧ b.toNat ≤ 0xEF then some (2, 0x80, 0xBF)
    else if b.toNat = 0xF0 then some (3, 0x90, 0xBF)
    else if 0xF1 ≤ b.toNat ∧ b.toNat ≤ 0xF3 then some (3, 0x80, 0xBF)
    else if b.toNat = 0xF4 then some (3, 0x80, 0x8F)
    else none := by
  simp only [lead?, Bool.and_eq_true, decide_eq_true_eq, beq_iff_eq, UInt8.le_iff_toNat_le, ← UInt8.toNat_inj]
  rfl

variable {b c d e : UInt8} {rest : Bytes}

theorem isTail_iff : isTail b = true ↔ 0x80 ≤ b.toNat ∧ b.toNat ≤ 0xBF := by
  simp only [isTail, Bool.and_eq_true, decide_eq_true_eq, UInt8.le_iff_toNat_le]
  rfl

theorem not_single (hb : 0x80 ≤ b.toNat) : ¬ b < 0x80 := by
  rw [UInt8.lt_iff_toNat_lt]
  exact Nat.not_lt.2 hb

theorem front_one (hb : b.toNat < 0x80) : front b rest = (some (Char.ofNat b.toNat), 0) := by
  have hb : b < 0x80 := UInt8.lt_iff_toNat_lt.2 hb
  simp only [front, if_pos hb]

theorem front_two (hb : 0xC2 ≤ b.toNat) (hb' : b.toNat ≤ 0xDF) (hc : isTail c = true) :
    front b (c :: rest) = (some (Char.ofNat (b.toNat % 32 * 64 + c.toNat % 64)), 1) := by
  have hlt : ¬ b < 0x80 := not_single (by omega)
  have hl : lead? b = some (1, 0x80, 0xBF) := by rw [lead?_eq, if_pos ⟨hb, hb'⟩]
  have hc : (0x80 ≤ c && c ≤ 0xBF) = true := hc
  simp only [front, if_neg hlt, hl, hc, ↓reduceIte, tailBits]
  rfl

theorem front_three (hb : 0xE0 ≤ b.toNat) (hb' : b.toNat ≤ 0xEF) (hc : isTail c = true)
    (h₁ : b.toNat = 0xE0 → 0xA0 ≤ c.toNat) (h₂ : b.toNat = 0xED → c.toNat ≤ 0x9F) (hd : isTail d = true) :
    front b (c :: d :: rest) =
      (some (Char.ofNat ((b.toNat % 16 * 64 + c.toNat % 64) * 64 + d.toNat % 64)), 2) := by
  have hlt : ¬ b < 0x80 := not_single (by omega)
  obtain ⟨low, high, hl, hin⟩ : ∃ low high, lead? b = some (2, low, high) ∧
      (low ≤ c && c ≤ high) = true := by
    rw [isTail_iff] at hc
    rw [lead?_eq, if_neg (by omega)]
    simp only [Bool.and_eq_true, decide_eq_true_eq, UInt8.le_iff_toNat_le]
    split
    · exact ⟨_, _, rfl, h₁ ‹_›, hc.2⟩
    · split
      · exact ⟨_, _, rfl, hc.1, h₂ ‹_›⟩
      · rw [if_pos (by omega)]
        exact ⟨_, _, rfl, hc.1, hc.2⟩
  simp only [front, if_neg hlt, hl, hin, hd, ↓reduceIte, tails, tailBits]
  rfl

theorem front_four (hb : 0xF0 ≤ b.toNat) (hb' : b.toNat ≤ 0xF4) (hc : isTail c = true)
    (h₁ : b.toNat = 0xF0 → 0x90 ≤ c.toNat) (h₂ : b.toNat = 0xF4 → c.toNat ≤ 0x8F) (hd : isTail d = true)
    (he : isTail e = true) : front b (c :: d :: e :: rest) =
      (some (Char.ofNat (((b.toNat % 8 * 64 + c.toNat % 64) * 64 + d.toNat % 64) * 64 + e.toNat % 64)), 3) := by
  have hlt : ¬ b < 0x80 := not_single (by omega)
  obtain ⟨low, high, hl, hin⟩ : ∃ low high, lead? b = some (3, low, high) ∧
      (low ≤ c && c ≤ high) = true := by
    rw [isTail_iff] at hc
    rw [lead?_eq, if_neg (by omega), if_neg (by omega), if_neg (by omega), if_neg (by omega)]
    simp only [Bool.and_eq_true, decide_eq_true_eq, UInt8.le_iff_toNat_le]
    split
    · exact ⟨_, _, rfl, h₁ ‹_›, hc.2⟩
    · split
      · exact ⟨_, _, rfl, hc.1, hc.2⟩
      · rw [if_pos (by omega)]
        exact ⟨_, _, rfl, hc.1, h₂ (by omega)⟩
  simp only [front, if_neg hlt, hl, hin, hd, he, ↓reduceIte, tails, tailBits]
  rfl

theorem letters_cons {n : Nat} {c? : Option Char} (h : front b rest = (c?, n)) :
    letters (b :: rest) = c? :: letters (rest.drop n) := by
  rw [letters, h]

theorem toNat_ofNat {n : Nat} (h : n < 256) : (UInt8.ofNat n).toNat = n := by
  rw [UInt8.toNat_ofNat']; omega

theorem toNat_tail (n : Nat) : (UInt8.ofNat (n % 64 + 128)).toNat = n % 64 + 128 := toNat_ofNat (by omega)

theorem isTail_tail (n : Nat) : isTail (UInt8.ofNat (n % 64 + 128)) = true := by
  rw [isTail_iff, toNat_tail]; omega

theorem letters_encodeChar (c : Char) (rest : Bytes) :
    letters (String.utf8EncodeChar c ++ rest) = some c :: letters rest := by
  have hc : Char.ofNat c.val.toNat = c := Char.ofNat_toNat c
  have hvalid : c.val.toNat < 55296 ∨ 57343 < c.val.toNat ∧ c.val.toNat < 1114112 := c.valid
  simp only [String.utf8EncodeChar]
  generalize c.val.toNat = v at hc hvalid
  subst hc
  split
  · have hlead : (UInt8.ofNat v).toNat = v := toNat_ofNat (by omega)
    rw [List.singleton_append, letters_cons (front_one (by omega)), hlead, List.drop_zero]
  split
  · have hlead : (UInt8.ofNat (v / 64 % 32 + 192)).toNat = v / 64 % 32 + 192 := toNat_ofNat (by omega)
    have hv : (v / 64 % 32 + 192) % 32 * 64 + (v % 64 + 128) % 64 = v := by omega
    rw [List.cons_append, List.singleton_append,
      letters_cons (front_two (by omega) (by omega) (isTail_tail v)), hlead, toNat_tail, hv]
    rfl
  split
  -- the bounds on the second octet keep overlong forms and surrogates out, and `v` is neither
  · have hlead : (UInt8.ofNat (v / 4096 % 16 + 224)).toNat = v / 4096 % 16 + 224 := toNat_ofNat (by omega)
    have hsecond := toNat_tail (v / 64)
    have hv : ((v / 4096 % 16 + 224) % 16 * 64 + (v / 64 % 64 + 128) % 64) * 64 + (v % 64 + 128) % 64 = v := by
      omega
    rw [List.cons_append, List.cons_append, List.singleton_append,
      letters_cons (front_three (by omega) (by omega) (isTail_tail (v / 64)) (by omega) (by omega)
        (isTail_tail v)), hlead, toNat_tail, toNat_tail, hv]
    rfl
  · have hlead : (UInt8.ofNat (v / 262144 % 8 + 240)).toNat = v / 262144 % 8 + 240 := toNat_ofNat (by omega)
    have hsecond := toNat_tail (v / 4096)
    have hv : (((v / 262144 % 8 + 240) % 8 * 64 + (v / 4096 % 64 + 128) % 64) * 64 +
        (v / 64 % 64 + 128) % 64) * 64 + (v % 64 + 128) % 64 = v := by
      omega
    rw [List.cons_append, List.cons_append, List.cons_append, List.singleton_append,
      letters_cons (front_four (by omega) (by omega) (isTail_tail (v / 4096)) (by omega) (by omega)
        (isTail_tail (v / 64)) (isTail_tail v)), hlead, toNat_tail, toNat_tail, toNat_tail, hv]
    rfl

theorem letters_encode (cs : List Char) : letters (encode cs) = cs.map some := by
  induction cs with
  | nil => rw [encode, List.flatMap_nil, letters, List.map_nil]
  | cons c cs ih =>
    rw [encode, List.flatMap_cons, letters_encodeChar, List.map_cons]
    exact congrArg _ ih

/-! ### The octets that were read -/

theorem val_ofNat {v : Nat} (h : v < 55296 ∨ 57343 < v ∧ v < 1114112) : (Char.ofNat v).val.toNat = v := by
  rw [Char.ofNat, dif_pos h]
  rfl

theorem ofNat_eq {n : Nat} (h : n = b.toNat) : UInt8.ofNat n = b := by
  rw [h, UInt8.ofNat_toNat]

theorem encodeChar_one (hb : b.toNat < 0x80) : String.utf8EncodeChar (Char.ofNat b.toNat) = [b] := by
  simp only [String.utf8EncodeChar]
  rw [val_ofNat (by omega), if_pos (by omega), UInt8.ofNat_toNat]

theorem encodeChar_two (hb : 0xC2 ≤ b.toNat) (hb' : b.toNat ≤ 0xDF) (hc : isTail c = true) :
    String.utf8EncodeChar (Char.ofNat (b.toNat % 32 * 64 + c.toNat % 64)) = [b, c] := by
  rw [isTail_iff] at hc
  simp only [String.utf8EncodeChar]
  rw [val_ofNat (by omega), if_neg (by omega), if_pos (by omega), ofNat_eq (b := b) (by omega),
    ofNat_eq (b := c) (by omega)]

theorem encodeChar_three (hb : 0xE0 ≤ b.toNat) (hb' : b.toNat ≤ 0xEF) (hc : isTail c = true)
    (h₁ : b.toNat = 0xE0 → 0xA0 ≤ c.toNat) (h₂ : b.toNat = 0xED → c.toNat ≤ 0x9F) (hd : isTail d = true) :
    String.utf8EncodeChar (Char.ofNat ((b.toNat % 16 * 64 + c.toNat % 64) * 64 + d.toNat % 64)) =
      [b, c, d] := by
  rw [isTail_iff] at hc hd
  simp only [String.utf8EncodeChar]
  rw [val_ofNat (by omega), if_neg (by omega), if_neg (by omega), if_pos (by omega),
    ofNat_eq (b := b) (by omega), ofNat_eq (b := c) (by omega), ofNat_eq (b := d) (by omega)]

theorem encodeChar_four (hb : 0xF0 ≤ b.toNat) (hb' : b.toNat ≤ 0xF4) (hc : isTail c = true)
    (h₁ : b.toNat = 0xF0 → 0x90 ≤ c.toNat) (h₂ : b.toNat = 0xF4 → c.toNat ≤ 0x8F) (hd : isTail d = true)
    (he : isTail e = true) :
    String.utf8EncodeChar (Char.ofNat (((b.toNat % 8 * 64 + c.toNat % 64) * 64 + d.toNat % 64) * 64 +
      e.toNat % 64)) = [b, c, d, e] := by
  rw [isTail_iff] at hc hd he
  simp only [String.utf8EncodeChar]
  rw [val_ofNat (by omega), if_neg (by omega), if_neg (by omega), if_neg (by omega),
    ofNat_eq (b := b) (by omega), ofNat_eq (b := c) (by omega), ofNat_eq (b := d) (by omega),
    ofNat_eq (b := e) (by omega)]

/-- What a first octet says of the length of a character and of the octet behind it. -/
theorem lead?_eq_some {owed : Nat} {low high : UInt8} (h : lead? b = some (owed, low, high))
    (hc : (low ≤ c && c ≤ high) = true) : isTail c = true ∧
      (owed = 1 ∧ 0xC2 ≤ b.toNat ∧ b.toNat ≤ 0xDF ∨
        owed = 2 ∧ 0xE0 ≤ b.toNat ∧ b.toNat ≤ 0xEF ∧ (b.toNat = 0xE0 → 0xA0 ≤ c.toNat) ∧
          (b.toNat = 0xED → c.toNat ≤ 0x9F) ∨
        owed = 3 ∧ 0xF0 ≤ b.toNat ∧ b.toNat ≤ 0xF4 ∧ (b.toNat = 0xF0 → 0x90 ≤ c.toNat) ∧
          (b.toNat = 0xF4 → c.toNat ≤ 0x8F)) := by
  simp only [Bool.and_eq_true, decide_eq_true_eq, UInt8.le_iff_toNat_le] at hc
  rw [isTail_iff]
  rw [lead?_eq] at h
  repeat' split at h
  all_goals cases h
  all_goals
    simp only [UInt8.reduceToNat] at hc
    omega

/-- The tails that complete a character are all there, and each adds its bits. -/
theorem exists_of_tails {owed acc used n : Nat} {x : Char} {bs : Bytes}
    (h : tails owed acc used bs = (some x, n)) :
    ∃ cs rest, bs = cs ++ rest ∧ cs.length = owed ∧ n = used + owed ∧ (∀ c ∈ cs, isTail c = true) ∧
      x = Char.ofNat (cs.foldl (fun acc c => acc * 64 + tailBits c) acc) := by
  induction owed generalizing acc used bs with
  | zero =>
    cases h
    exact ⟨[], bs, rfl, rfl, rfl, by simp, rfl⟩
  | succ owed ih =>
    cases bs with
    | nil => cases h
    | cons c bs =>
      rw [tails] at h
      split at h
      next hc =>
        obtain ⟨cs, rest, rfl, hlen, rfl, hcs, rfl⟩ := ih h
        refine ⟨c :: cs, rest, rfl, by rw [List.length_cons, hlen], by omega, ?_, rfl⟩
        exact List.forall_mem_cons.2 ⟨hc, hcs⟩
      next => cases h

theorem encodeChar_of_front {x : Char} {n : Nat} (h : front b rest = (some x, n)) :
    String.utf8EncodeChar x = b :: rest.take n := by
  by_cases hb : b.toNat < 0x80
  · rw [front_one hb] at h
    cases h
    exact encodeChar_one hb
  have hlt : ¬ b < 0x80 := not_single (by omega)
  rcases hl : lead? b with _ | ⟨owed, low, high⟩
  · simp only [front, if_neg hlt, hl] at h
    cases h
  rcases rest with _ | ⟨c, rest⟩
  · simp only [front, if_neg hlt, hl] at h
    cases h
  simp only [front, if_neg hlt, hl] at h
  split at h
  next hin =>
    obtain ⟨cs, rest, rfl, hlen, rfl, hcs, rfl⟩ := exists_of_tails h
    obtain ⟨hc, ⟨rfl, hb, hb'⟩ | ⟨rfl, hb, hb', h₁, h₂⟩ | ⟨rfl, hb, hb', h₁, h₂⟩⟩ := lead?_eq_some hl hin
    · obtain rfl := List.length_eq_zero_iff.1 hlen
      exact encodeChar_two hb hb' hc
    · obtain ⟨d, rfl⟩ := List.length_eq_one_iff.1 hlen
      exact encodeChar_three hb hb' hc h₁ h₂ (hcs d (by simp))
    · obtain ⟨d, e, rfl⟩ := List.length_eq_two.1 hlen
      exact encodeChar_four hb hb' hc h₁ h₂ (hcs d (by simp)) (hcs e (by simp))
  next => cases h

end Haptics.Text
