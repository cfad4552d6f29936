import Haptics.Proofs.Text.Utf8
import Haptics.Text.Blank

/-!
# Where characters begin

An octet that continues no character begins a new one, whatever stands before it. So a text can be decoded
in parts that are cut there (`letters_append`), in particular before the octets of any character that was read
(`exists_of_decodeLossy_eq`), and its first word is read without what follows the white space behind it
(`firstWord?_decodeLossy`).
-/

namespace Haptics.Text

variable {b : UInt8} {bs bs' : Bytes}

/-- Whether a byte string goes on with a character of its own. -/
def Begins (bs : Bytes) : Prop := ∀ b, bs.head? = some b → isTail b = false

theorem tails_append (h : Begins bs') (owed acc used : Nat) (bs : Bytes) :
    tails owed acc used (bs ++ bs') = tails owed acc used bs := by
  induction owed generalizing acc used bs with
  | zero => rfl
  | succ owed ih =>
    cases bs with
    | nil =>
      rcases bs' with _ | ⟨c, cs⟩
      · rfl
      · have hc : isTail c = false := h c rfl
        simp only [List.nil_append, tails, hc, Bool.false_eq_true, ↓reduceIte]
    | cons c cs =>
      simp only [List.cons_append, tails, ih]

theorem tails_snd_le (owed acc used : Nat) (bs : Bytes) :
    (tails owed acc used bs).2 ≤ used + bs.length := by
  induction owed generalizing acc used bs with
  | zero => exact Nat.le_add_right used _
  | succ owed ih =>
    cases bs with
    | nil => exact Nat.le_refl used
    | cons c cs =>
      rw [tails]
      split
      · have := ih (acc * 64 + tailBits c) (used + 1) cs
        rw [List.length_cons]
        omega
      · exact Nat.le_add_right used _

theorem front_append (h : Begins bs') (b : UInt8) (bs : Bytes) : front b (bs ++ bs') = front b bs := by
  by_cases hb : b < 0x80
  · simp only [front, if_pos hb]
  rcases hl : lead? b with _ | ⟨owed, low, high⟩
  · simp only [front, if_neg hb, hl]
  cases bs with
  | cons c cs => simp only [List.cons_append, front, if_neg hb, hl, tails_append h]
  | nil =>
    rcases bs' with _ | ⟨c, cs⟩
    · rfl
    have hout : (low ≤ c && c ≤ high) = false := by
      rw [← Bool.not_eq_true]
      intro hin
      have ht := (lead?_eq_some hl hin).1
      rw [h c rfl] at ht
      cases ht
    simp only [List.nil_append, front, if_neg hb, hl, hout, Bool.false_eq_true, ↓reduceIte]

theorem front_snd_le (b : UInt8) (bs : Bytes) : (front b bs).2 ≤ bs.length := by
  by_cases hb : b < 0x80
  · simp only [front, if_pos hb, Nat.zero_le]
  rcases hl : lead? b with _ | ⟨owed, low, high⟩
  · simp only [front, if_neg hb, hl, Nat.zero_le]
  cases bs with
  | nil => simp only [front, if_neg hb, hl, Nat.zero_le]
  | cons c cs =>
    simp only [front, if_neg hb, hl]
    split
    · have := tails_snd_le (owed - 1) (b.toNat % (1 <<< (6 - owed)) * 64 + tailBits c) 1 cs
      rw [List.length_cons]
      omega
    · exact Nat.zero_le _

/-- Characters do not reach across a place where one begins. -/
theorem letters_append (h : Begins bs') (bs : Bytes) : letters (bs ++ bs') = letters bs ++ letters bs' := by
  -- by length, since a character takes several octets off the front
  induction hl : bs.length using Nat.strongRecOn generalizing bs with
  | ind l ih =>
    cases bs with
    | nil => rw [letters, List.nil_append, List.nil_append]
    | cons b bs =>
      rcases hf : front b bs with ⟨c?, used⟩
      have hused : used ≤ bs.length := by
        have hle := front_snd_le b bs
        rwa [hf] at hle
      have hlt : (bs.drop used).length < l := by
        rw [← hl, List.length_drop, List.length_cons]
        omega
      have hf' : front b (bs ++ bs') = (c?, used) := (front_append h b bs).trans hf
      rw [List.cons_append, letters_cons hf', letters_cons hf, List.cons_append,
        List.drop_append_of_le_length hused, ih _ hlt _ rfl]

theorem decodeLossy_append (h : Begins bs') (bs : Bytes) :
    decodeLossy (bs ++ bs') = decodeLossy bs ++ decodeLossy bs' := by
  rw [decodeLossy, letters_append h, List.map_append]
  rfl

theorem begins_encodeChar (c : Char) (rest : Bytes) : Begins (String.utf8EncodeChar c ++ rest) := by
  intro b hb
  have htail : ¬ (0x80 ≤ b.toNat ∧ b.toNat ≤ 0xBF) := by
    simp only [String.utf8EncodeChar] at hb
    generalize c.val.toNat = v at hb
    -- one case for each length
    repeat' split at hb
    all_goals
      obtain rfl := Option.some.inj hb
      rw [toNat_ofNat (by omega)]
      omega
  rw [← Bool.not_eq_true, isTail_iff]
  exact htail

theorem decodeLossy_encodeChar (bs : Bytes) (c : Char) (rest : Bytes) :
    decodeLossy (bs ++ String.utf8EncodeChar c ++ rest) = decodeLossy bs ++ c :: decodeLossy rest := by
  rw [List.append_assoc, decodeLossy_append (begins_encodeChar c rest)]
  simp only [decodeLossy, letters_encodeChar, List.map_cons, Option.getD_some]

theorem decodeLossy_encode (cs : List Char) : decodeLossy (encode cs) = cs := by
  rw [decodeLossy, letters_encode, List.map_map]
  exact List.map_id _

/-! ### The octets of one character -/

/-- The first letter divides the octets into its own and those of the letters behind it. -/
theorem exists_of_letters_eq_cons {l : Option Char} {behind : List (Option Char)}
    (h : letters bs = l :: behind) :
    ∃ octets rest, bs = octets ++ rest ∧ letters rest = behind ∧
      ∀ c, l = some c → octets = String.utf8EncodeChar c := by
  cases bs with
  | nil =>
    rw [letters] at h
    cases h
  | cons b bs =>
    rcases hf : front b bs with ⟨c?, used⟩
    rw [letters_cons hf] at h
    obtain ⟨rfl, hbehind⟩ := List.cons.inj h
    refine ⟨b :: bs.take used, bs.drop used, ?_, hbehind, ?_⟩
    · rw [List.cons_append, List.take_append_drop]
    · rintro c rfl
      exact (encodeChar_of_front hf).symm

theorem exists_of_letters_eq_append {before behind : List (Option Char)} (h : letters bs = before ++ behind) :
    ∃ octets rest, bs = octets ++ rest ∧ letters rest = behind := by
  induction before generalizing bs with
  | nil => exact ⟨[], bs, rfl, h⟩
  | cons l before ih =>
    obtain ⟨octets, rest, rfl, htail, -⟩ := exists_of_letters_eq_cons h
    obtain ⟨octets', rest, rfl, hbehind⟩ := ih htail
    exact ⟨octets ++ octets', rest, (List.append_assoc _ _ _).symm, hbehind⟩

/-- A character that is no replacement divides the octets that it was read from. -/
theorem exists_of_decodeLossy_eq {c : Char} {before behind : List Char} (hc : c ≠ replacement)
    (h : decodeLossy bs = before ++ c :: behind) :
    ∃ octets rest, bs = octets ++ String.utf8EncodeChar c ++ rest ∧ decodeLossy octets = before := by
  obtain ⟨ls, ls', hls, rfl, hc'⟩ := List.map_eq_append_iff.1 h
  obtain ⟨l, ls', rfl, hl, rfl⟩ := List.map_eq_cons_iff.1 hc'
  obtain rfl : l = some c := by
    cases l with
    | none => exact absurd hl.symm hc
    | some d => exact congrArg some hl
  obtain ⟨octets, rest, rfl, hrest⟩ := exists_of_letters_eq_append hls
  obtain ⟨own, rest, rfl, -, hown⟩ := exists_of_letters_eq_cons hrest
  obtain rfl := hown c rfl
  refine ⟨octets, rest, (List.append_assoc _ _ _).symm, ?_⟩
  rw [letters_append (begins_encodeChar c rest), hrest] at hls
  rw [decodeLossy, List.append_cancel_right hls]

/-! ### The first word -/

/-- White space ends the first word. -/
theorem firstWord?_append {cs rest : List Char} {c : Char} (hc : isBlank c = true)
    (hw : firstWord? cs ≠ none) : firstWord? (cs ++ c :: rest) = firstWord? cs := by
  have htrim : trimLeft cs ≠ [] := by
    intro he
    refine hw ?_
    rw [firstWord?, he]
    rfl
  have hword : (trimLeft cs ++ c :: rest).takeWhile (!isBlank ·) = (trimLeft cs).takeWhile (!isBlank ·) := by
    rw [List.takeWhile_append, List.takeWhile_cons_of_neg (by simp [hc]), List.append_nil]
    split
    · rename_i hlen
      exact ((List.takeWhile_prefix _).eq_of_length hlen).symm
    · rfl
  have hdrop : trimLeft (cs ++ c :: rest) = trimLeft cs ++ c :: rest := by
    rw [trimLeft, List.dropWhile_append, if_neg (by simpa [trimLeft] using htrim)]
    rfl
  rw [firstWord?, firstWord?, hdrop, hword]

theorem firstWord?_decodeLossy {c : Char} (hc : isBlank c = true)
    (hw : firstWord? (decodeLossy bs) ≠ none) (rest : Bytes) :
    firstWord? (decodeLossy (bs ++ String.utf8EncodeChar c ++ rest)) = firstWord? (decodeLossy bs) := by
  rw [decodeLossy_encodeChar, firstWord?_append hc hw]

end Haptics.Text
