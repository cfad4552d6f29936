import Haptics.Command.Payload
import Haptics.Proofs.Text.Blank
import Haptics.Proofs.Text.Boundary
import Haptics.Proofs.Text.Digits

/-!
# What a payload names

A payload names the number that its first word denotes, and none if that is no numeral or out of range
(`Command.parse?_eq_some_iff`). A blank of ASCII behind the number is a character of its own whatever octets
follow, so these cannot change what is named, however the number is spelled (`Command.parse?_grammar`).
-/

namespace Haptics.Command

open Text

variable {payload tail : Bytes} {w blanks : List Char} {n : Int} {v : Int64}

theorem parse?_of_isFirstWord (h : IsFirstWord (decodeLossy payload) w) : parse? payload = readInt64? w := by
  rw [parse?, firstWord?_eq_some_iff.2 h, Option.bind_some]

theorem parse?_eq_some_iff : parse? payload = some v ↔ ∃ w n,
    IsFirstWord (decodeLossy payload) w ∧ IsNumeral w n ∧ -2 ^ 63 ≤ n ∧ n < 2 ^ 63 ∧ v.toInt = n := by
  constructor
  · intro h
    obtain ⟨w, hw, hv⟩ := Option.bind_eq_some_iff.1 h
    exact ⟨w, v.toInt, firstWord?_eq_some_iff.1 hw, readInt64?_eq_some_iff.1 hv, v.le_toInt, v.toInt_lt, rfl⟩
  · rintro ⟨w, n, hw, hn, -, -, rfl⟩
    rw [parse?_of_isFirstWord hw]
    exact readInt64?_eq_some_iff.2 hn

/-! ### What follows the number -/

/-- The white space of ASCII. -/
def asciiBlanks : Bytes := [0x09, 0x0A, 0x0B, 0x0C, 0x0D, 0x20]

/-- Whether a number is over where these octets follow: there are none, or the first of them is a blank. -/
def EndsWord (tail : Bytes) : Prop := tail = [] ∨ ∃ b rest, tail = b :: rest ∧ b ∈ asciiBlanks

theorem ascii_of_mem_asciiBlanks {b : UInt8} (h : b ∈ asciiBlanks) :
    b.toNat < 0x80 ∧ isBlank (Char.ofNat b.toNat) = true := by
  have hall : asciiBlanks.all (fun b => b.toNat < 0x80 && isBlank (Char.ofNat b.toNat)) = true := by decide
  simpa using List.all_eq_true.1 hall b h

theorem EndsWord.begins (h : EndsWord tail) : Begins tail := by
  intro b hb
  rcases h with rfl | ⟨b', rest, rfl, hmem⟩
  · cases hb
  · obtain rfl := Option.some.inj hb
    rw [← Bool.not_eq_true, isTail_iff]
    have := (ascii_of_mem_asciiBlanks hmem).1
    omega

theorem EndsWord.head (h : EndsWord tail) : ∀ c, (decodeLossy tail).head? = some c → isBlank c = true := by
  intro c hc
  rcases h with rfl | ⟨b, rest, rfl, hmem⟩
  · rw [decodeLossy, letters] at hc
    cases hc
  · obtain ⟨hascii, hblank⟩ := ascii_of_mem_asciiBlanks hmem
    rw [decodeLossy, letters_cons (front_one hascii)] at hc
    obtain rfl := Option.some.inj hc
    exact hblank

theorem isFirstWord_encode (hb : ∀ c ∈ blanks, isBlank c = true) (hne : w ≠ []) (hw : ∀ c ∈ w, isBlank c = false)
    (ht : EndsWord tail) : IsFirstWord (decodeLossy (encode (blanks ++ w) ++ tail)) w := by
  rw [decodeLossy_append ht.begins, decodeLossy_encode]
  exact ⟨blanks, decodeLossy tail, rfl, hb, hne, hw, ht.head⟩

/-! ### How a number is spelled -/

/-- The signs that a number may have: a minus if it is negative, a plus or none if it is not. -/
def MaySign (n : Int) (sign : List Char) : Prop := if n < 0 then sign = ['-'] else sign = [] ∨ sign = ['+']

/-- A number with a sign, zeros and its decimal digits. -/
def spelling (sign : List Char) (zeros : Nat) (n : Int) : List Char :=
  sign ++ (List.replicate zeros '0' ++ Nat.toDigits 10 n.natAbs)

theorem isNumeral_spelling {sign : List Char} (hs : MaySign n sign) (zeros : Nat) :
    IsNumeral (spelling sign zeros n) n := by
  obtain ⟨hne, hdigits, hworth⟩ :=
    readDigits?_ten_iff.1 (readDigits?_zeros_toDigits (by decide) (by decide) zeros n.natAbs)
  refine ⟨sign, _, rfl, hne, hdigits, ?_⟩
  rw [hworth]
  unfold MaySign at hs
  split at hs
  · exact .inl ⟨hs, by omega⟩
  · exact .inr ⟨hs, by omega⟩

theorem isBlank_of_isNumeral (h : IsNumeral w n) : ∀ c ∈ w, isBlank c = false := by
  obtain ⟨sign, digits, rfl, -, hdigits, h⟩ := h
  have hsigns : ∀ c ∈ ['-', '+'], isBlank c = false :=
    List.forall_mem_cons.2 ⟨rfl, List.forall_mem_singleton.2 rfl⟩
  have hsign : sign ⊆ ['-', '+'] := by
    rcases h with ⟨rfl, -⟩ | ⟨rfl | rfl, -⟩ <;> decide
  intro c hc
  rcases List.mem_append.1 hc with hc | hc
  · exact hsigns c (hsign hc)
  · exact isBlank_of_isDigit (hdigits c hc)

theorem ne_nil_of_isNumeral (h : IsNumeral w n) : w ≠ [] := by
  obtain ⟨sign, digits, rfl, hne, -⟩ := h
  exact List.append_ne_nil_of_right_ne_nil sign hne

theorem parse?_spelling {sign : List Char} (hb : ∀ c ∈ blanks, isBlank c = true) (hs : MaySign n sign)
    (ht : EndsWord tail) (zeros : Nat) : parse? (encode (blanks ++ spelling sign zeros n) ++ tail) = int64? n := by
  have hnumeral := isNumeral_spelling hs zeros
  rw [parse?_of_isFirstWord
    (isFirstWord_encode hb (ne_nil_of_isNumeral hnumeral) (isBlank_of_isNumeral hnumeral) ht)]
  exact hnumeral.readInt64?_eq

/-- A payload names a number exactly if its first word, when octets that are no character are read as U+FFFD, is
a numeral of that number and the number is in the range of 64 bits. So a number in that range is named with
whatever blanks and zeros before it, with or without a plus, and with whatever octets behind a blank of ASCII; a
number out of it is not named however it is spelled. -/
theorem parse?_grammar :
    (∀ (payload : Bytes) (v : Int64), parse? payload = some v ↔ ∃ w n,
      IsFirstWord (decodeLossy payload) w ∧ IsNumeral w n ∧ -2 ^ 63 ≤ n ∧ n < 2 ^ 63 ∧ v.toInt = n) ∧
    ∀ (blanks sign : List Char) (zeros : Nat) (n : Int) (tail : Bytes),
      (∀ c ∈ blanks, isBlank c = true) → MaySign n sign → EndsWord tail →
      let payload := encode (blanks ++ spelling sign zeros n) ++ tail
      (∀ v : Int64, v.toInt = n → parse? payload = some v) ∧
        (n < -2 ^ 63 ∨ 2 ^ 63 ≤ n → parse? payload = none) := by
  refine ⟨fun payload v => parse?_eq_some_iff, fun blanks sign zeros n tail hb hs ht => ?_⟩
  intro payload
  have hparse : parse? payload = int64? n := parse?_spelling hb hs ht zeros
  rw [hparse]
  exact ⟨fun v hv => int64?_eq_some_iff.2 hv, int64?_of_out⟩

/-- The least number with zeros before it, between blanks, and the one below it before octets that are no text. -/
theorem parse?_grammar_least :
    let tail : Bytes := [0x0A, 0xFF, 0xC3, 0x2D]
    let payload (n : Int) : Bytes := encode ([Char.ofNat 0x3000, ' '] ++ spelling ['-'] 2 n) ++ tail
    EndsWord tail ∧ MaySign (-2 ^ 63) ['-'] ∧ MaySign (-2 ^ 63 - 1) ['-'] ∧
      parse? (payload (-2 ^ 63)) = some Int64.minValue ∧ parse? (payload (-2 ^ 63 - 1)) = none := by
  intro tail payload
  have hblanks : ∀ c ∈ [Char.ofNat 0x3000, ' '], isBlank c = true :=
    List.forall_mem_cons.2 ⟨rfl, List.forall_mem_singleton.2 rfl⟩
  have htail : EndsWord tail := .inr ⟨0x0A, _, rfl, by decide⟩
  have hleast : MaySign (-2 ^ 63) ['-'] := rfl
  have hbelow : MaySign (-2 ^ 63 - 1) ['-'] := rfl
  refine ⟨htail, hleast, hbelow, ?_, ?_⟩
  · exact (parse?_grammar.2 _ _ 2 _ tail hblanks hleast htail).1 Int64.minValue rfl
  · exact (parse?_grammar.2 _ _ 2 _ tail hblanks hbelow htail).2 (by decide)

end Haptics.Command
