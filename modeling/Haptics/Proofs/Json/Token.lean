import Haptics.Json.Reader
import Haptics.Proofs.Json.Value

/-!
# Reading tokens

Strings and whole numbers are read as they were written, with any text behind them. A number has no
closing mark, so what stands behind it must not continue it: `Closes` is what may follow a value.
-/

namespace Haptics.Json

open Text

/-! ### Strings -/

theorem digitValue?_hexDigit {d : Nat} (h : d < 16) : digitValue? 16 (hexDigit d) = some d := by
  revert d; decide

theorem readDigits?_showUnit {u : Nat} (h : u < 65536) :
    readDigits? 16 [hexDigit (u / 4096 % 16), hexDigit (u / 256 % 16), hexDigit (u / 16 % 16),
      hexDigit (u % 16)] = some u := by
  have hd (n : Nat) : digitValue? 16 (hexDigit (n % 16)) = some (n % 16) :=
    digitValue?_hexDigit (Nat.mod_lt n (by decide))
  simp only [readDigits?, readDigitsFrom, hd, Option.bind_some]
  congr 1; omega

theorem readString_showUnit {u : Nat} (h : u < 65536) (ls : Letters) :
    readString ((showUnit u).map some ++ ls) =
      (readString ls).map fun (ps, rest) => (.unit (UInt16.ofNat u) :: ps, rest) := by
  simp only [showUnit, List.map_cons, List.map_nil, List.cons_append, List.nil_append, readString,
    readDigits?_showUnit h, Option.bind_some]

theorem readString_plain {c : Char} (hc : ¬ c < ' ') (hquote : c ≠ '"') (hslash : c ≠ '\\') (ls : Letters) :
    readString (some c :: ls) = (readString ls).map fun (ps, rest) => (.char c :: ps, rest) := by
  rw [readString.eq_def]
  split <;> grind

theorem readString_showChar (c : Char) (ls : Letters) :
    readString ((showChar c).map some ++ ls) =
      (readString ls).map fun (ps, rest) => ((Piece.char c).reread :: ps, rest) := by
  rw [showChar.eq_def]
  split
  case h_8 _ hquote hslash h8 hc hn hr ht =>
    have hshort : c ∉ shortControls := by simpa [shortControls] using And.intro h8 ⟨hc, hn, hr, ht⟩
    simp only [Piece.reread, hshort, not_false_eq_true, and_true]
    split
    · rename_i hlt
      have hlt : c.toNat < 32 := hlt
      exact readString_showUnit (by omega) ls
    · rename_i hge
      exact readString_plain hge hquote hslash ls
  all_goals rfl

theorem readString_show (p : Piece) (ls : Letters) :
    readString (p.show.map some ++ ls) =
      (readString ls).map fun (ps, rest) => (p.reread :: ps, rest) := by
  cases p with
  | char c => exact readString_showChar c ls
  | unit u =>
    rw [Piece.show, readString_showUnit u.toNat_lt, UInt16.ofNat_toNat]
    rfl
  | garbled => rfl

/-- The text of a string behind its opening quote. -/
theorem readString_showString (s : List Piece) (ls : Letters) :
    readString ((s.flatMap Piece.show ++ ['"']).map some ++ ls) = some (s.map Piece.reread, ls) := by
  induction s with
  | nil => rfl
  | cons p s ih =>
    rw [List.flatMap_cons, List.append_assoc, List.map_append, List.append_assoc, readString_show, ih]
    rfl

/-! ### Whole numbers -/

/-- Whether a text goes on as it may behind a value. -/
def Closes (ls : Letters) : Prop := ∀ l ∈ ls.head?, l ∈ [' ', '\t', '\n', '\r', ',', ']', '}'].map some

theorem closes_nil : Closes [] := by simp [Closes]

theorem Closes.not_continued {l : Option Char} {ls : Letters} (h : Closes (l :: ls)) :
    isDigit l = false ∧ l ≠ '.' ∧ l ≠ 'e' ∧ l ≠ 'E' := by
  have hall : ∀ l ∈ [' ', '\t', '\n', '\r', ',', ']', '}'].map some,
      isDigit l = false ∧ l ≠ some '.' ∧ l ≠ some 'e' ∧ l ≠ some 'E' := by decide
  exact hall l (h l rfl)

variable {rest : Letters} {ds : List Char}

theorem takeWhile_isDigit (hds : ∀ c ∈ ds, c.isDigit = true) (h : Closes rest) :
    (ds.map some ++ rest).takeWhile isDigit = ds.map some ∧ (ds.map some ++ rest).dropWhile isDigit = rest := by
  induction ds with
  | nil =>
    cases rest with
    | nil => exact ⟨rfl, rfl⟩
    | cons l ls => simp [h.not_continued.1]
  | cons c ds ih =>
    have hc : isDigit (some c) = true := hds c List.mem_cons_self
    simpa [hc] using ih fun c hc => hds c (List.mem_cons_of_mem _ hc)

theorem readDigits_append (hne : ds ≠ []) (hds : ∀ c ∈ ds, c.isDigit = true) (h : Closes rest) :
    readDigits (ds.map some ++ rest) = some (ds, rest) := by
  obtain ⟨htake, hdrop⟩ := takeWhile_isDigit hds h
  rw [readDigits, htake, hdrop]
  cases ds with
  | nil => exact absurd rfl hne
  | cons c ds => simp

/-- The first letter behind `decimal n` is of `decimal n`, which is not empty. -/
theorem head?_of_append {n : Nat} {c : Char} {ls : Letters}
    (h : (decimal n).map some ++ rest = some c :: ls) : (decimal n).head? = some c := by
  obtain ⟨d, ds, hd⟩ := List.exists_cons_of_ne_nil (decimal_ne_nil n)
  rw [hd, List.map_cons, List.cons_append, List.cons.injEq, Option.some.injEq] at h
  rw [hd, List.head?_cons, h.1]

theorem readWhole_decimal (n : Nat) (h : Closes rest) :
    readWhole ((decimal n).map some ++ rest) = some (decimal n, rest) := by
  by_cases hn : n = 0
  · subst hn
    have hrest : (rest.head?.all fun l => !isDigit l) = true := by
      cases rest with
      | nil => rfl
      | cons l ls => simp [h.not_continued.1]
    have hzero : decimal 0 = ['0'] := by rw [decimal]; rfl
    rw [hzero, List.map_singleton, List.singleton_append, readWhole, if_pos hrest]
  · rw [readWhole.eq_def]
    split
    · rename_i heq
      exact absurd (head?_of_append heq) (head?_decimal hn)
    · exact readDigits_append (decimal_ne_nil n) (fun c => isDigit_of_mem_decimal) h

theorem readFraction_of_closes (h : Closes rest) : readFraction rest = some (([], false), rest) := by
  cases rest with
  | nil => rfl
  | cons l ls =>
    rw [readFraction.eq_def]
    split
    · rename_i heq
      exact absurd (List.cons.inj heq).1 h.not_continued.2.1
    · rfl

theorem readExponent_of_closes (h : Closes rest) : readExponent rest = some (none, rest) := by
  cases rest with
  | nil => rfl
  | cons l ls =>
    have hl : ¬ (l = 'e' ∨ l = 'E') := fun hl => hl.elim h.not_continued.2.2.1 h.not_continued.2.2.2
    rw [readExponent.eq_def]
    simp only [if_neg hl]

theorem readUnsigned_decimal (negative : Bool) (n : Nat) (h : Closes rest) :
    readUnsigned negative ((decimal n).map some ++ rest) =
      some (⟨negative, decimal n, [], false, none⟩, rest) := by
  simp only [readUnsigned, readWhole_decimal n h, readFraction_of_closes h, readExponent_of_closes h,
    Option.bind_some, Option.map_some]

theorem readNumeral_ofInt (n : Int) (h : Closes rest) :
    readNumeral ((Numeral.ofInt n).show.map some ++ rest) = some (Numeral.ofInt n, rest) := by
  have hu (negative : Bool) := readUnsigned_decimal negative n.natAbs h
  by_cases hn : n < 0
  · simpa [Numeral.show, Numeral.ofInt, hn, readNumeral] using hu true
  · simp only [Numeral.show, Numeral.ofInt, hn, decide_false, Bool.false_eq_true, ↓reduceIte, List.nil_append,
      List.append_nil]
    rw [readNumeral.eq_def]
    split
    · rename_i heq
      have hminus := isDigit_of_mem_decimal (List.mem_of_head? (head?_of_append heq))
      exact absurd hminus (by decide)
    · exact hu false

end Haptics.Json
