import Haptics.Discovery.Properties
import Haptics.Proofs.Text.Blank
import Haptics.Proofs.Text.Digits

/-!
# Properties read back

A text of lines is read as the properties on them, in order, and lines without an equals sign are passed over
(`properties_rendered`). Three numbers are read from a value as they are spelled, and none are exactly if one of the
first three fields is missing or no such number (`Identity.parse?_eq_none_iff`). Together: `properties_exact`.
-/

namespace Haptics.Discovery

open Text

variable {value f b v p rest digits : List Char} {n bus vendor product : Nat}

/-! ### Lines -/

/-- A line of a description. -/
inductive Line where
  | entry (key value : List Char)
  /-- A line without an equals sign. -/
  | remark (text : List Char)

namespace Line

def text : Line → List Char
  | entry key value => key ++ '=' :: value
  | remark text => text

def entry? : Line → Option (List Char × List Char)
  | entry key value => some (key, value)
  | remark _ => none

/-- Whether a line is a single one and says what it is: its key or its remark has no equals sign, and neither key nor
value has white space at its ends. -/
def IsSound : Line → Prop
  | entry key value => '=' ∉ key ∧ '\n' ∉ key ∧ '\n' ∉ value ∧ IsTrimmed key ∧ IsTrimmed value
  | remark text => '=' ∉ text ∧ '\n' ∉ text

instance (l : Line) : Decidable l.IsSound :=
  match l with
  | entry key value =>
    inferInstanceAs (Decidable ('=' ∉ key ∧ '\n' ∉ key ∧ '\n' ∉ value ∧ IsTrimmed key ∧ IsTrimmed value))
  | remark text => inferInstanceAs (Decidable ('=' ∉ text ∧ '\n' ∉ text))

theorem IsSound.newline_not_mem {l : Line} (h : l.IsSound) : '\n' ∉ l.text := by
  cases l with
  | remark text => exact h.2
  | entry key value =>
    obtain ⟨-, hkey, hvalue, -, -⟩ := h
    intro hm
    rcases List.mem_append.1 hm with hm | hm
    · exact hkey hm
    · rcases List.mem_cons.1 hm with hm | hm
      · exact absurd hm (by decide)
      · exact hvalue hm

theorem IsSound.property?_eq {l : Line} (h : l.IsSound) : property? l.text = l.entry? := by
  cases l with
  | remark text =>
    show property? text = none
    rw [property?, cutAtFirst?_eq_none h.1, Option.map_none]
  | entry key value =>
    obtain ⟨hkey, -, -, htkey, htvalue⟩ := h
    show property? (key ++ '=' :: value) = some (key, value)
    rw [property?, cutAtFirst?_singleton.2 ⟨rfl, hkey⟩, Option.map_some]
    show some (trim key, trim value) = some (key, value)
    rw [htkey.trim_eq, htvalue.trim_eq]

end Line

def rendered (lines : List Line) : List Char := ['\n'].intercalate (lines.map Line.text)

theorem properties_rendered {lines : List Line} (h : ∀ l ∈ lines, l.IsSound) :
    properties (rendered lines) = lines.filterMap Line.entry? := by
  rcases lines with _ | ⟨l, lines⟩
  · rfl
  have hlines : pieces '\n' (rendered (l :: lines)) = (l :: lines).map Line.text := by
    rw [pieces_eq_splitOn, rendered, List.splitOn_intercalate '\n' ?_ (by simp)]
    intro line hline
    obtain ⟨l', hl', rfl⟩ := List.mem_map.1 hline
    exact (h l' hl').newline_not_mem
  rw [properties, hlines, List.filterMap_map]
  exact List.filterMap_congr fun l' hl' => (h l' hl').property?_eq

theorem properties_append_newline (text : List Char) : properties (text ++ ['\n']) = properties text := by
  rw [properties, pieces_eq_splitOn, List.splitOn_append_cons_self, List.filterMap_append, ← pieces_eq_splitOn]
  exact List.append_nil _

/-! ### Numbers -/

namespace Identity

/-- A number in hexadecimal, in any case, with any zeros before it and any white space around it. -/
def IsField (f : List Char) (n : Nat) : Prop :=
  ∃ left digits right, f = left ++ digits ++ right ∧ (∀ c ∈ left, isBlank c = true) ∧
    (∀ c ∈ right, isBlank c = true) ∧ Spells 16 digits n

/-- What is no number below 2^32: without the white space around it and a plus before it, it is empty, has a
character that is no hexadecimal digit, or is too large. -/
def IsFlawed (f : List Char) : Prop :=
  let digits := dropPlus (trim f)
  digits = [] ∨ (∃ c ∈ digits, 16 ≤ digitAt c) ∨ 2 ^ 32 - 1 < worth 16 digits

theorem readHex?_trim_eq_none_iff : readHex? bound (trim f) = none ↔ IsFlawed f := readHex?_eq_none_iff

theorem dropPlus_of_forall (h : ∀ c ∈ digits, digitAt c < 16) : dropPlus digits = digits := by
  unfold dropPlus
  split
  · exact absurd (h '+' List.mem_cons_self) (by decide)
  · rfl

theorem IsField.readHex?_trim (h : IsField f n) (hn : n < bound) : readHex? bound (trim f) = some n := by
  obtain ⟨left, digits, right, rfl, hl, hr, hs⟩ := h
  have hdigits := hs.forall_digitAt (by decide) (Nat.le_refl 16)
  have htrimmed := isTrimmed_of_forall fun c hc => isBlank_of_digitAt_lt (hdigits c hc)
  rw [trim_padded hl hr, htrimmed.trim_eq, readHex?_eq, dropPlus_of_forall hdigits,
    hs.readDigits?_eq (by decide) (Nat.le_refl 16)]
  exact if_pos (decide_eq_true hn)

theorem IsField.colon_not_mem (h : IsField f n) : ':' ∉ f := by
  obtain ⟨left, digits, right, rfl, hl, hr, hs⟩ := h
  have hdigits := hs.forall_digitAt (by decide) (Nat.le_refl 16)
  have hblank : isBlank ':' ≠ true := by decide
  intro hm
  rcases List.mem_append.1 hm with hm | hm
  · rcases List.mem_append.1 hm with hm | hm
    · exact hblank (hl _ hm)
    · exact absurd (hdigits _ hm) (by decide)
  · exact hblank (hr _ hm)

theorem parse?_of_pieces {fields : List (List Char)} (h : pieces ':' value = b :: v :: p :: fields) :
    parse? value = (readHex? bound (trim b)).bind fun bus => (readHex? bound (trim v)).bind fun vendor =>
      (readHex? bound (trim p)).map fun product => ⟨bus, vendor, product⟩ := by
  rw [parse?, h]
  simp only [List.map_cons]
  rcases readHex? bound (trim b) with _ | bus
  · rfl
  rcases readHex? bound (trim v) with _ | vendor
  · rfl
  rcases readHex? bound (trim p) with _ | product <;> rfl

theorem parse?_of_short (h : (pieces ':' value).length < 3) : parse? value = none := by
  unfold parse?
  split
  next hfields =>
    have hlength := congrArg List.length hfields
    simp only [List.length_map, List.length_cons] at hlength
    omega
  next => rfl

theorem parse?_eq_none_iff (value : List Char) : parse? value = none ↔
    (value.splitOn ':').length < 3 ∨ ∃ f ∈ (value.splitOn ':').take 3, IsFlawed f := by
  rw [← pieces_eq_splitOn]
  by_cases hlength : (pieces ':' value).length < 3
  · exact iff_of_true (parse?_of_short hlength) (.inl hlength)
  · obtain ⟨b, v, p, fields, h⟩ : ∃ b v p fields, pieces ':' value = b :: v :: p :: fields := by
      rcases h : pieces ':' value with _ | ⟨b, _ | ⟨v, _ | ⟨p, fields⟩⟩⟩
      · simp [h] at hlength
      · simp [h] at hlength
      · simp [h] at hlength
      · exact ⟨b, v, p, fields, rfl⟩
    rw [or_iff_right hlength, parse?_of_pieces h, h]
    simp only [List.take_succ_cons, List.take_zero, List.exists_mem_cons_iff, List.not_mem_nil, false_and,
      exists_false, or_false, ← readHex?_trim_eq_none_iff]
    rcases readHex? bound (trim b) with _ | bus
    · simp
    rcases readHex? bound (trim v) with _ | vendor <;> simp

theorem parse?_of_isField (hb : IsField b bus) (hv : IsField v vendor) (hp : IsField p product)
    (hbus : bus < bound) (hvendor : vendor < bound) (hproduct : product < bound)
    (hrest : rest = [] ∨ ∃ after, rest = ':' :: after) :
    parse? (b ++ ':' :: (v ++ ':' :: (p ++ rest))) = some ⟨bus, vendor, product⟩ := by
  obtain ⟨fields, hlast⟩ : ∃ fields, (p ++ rest).splitOn ':' = p :: fields := by
    rcases hrest with rfl | ⟨after, rfl⟩
    · exact ⟨[], by rw [List.append_nil, List.splitOn_eq_singleton hp.colon_not_mem]⟩
    · exact ⟨_, List.splitOn_append_cons_self_of_not_mem hp.colon_not_mem after⟩
  have hfields : pieces ':' (b ++ ':' :: (v ++ ':' :: (p ++ rest))) = b :: v :: p :: fields := by
    rw [pieces_eq_splitOn, List.splitOn_append_cons_self_of_not_mem hb.colon_not_mem,
      List.splitOn_append_cons_self_of_not_mem hv.colon_not_mem, hlast]
  rw [parse?_of_pieces hfields, hb.readHex?_trim hbus, hv.readHex?_trim hvendor, hp.readHex?_trim hproduct]
  rfl

end Identity

/-- Of the lines of a text, a key has the value on the first one with that key, and none if there is none; three
numbers of 32 bits are read back however they are spelled and whatever follows a colon behind them, and no numbers
are read exactly if one of the first three fields is missing or flawed. -/
theorem properties_exact :
    (∀ (lines : List Line) (ending key : List Char), (∀ l ∈ lines, l.IsSound) → ending = [] ∨ ending = ['\n'] →
      value? key (rendered lines ++ ending) = (lines.filterMap Line.entry?).lookup key) ∧
    (∀ (b v p rest : List Char) (bus vendor product : UInt32), Identity.IsField b bus.toNat →
      Identity.IsField v vendor.toNat → Identity.IsField p product.toNat →
      rest = [] ∨ (∃ after, rest = ':' :: after) →
      Identity.parse? (b ++ ':' :: (v ++ ':' :: (p ++ rest))) = some ⟨bus.toNat, vendor.toNat, product.toNat⟩) ∧
    ∀ value, Identity.parse? value = none ↔
      (value.splitOn ':').length < 3 ∨ ∃ f ∈ (value.splitOn ':').take 3, Identity.IsFlawed f := by
  refine ⟨fun lines ending key hlines hending => ?_, fun b v p rest bus vendor product hb hv hp hrest => ?_,
    Identity.parse?_eq_none_iff⟩
  · have hproperties : properties (rendered lines ++ ending) = lines.filterMap Line.entry? := by
      rcases hending with rfl | rfl
      · rw [List.append_nil, properties_rendered hlines]
      · rw [properties_append_newline, properties_rendered hlines]
    rw [value?, hproperties]
  · exact Identity.parse?_of_isField hb hv hp bus.toNat_lt vendor.toNat_lt product.toNat_lt hrest

/-- A name with the separators in it and given twice, numbers with zeros, blanks and both cases, and a field that is
one above the largest number. -/
theorem properties_exact_named :
    let name := "MX: a=b".toList
    let lines : List Line := [.remark "hidraw".toList, .entry nameKey name, .entry nameKey "MX".toList]
    let b := "0003 ".toList
    let v := " 46d".toList
    let p := "00b04E".toList
    (∀ l ∈ lines, l.IsSound) ∧ value? nameKey (rendered lines ++ ['\n']) = some name ∧
      Identity.IsField b 3 ∧ Identity.IsField v 0x46D ∧ Identity.IsField p 0xB04E ∧
      Identity.parse? (b ++ ':' :: (v ++ ':' :: (p ++ ":+:".toList))) = some ⟨3, 0x46D, 0xB04E⟩ ∧
      Identity.parse? "3:+100000000:1".toList = none := by
  intro name lines b v p
  have hlines : ∀ l ∈ lines, l.IsSound := by decide
  have hnone : ∀ c ∈ [], isBlank c = true := List.forall_mem_nil _
  have hblank : ∀ c ∈ [' '], isBlank c = true := List.forall_mem_singleton.2 rfl
  have hb : Identity.IsField b 3 := ⟨[], "0003".toList, [' '], rfl, hnone, hblank, 3, rfl⟩
  have hv : Identity.IsField v 0x46D := ⟨[' '], "46d".toList, [], rfl, hblank, hnone, 0, rfl⟩
  have hp : Identity.IsField p 0xB04E := ⟨[], p, [], rfl, hnone, hnone, 2, rfl⟩
  refine ⟨hlines, ?_, hb, hv, hp, ?_, ?_⟩
  · exact properties_exact.1 lines ['\n'] nameKey hlines (.inr rfl)
  · exact properties_exact.2.1 b v p _ 3 0x46D 0xB04E hb hv hp (.inr ⟨_, rfl⟩)
  · exact (properties_exact.2.2 _).2 (.inr ⟨"+100000000".toList, by decide, .inr (.inr (by decide))⟩)

end Haptics.Discovery
