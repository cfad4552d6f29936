import Haptics.Json.Printer
import Haptics.Proofs.Text.Numeral

/-!
# What written values mean

A value does not come back letter by letter: a control character that has no one-letter escape is
written as a code unit and read as one. `respelled` is the value as it comes back, and every view of
a value built by `ofInt`, `ofText` and `ofMembers` is the same after it. `record` is an object of which some
fields may be left out.
-/

namespace Haptics.Json

/-! ### Numbers -/

namespace Numeral

open Text

theorem integer?_ofInt (n : Int) : (ofInt n).integer? = some n := by
  simp only [integer?, ofInt, readDigits?_decimal]
  by_cases hn : n < 0
  · have hzero : n.natAbs ≠ 0 := by omega
    have hvalue : -(n.natAbs : Int) = n := by omega
    rw [decide_eq_true hn]
    exact (if_neg hzero).trans (congrArg some hvalue)
  · have hvalue : (n.natAbs : Int) = n := by omega
    rw [decide_eq_false hn]
    exact congrArg some hvalue

/-- All digits of a number that fits 64 bits are taken: no part of it is larger than the whole. -/
theorem leading_of_readDigitsFrom {acc n : Nat} {cs : List Char} (h : readDigitsFrom 10 acc cs = some n)
    (hn : n < UInt64.size) : leading acc cs = (n, cs.length) := by
  induction cs generalizing acc with
  | nil => rw [leading, Option.some.inj h]; rfl
  | cons c cs ih =>
    obtain ⟨d, hd, h⟩ := Option.bind_eq_some_iff.1 h
    have hle : acc * 10 + d < UInt64.size := Nat.lt_of_le_of_lt (le_of_readDigitsFrom (by decide) h) hn
    rw [leading, hd, Option.getD_some, if_pos hle, ih h]
    rfl

theorem scaled_ofInt {n : Int} (h : n.natAbs < UInt64.size) : (ofInt n).scaled = (n.natAbs, 0) := by
  simp only [scaled, ofInt, leading_of_readDigitsFrom (readDigitsFrom_decimal _) h, leading]
  simp

theorem round53_le {n : Nat} (h : n ≠ 0) : round53 n ≤ 2 * n := by
  have hunit : 1 <<< (n.log2 - 52) ≤ n := by
    rw [Nat.one_shiftLeft]
    exact Nat.le_trans (Nat.pow_le_pow_right (by decide) (Nat.sub_le ..)) (Nat.log2_self_le h)
  have hlow := Nat.div_mul_le_self n (1 <<< (n.log2 - 52))
  simp only [round53]
  split <;> omega

theorem isFinite_ofInt {n : Int} (h : n.natAbs < UInt64.size) : (ofInt n).isFinite = true := by
  rw [isFinite, scaled_ofInt h]
  cases hn : n.natAbs with
  | zero => rfl
  | succ k =>
    have hone : round53 (Nat.pow 10 0) = 1 := by decide
    have hround : round53 (k + 1) < 2 ^ 65 :=
      Nat.lt_of_le_of_lt (round53_le (Nat.succ_ne_zero k)) (by simp [UInt64.size] at h; omega)
    have hlimit : 2 ^ 65 ≤ doubleLimit := by decide +kernel
    change (decide (0 ≤ 308) && decide (round53 (k + 1) * round53 (Nat.pow 10 0) < doubleLimit)) = true
    rw [hone, Nat.mul_one, Bool.and_eq_true, decide_eq_true_eq, decide_eq_true_eq]
    exact ⟨by decide, Nat.lt_of_lt_of_le hround hlimit⟩

end Numeral

/-! ### Strings -/

/-- The control characters that have a one-letter escape. -/
def shortControls : List Char := ['\x08', '\x0c', '\n', '\r', '\t']

/-- A part of a string as it is read once it was written. -/
def Piece.reread : Piece → Piece
  | char c => if c < ' ' ∧ c ∉ shortControls then unit (UInt16.ofNat c.toNat) else char c
  | unit u => unit u
  | garbled => char Text.replacement

theorem not_surrogate {u : UInt16} (h : u.toNat < 0xD800) : isHigh u = false ∧ isLow u = false := by
  have hhigh : ¬ 0xD800 ≤ u := fun hu => by have := UInt16.le_iff_toNat_le.1 hu; simp at this; omega
  have hlow : ¬ 0xDC00 ≤ u := fun hu => by have := UInt16.le_iff_toNat_le.1 hu; simp at this; omega
  simp [isHigh, isLow, hhigh, hlow]

theorem characters?_reread (c : Char) (ps : List Piece) :
    characters? ((Piece.char c).reread :: ps) = (characters? ps).map (c :: ·) := by
  rw [Piece.reread]
  split
  · rename_i hc
    have hlt : c.toNat < 32 := hc.1
    have hu : (UInt16.ofNat c.toNat).toNat = c.toNat := by rw [UInt16.toNat_ofNat']; omega
    obtain ⟨hhigh, hlow⟩ := not_surrogate (u := UInt16.ofNat c.toNat) (by omega)
    rw [characters?.eq_def]
    simp only [hhigh, hlow, hu, Char.ofNat_toNat]
    rfl
  · rfl

theorem string?_reread (s : String) : string? ((ofString s).map Piece.reread) = some s := by
  have h (cs : List Char) : characters? ((cs.map .char).map Piece.reread) = some cs := by
    induction cs with
    | nil => rfl
    | cons c cs ih => rw [List.map_cons, List.map_cons, characters?_reread, ih]; rfl
  rw [string?, ofString, h, Option.map_some, String.ofList_toList]

/-! ### Values -/

mutual

/-- A value as it is read once it was written. -/
def respelled : Json → Json
  | string s => string (s.map Piece.reread)
  | array vs => array (respelledItems vs)
  | object ms => object (respelledMembers ms)
  | v => v

def respelledItems : List Json → List Json
  | [] => []
  | v :: vs => respelled v :: respelledItems vs

def respelledMembers : List (List Piece × Json) → List (List Piece × Json)
  | [] => []
  | (k, v) :: ms => (k.map Piece.reread, respelled v) :: respelledMembers ms

end

theorem respelledMembers_eq_map (ms : List (List Piece × Json)) :
    respelledMembers ms = ms.map fun (k, v) => (k.map Piece.reread, v.respelled) := by
  induction ms with
  | nil => rfl
  | cons m ms ih => rw [respelledMembers, ih]; rfl

@[simp] theorem respelled_ofInt (n : Int) : (ofInt n).respelled = ofInt n := rfl

@[simp] theorem int?_ofInt (n : Int) : (ofInt n).int? = some n := Numeral.integer?_ofInt n

@[simp] theorem text?_respelled_ofText (s : String) : (ofText s).respelled.text? = some s := string?_reread s

theorem respelled_ofMembers (ms : List (String × Json)) : (ofMembers ms).respelled =
    object (ms.map fun (k, v) => ((ofString k).map Piece.reread, v.respelled)) := by
  rw [ofMembers, respelled, respelledMembers_eq_map, List.map_map]
  rfl

@[simp] theorem members?_respelled_ofMembers (ms : List (String × Json)) :
    (ofMembers ms).respelled.members? = some (ms.map fun (k, v) => (k, v.respelled)) := by
  rw [respelled_ofMembers, members?]
  induction ms with
  | nil => rfl
  | cons m ms ih => simp [string?_reread, List.mapM_cons, ih]

theorem depth_respelled_ofMembers_le {n : Nat} {ms : List (String × Json)}
    (h : ∀ m ∈ ms, m.2.respelled.depth ≤ n) : (ofMembers ms).respelled.depth ≤ n + 1 := by
  rw [respelled_ofMembers, depth]
  induction ms with
  | nil => exact Nat.succ_le_succ (Nat.zero_le n)
  | cons m ms ih =>
    have hm := h m List.mem_cons_self
    have hms := ih fun m hm => h m (List.mem_cons_of_mem _ hm)
    rw [List.map_cons, depthOfMembers]
    omega

theorem isSound_respelled_ofMembers {ms : List (String × Json)}
    (h : ∀ m ∈ ms, m.2.respelled.isSound = true) : (ofMembers ms).respelled.isSound = true := by
  rw [respelled_ofMembers, isSound]
  induction ms with
  | nil => rfl
  | cons m ms ih =>
    rw [List.map_cons, areMembersSound, string?_reread, h m List.mem_cons_self,
      ih fun m hm => h m (List.mem_cons_of_mem _ hm)]
    rfl

/-! ### Records -/

/-- The fields that have a value. -/
def written (fields : List (String × Option Json)) : List (String × Json) :=
  fields.filterMap fun (name, v?) => v?.map (name, ·)

def record (fields : List (String × Option Json)) : Json := ofMembers (written fields)

theorem mapM_map_of_forall {α β γ : Type} {f : α → Option β} {g : γ → α} {h : γ → β} {l : List γ}
    (hf : ∀ x ∈ l, f (g x) = some (h x)) : (l.map g).mapM f = some (l.map h) := by
  induction l with
  | nil => rfl
  | cons x l ih =>
    rw [List.map_cons, List.mapM_cons, hf x List.mem_cons_self, ih fun y hy => hf y (List.mem_cons_of_mem x hy)]
    rfl

theorem mem_written {fields : List (String × Option Json)} {m : String × Json} :
    m ∈ written fields ↔ (m.1, some m.2) ∈ fields := by
  simp only [written, List.mem_filterMap, Option.map_eq_some_iff]
  constructor
  · rintro ⟨⟨name, v?⟩, hmem, v, rfl, rfl⟩
    exact hmem
  · exact fun hmem => ⟨_, hmem, m.2, rfl, rfl⟩

/-- A name is found as often as its field was written, if all fields have names of their own. -/
theorem filter_written {fields : List (String × Option Json)} (hd : (fields.map (·.1)).Nodup)
    {field : String × Option Json} (hm : field ∈ fields) :
    ((written fields).map fun (k, v) => (k, v.respelled)).filter (·.1 = field.1) =
      field.2.toList.map fun v => (field.1, v.respelled) := by
  induction fields with
  | nil => cases hm
  | cons x fields ih =>
    obtain ⟨name, v?⟩ := x
    obtain ⟨hx, hfields⟩ := List.nodup_cons.1 hd
    rcases List.mem_cons.1 hm with rfl | htail
    · -- the name is the first one's, so it is none of the others
      have hnone : ((written fields).map fun (k, v) => (k, v.respelled)).filter (·.1 = name) = [] := by
        simp only [List.filter_eq_nil_iff, List.mem_map, mem_written]
        rintro - ⟨m, hmem, rfl⟩ heq
        exact hx (List.mem_map.2 ⟨_, hmem, of_decide_eq_true heq⟩)
      cases v? with
      | none => exact hnone
      | some v => simpa [written] using hnone
    · have hne : name ≠ field.1 := fun h => hx (h ▸ List.mem_map_of_mem (f := (·.1)) htail)
      cases v? with
      | none => exact ih hfields htail
      | some v => simpa [written, hne] using ih hfields htail

theorem fields?_respelled_record {fields : List (String × Option Json)} (hd : (fields.map (·.1)).Nodup) :
    (record fields).respelled.fields? (fields.map (·.1)) =
      some (fields.map fun field => field.2.map respelled) := by
  have hm := members?_respelled_ofMembers (written fields)
  rw [record, respelled_ofMembers, fields?, ← respelled_ofMembers, hm, Option.bind_some]
  · refine mapM_map_of_forall ?_
    intro field hmem
    rw [filter_written hd hmem]
    cases field.2 <;> rfl
  · intro items h
    cases h

theorem depth_respelled_record_le {n : Nat} {fields : List (String × Option Json)}
    (h : ∀ field ∈ fields, ∀ v ∈ field.2, v.respelled.depth ≤ n) : (record fields).respelled.depth ≤ n + 1 :=
  depth_respelled_ofMembers_le fun m hm => h _ (mem_written.1 hm) m.2 rfl

theorem isSound_respelled_record {fields : List (String × Option Json)}
    (h : ∀ field ∈ fields, ∀ v ∈ field.2, v.respelled.isSound = true) : (record fields).respelled.isSound = true :=
  isSound_respelled_ofMembers fun m hm => h _ (mem_written.1 hm) m.2 rfl

end Haptics.Json
