import Haptics.Proofs.Json.Token
import Haptics.Proofs.Text.Utf8

/-!
# Reading what was written

`Writes text v` holds of every text of a value that has the tokens of `render v` and any blanks between them;
numbers are whole. Reading such a text gives the value respelled. Arrays and objects are read item by
item, so that the texts of their tails, behind the first item, are related to the further items on their own.
-/

namespace Haptics.Json

theorem isBlank_some_iff {c : Char} : isBlank (some c) = true ↔ c ∈ [' ', '\t', '\n', '\r'] := by
  simp [isBlank, or_assoc]

/-- Blanks between two tokens. -/
structure Gap where
  chars : List Char
  blank : chars.all (isBlank <| some ·) = true

namespace Gap

def empty : Gap := ⟨[], rfl⟩

theorem skipBlanks_append (g : Gap) (ls : Letters) : skipBlanks (g.chars.map some ++ ls) = skipBlanks ls := by
  obtain ⟨cs, hcs⟩ := g
  induction cs with
  | nil => rfl
  | cons c cs ih =>
    rw [List.all_cons, Bool.and_eq_true] at hcs
    rw [List.map_cons, List.cons_append, skipBlanks, List.dropWhile_cons_of_pos hcs.1]
    exact ih hcs.2

end Gap

/-- A member whose value has the text `cs`. -/
def memberText (k : List Piece) (g₁ g₂ : Gap) (cs : List Char) : List Char :=
  showString k ++ g₁.chars ++ ':' :: g₂.chars ++ cs

mutual

/-- A text of a value: the tokens of `render`, with blanks between them. -/
inductive Writes : List Char → Json → Prop
  | null : Writes ['n', 'u', 'l', 'l'] null
  | bool (b : Bool) : Writes (render (bool b)) (bool b)
  | int (n : Int) : Writes (Numeral.ofInt n).show (ofInt n)
  | string (s : List Piece) : Writes (showString s) (string s)
  | emptyArray (g : Gap) : Writes ('[' :: g.chars ++ [']']) (array [])
  | array {cs ds : List Char} {v : Json} {vs : List Json} (g : Gap) (head : Writes cs v)
      (tail : WritesItems ds vs) : Writes ('[' :: g.chars ++ cs ++ ds) (array (v :: vs))
  | emptyObject (g : Gap) : Writes ('\x7b' :: g.chars ++ ['\x7d']) (object [])
  | object {cs ds : List Char} {k : List Piece} {v : Json} {ms : List (List Piece × Json)} (g g₁ g₂ : Gap)
      (head : Writes cs v) (tail : WritesMembers ds ms) :
      Writes ('\x7b' :: g.chars ++ memberText k g₁ g₂ cs ++ ds) (object ((k, v) :: ms))

/-- A text of the further items of an array and its closing bracket. -/
inductive WritesItems : List Char → List Json → Prop
  | nil (g : Gap) : WritesItems (g.chars ++ [']']) []
  | cons {cs ds : List Char} {v : Json} {vs : List Json} (g g' : Gap) (head : Writes cs v)
      (tail : WritesItems ds vs) : WritesItems (g.chars ++ ',' :: g'.chars ++ cs ++ ds) (v :: vs)

/-- A text of the further members of an object and its closing brace. -/
inductive WritesMembers : List Char → List (List Piece × Json) → Prop
  | nil (g : Gap) : WritesMembers (g.chars ++ ['\x7d']) []
  | cons {cs ds : List Char} {k : List Piece} {v : Json} {ms : List (List Piece × Json)} (g g' g₁ g₂ : Gap)
      (head : Writes cs v) (tail : WritesMembers ds ms) :
      WritesMembers (g.chars ++ ',' :: g'.chars ++ memberText k g₁ g₂ cs ++ ds) ((k, v) :: ms)

end

/-- A document: a value with blanks around it. -/
def IsDocument (text : List Char) (v : Json) : Prop :=
  ∃ (g g' : Gap) (cs : List Char), Writes cs v ∧ text = g.chars ++ cs ++ g'.chars

/-! ### Where a value begins and ends -/

/-- The characters that begin a number. -/
def BeginsNumeral (c : Char) : Prop := c = '-' ∨ c.isDigit = true

theorem BeginsNumeral.not_mem {c : Char} (h : BeginsNumeral c) :
    c ∉ ['{', '[', '"', 'n', 't', 'f', ']', ' ', '\t', '\n', '\r'] := by
  have hmarks : ['{', '[', '"', 'n', 't', 'f', ']', ' ', '\t', '\n', '\r'].all
      (fun c => c != '-' && !c.isDigit) = true := by decide
  intro hc
  have hmark := List.all_eq_true.1 hmarks c hc
  simp only [Bool.and_eq_true, bne_iff_ne, Bool.not_eq_true'] at hmark
  rcases h with rfl | hdigit
  · exact hmark.1 rfl
  · exact Bool.false_ne_true (hmark.2.symm.trans hdigit)

theorem BeginsNumeral.not_blank {c : Char} (h : BeginsNumeral c) : isBlank (some c) = false := by
  refine Bool.eq_false_iff.2 fun hb => h.not_mem ?_
  exact List.mem_append_right ['{', '[', '"', 'n', 't', 'f', ']'] (isBlank_some_iff.1 hb)

theorem head_showOfInt (n : Int) : ∃ c cs, (Numeral.ofInt n).show = c :: cs ∧ BeginsNumeral c := by
  obtain ⟨d, ds, hd⟩ := List.exists_cons_of_ne_nil (Text.decimal_ne_nil n.natAbs)
  have hdigit : d.isDigit = true := Text.isDigit_of_mem_decimal (hd ▸ List.mem_cons_self)
  by_cases hn : n < 0
  · exact ⟨'-', d :: ds, by simp [Numeral.show, Numeral.ofInt, hn, hd], .inl rfl⟩
  · exact ⟨d, ds, by simp [Numeral.show, Numeral.ofInt, hn, hd], .inr hdigit⟩

theorem Writes.head {cs : List Char} {v : Json} (h : Writes cs v) :
    ∃ c cs', cs = c :: cs' ∧ isBlank (some c) = false ∧ c ≠ ']' := by
  cases h with
  | bool b => cases b <;> exact ⟨_, _, rfl, by decide, by decide⟩
  | int n =>
    obtain ⟨c, cs, heq, hc⟩ := head_showOfInt n
    exact ⟨c, cs, heq, hc.not_blank, fun h => hc.not_mem (by simp [h])⟩
  | _ => exact ⟨_, _, rfl, by decide, by decide⟩

theorem Writes.length_pos {cs : List Char} {v : Json} (h : Writes cs v) : 0 < cs.length := by
  obtain ⟨c, cs', rfl, -, -⟩ := h.head
  exact Nat.succ_pos _

theorem closes_cons {c : Char} {ls : Letters} :
    Closes (some c :: ls) ↔ c ∈ [' ', '\t', '\n', '\r', ',', ']', '}'] := by
  simp [Closes]

theorem Gap.closes (g : Gap) {ls : Letters} (h : Closes ls) : Closes (g.chars.map some ++ ls) := by
  obtain ⟨cs, hcs⟩ := g
  cases cs with
  | nil => exact h
  | cons c cs =>
    rw [List.all_cons, Bool.and_eq_true] at hcs
    exact closes_cons.2 (List.mem_append_left [',', ']', '}'] (isBlank_some_iff.1 hcs.1))

theorem WritesItems.closes {ds : List Char} {vs : List Json} (h : WritesItems ds vs) (rest : Letters) :
    Closes (ds.map some ++ rest) := by
  cases h with
  | nil g => simpa using g.closes (closes_cons.2 (by decide))
  | cons g g' => simpa using g.closes (closes_cons.2 (by decide))

theorem WritesMembers.closes {ds : List Char} {ms : List (List Piece × Json)} (h : WritesMembers ds ms)
    (rest : Letters) : Closes (ds.map some ++ rest) := by
  cases h with
  | nil g => simpa using g.closes (closes_cons.2 (by decide))
  | cons g g' => simpa using g.closes (closes_cons.2 (by decide))

/-! ### One step of the readers -/

section Step

variable {fuel : Nat} {v : Json} {ls ls' rest : Letters}

theorem skipBlanks_cons {l : Option Char} (h : isBlank l = false) : skipBlanks (l :: ls) = l :: ls := by
  rw [skipBlanks, List.dropWhile_cons_of_neg (by simp [h])]

theorem readValue_gap (g : Gap) : readValue fuel (g.chars.map some ++ ls) = readValue fuel ls := by
  cases fuel with
  | zero => rw [readValue, readValue]
  | succ fuel => rw [readValue, readValue, g.skipBlanks_append]

theorem readValue_numeral {c : Char} (hc : BeginsNumeral c) :
    readValue (fuel + 1) (some c :: ls) =
      (readNumeral (some c :: ls)).map fun (n, rest) => (.number n, rest) := by
  have hmarks := hc.not_mem
  rw [readValue, skipBlanks_cons hc.not_blank]
  split <;> simp_all

theorem readValue_array (g : Gap) {c : Char} (hblank : isBlank (some c) = false) (hclose : c ≠ ']') :
    readValue (fuel + 1) (some '[' :: (g.chars.map some ++ some c :: ls)) =
      (readItems fuel (some c :: ls)).map fun (vs, rest) => (.array vs, rest) := by
  rw [readValue, skipBlanks_cons (by decide)]
  simp only [g.skipBlanks_append, skipBlanks_cons hblank]
  split
  · rename_i heq
    exact absurd (Option.some.inj (List.cons.inj heq).1) hclose
  · rfl

theorem readValue_object (g : Gap) :
    readValue (fuel + 1) (some '{' :: (g.chars.map some ++ some '"' :: ls)) =
      (readMembers fuel (some '"' :: ls)).map fun (ms, rest) => (.object ms, rest) := by
  rw [readValue, skipBlanks_cons (by decide)]
  simp only [g.skipBlanks_append, skipBlanks_cons (l := some '"') (by decide)]
  rfl

theorem readItems_last (hv : readValue fuel ls = some (v, ls')) (hc : skipBlanks ls' = some ']' :: rest) :
    readItems (fuel + 1) ls = some ([v], rest) := by
  simp only [readItems, hv, hc]

theorem readItems_more (hv : readValue fuel ls = some (v, ls')) (hc : skipBlanks ls' = some ',' :: rest) :
    readItems (fuel + 1) ls = (readItems fuel rest).map fun (vs, rest) => (v :: vs, rest) := by
  simp only [readItems, hv, hc]

theorem skipBlanks_key (g : Gap) (k : List Piece) :
    skipBlanks (g.chars.map some ++ ((showString k).map some ++ ls)) =
      some '"' :: ((k.flatMap Piece.show ++ ['"']).map some ++ ls) := by
  rw [g.skipBlanks_append, showString, List.cons_append, List.map_cons, List.cons_append,
    skipBlanks_cons (by decide)]

theorem skipBlanks_colon (g : Gap) : skipBlanks (g.chars.map some ++ some ':' :: ls) = some ':' :: ls := by
  rw [g.skipBlanks_append, skipBlanks_cons (by decide)]

theorem readMembers_last {g g₁ : Gap} {k : List Piece} (hv : readValue fuel ls = some (v, ls'))
    (hc : skipBlanks ls' = some '}' :: rest) :
    readMembers (fuel + 1) (g.chars.map some ++ ((showString k).map some ++
      (g₁.chars.map some ++ some ':' :: ls))) = some ([(k.map Piece.reread, v)], rest) := by
  simp only [readMembers, skipBlanks_key, readString_showString, skipBlanks_colon, hv, hc]

theorem readMembers_more {g g₁ : Gap} {k : List Piece} (hv : readValue fuel ls = some (v, ls'))
    (hc : skipBlanks ls' = some ',' :: rest) :
    readMembers (fuel + 1) (g.chars.map some ++ ((showString k).map some ++
      (g₁.chars.map some ++ some ':' :: ls))) =
        (readMembers fuel rest).map fun (ms, rest) => ((k.map Piece.reread, v) :: ms, rest) := by
  simp only [readMembers, skipBlanks_key, readString_showString, skipBlanks_colon, hv, hc]

end Step

/-! ### Whole values

A value takes one unit of fuel and so does each of its items, while each item takes at least a bracket or a
comma and a letter of its own: twice the length of the text is enough. The tails are read from the value
before them, since a reader only looks behind a value that it has read. -/

mutual

theorem readValue_writes {cs : List Char} {v : Json} (h : Writes cs v) {fuel : Nat}
    (hf : 2 * cs.length ≤ fuel) {rest : Letters} (hr : Closes rest) :
    readValue fuel (cs.map some ++ rest) = some (v.respelled, rest) := by
  obtain ⟨n, rfl⟩ : ∃ n, fuel = n + 1 := ⟨fuel - 1, by have := h.length_pos; omega⟩
  cases h with
  | null => rfl
  | bool b => cases b <;> rfl
  | int i =>
    obtain ⟨c, cs, heq, hc⟩ := head_showOfInt i
    have hread := readNumeral_ofInt i hr
    rw [heq, List.map_cons, List.cons_append] at hread ⊢
    rw [readValue_numeral hc, hread]
    rfl
  | string s =>
    rw [showString, List.cons_append, List.map_cons, List.cons_append, readValue, skipBlanks_cons (by decide)]
    simp only [readString_showString, Option.map_some, respelled]
  | emptyArray g =>
    rw [List.cons_append, List.map_cons, List.cons_append, readValue, skipBlanks_cons (by decide)]
    simp only [List.map_append, List.append_assoc, g.skipBlanks_append]
    rfl
  | @array cs ds v vs g head tail =>
    simp only [List.length_cons, List.length_append] at hf
    obtain ⟨m, rfl⟩ : ∃ m, n = m + 1 := ⟨n - 1, by have := head.length_pos; omega⟩
    have hcs : 2 * cs.length ≤ m := by omega
    have hds : 2 * ds.length ≤ m := by omega
    have hvs := readItems_writes tail hds (readValue_writes head hcs (tail.closes rest))
    obtain ⟨c, cs', rfl, hblank, hclose⟩ := head.head
    simp only [List.cons_append, List.map_cons, List.map_append, List.append_assoc] at hvs ⊢
    rw [readValue_array g hblank hclose, hvs]
    rfl
  | emptyObject g =>
    rw [List.cons_append, List.map_cons, List.cons_append, readValue, skipBlanks_cons (by decide)]
    simp only [List.map_append, List.append_assoc, g.skipBlanks_append]
    rfl
  | @object cs ds k v ms g g₁ g₂ head tail =>
    simp only [memberText, List.length_cons, List.length_append] at hf
    obtain ⟨m, rfl⟩ : ∃ m, n = m + 1 := ⟨n - 1, by omega⟩
    have hcs : 2 * cs.length ≤ m := by omega
    have hds : 2 * ds.length ≤ m := by omega
    have hv := (readValue_gap g₂).trans (readValue_writes head hcs (tail.closes rest))
    have hms := readMembers_writes tail hds k .empty g₁ hv
    simp only [memberText, showString, Gap.empty, List.cons_append, List.nil_append, List.map_cons, List.map_nil,
      List.map_append, List.append_assoc] at hms ⊢
    rw [readValue_object, hms]
    rfl

theorem readItems_writes {ds : List Char} {vs : List Json} (h : WritesItems ds vs) {fuel : Nat}
    (hf : 2 * ds.length ≤ fuel) {v : Json} {ls rest : Letters}
    (hv : readValue fuel ls = some (v, ds.map some ++ rest)) :
    readItems (fuel + 1) ls = some (v :: respelledItems vs, rest) := by
  cases h with
  | nil g =>
    rw [List.map_append, List.append_assoc] at hv
    exact readItems_last hv (g.skipBlanks_append _)
  | @cons cs ds v' vs g g' head tail =>
    simp only [List.length_cons, List.length_append] at hf
    obtain ⟨m, rfl⟩ : ∃ m, fuel = m + 1 := ⟨fuel - 1, by omega⟩
    have hcs : 2 * cs.length ≤ m := by omega
    have hds : 2 * ds.length ≤ m := by omega
    have hnext := (readValue_gap g').trans (readValue_writes head hcs (tail.closes rest))
    have hvs := readItems_writes tail hds hnext
    simp only [List.cons_append, List.map_cons, List.map_append, List.append_assoc] at hv
    rw [readItems_more hv (g.skipBlanks_append _), hvs]
    rfl

theorem readMembers_writes {ds : List Char} {ms : List (List Piece × Json)} (h : WritesMembers ds ms)
    {fuel : Nat} (hf : 2 * ds.length ≤ fuel) (k : List Piece) (g g₁ : Gap) {v : Json} {ls rest : Letters}
    (hv : readValue fuel ls = some (v, ds.map some ++ rest)) :
    readMembers (fuel + 1) (g.chars.map some ++ ((showString k).map some ++
        (g₁.chars.map some ++ some ':' :: ls))) =
      some ((k.map Piece.reread, v) :: respelledMembers ms, rest) := by
  cases h with
  | nil g =>
    rw [List.map_append, List.append_assoc] at hv
    exact readMembers_last hv (g.skipBlanks_append _)
  | @cons cs ds k' v' ms g g' g₁ g₂ head tail =>
    simp only [memberText, List.length_cons, List.length_append] at hf
    obtain ⟨m, rfl⟩ : ∃ m, fuel = m + 1 := ⟨fuel - 1, by omega⟩
    have hcs : 2 * cs.length ≤ m := by omega
    have hds : 2 * ds.length ≤ m := by omega
    have hnext := (readValue_gap g₂).trans (readValue_writes head hcs (tail.closes rest))
    have hms := readMembers_writes tail hds k' g' g₁ hnext
    simp only [memberText, List.cons_append, List.map_cons, List.map_append, List.append_assoc] at hv
    rw [readMembers_more hv (g.skipBlanks_append _), hms]
    rfl

end

theorem read?_of_isDocument {text : List Char} {v : Json} (h : IsDocument text v) :
    read? (Text.encode text) = some v.respelled := by
  obtain ⟨g, g', cs, hcs, rfl⟩ := h
  have hread : readValue (2 * (g.chars ++ cs ++ g'.chars).length + 2)
      (g.chars.map some ++ (cs.map some ++ g'.chars.map some)) = some (v.respelled, g'.chars.map some) := by
    rw [readValue_gap]
    have hclose : Closes (g'.chars.map some) := by simpa using g'.closes closes_nil
    exact readValue_writes hcs (by simp only [List.length_append]; omega) hclose
  have hend : skipBlanks (g'.chars.map some) = [] := by simpa [skipBlanks] using g'.skipBlanks_append []
  rw [← List.map_append, ← List.map_append, ← List.append_assoc] at hread
  simp only [read?, Text.letters_encode, List.length_map, hread, hend]
  rfl

/-! ### The text without blanks -/

theorem writesMembers_render {ms : List (List Piece × Json)} (h : ∀ m ∈ ms, Writes (render m.2) m.2) :
    WritesMembers (renderMembers ms) ms := by
  induction ms with
  | nil => exact .nil .empty
  | cons m ms ih =>
    have hms := ih fun m' hm' => h m' (List.mem_cons_of_mem m hm')
    simpa [renderMembers, memberText, Gap.empty] using
      WritesMembers.cons (k := m.1) .empty .empty .empty .empty (h m List.mem_cons_self) hms

theorem writes_render_object {ms : List (List Piece × Json)} (h : ∀ m ∈ ms, Writes (render m.2) m.2) :
    Writes (render (object ms)) (object ms) := by
  cases ms with
  | nil => exact .emptyObject .empty
  | cons m ms =>
    have hms := writesMembers_render fun m' hm' => h m' (List.mem_cons_of_mem m hm')
    simpa [render, memberText, Gap.empty] using
      Writes.object (k := m.1) .empty .empty .empty (h m List.mem_cons_self) hms

theorem writes_render_ofMembers {ms : List (String × Json)} (h : ∀ m ∈ ms, Writes (render m.2) m.2) :
    Writes (render (ofMembers ms)) (ofMembers ms) := by
  refine writes_render_object fun m hm => ?_
  obtain ⟨m', hm', rfl⟩ := List.mem_map.1 hm
  exact h m' hm'

theorem writes_render_record {fields : List (String × Option Json)}
    (h : ∀ field ∈ fields, ∀ v ∈ field.2, Writes (render v) v) : Writes (render (record fields)) (record fields) :=
  writes_render_ofMembers fun m hm => h _ (mem_written.1 hm) m.2 rfl

theorem writes_render_ofInt (n : Int) : Writes (render (ofInt n)) (ofInt n) := .int n

theorem writes_render_ofText (s : String) : Writes (render (ofText s)) (ofText s) := .string (ofString s)

theorem isDocument_render {v : Json} (h : Writes (render v) v) : IsDocument (render v) v :=
  ⟨.empty, .empty, render v, h, by simp [Gap.empty]⟩

end Haptics.Json
