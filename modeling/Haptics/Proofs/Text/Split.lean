import Haptics.Text.Blank
import Haptics.Text.Split
import Mathlib.Data.List.Infix

/-!
# Where a text is cut

`occursIn` finds exactly the infixes of a text (`occursIn_iff`), and a text is cut at the one that ends first
(`cutAtFirst?_eq_some_iff`). An infix that holds no separator stands within a piece (`isInfix_iff_pieces`), and
one that holds a separator once stands at the first one of the text or behind it (`isInfix_separated_iff`).
Trimming cuts nothing off an end without white space.
-/

namespace Haptics.Text

variable {sep c : Char} {part cs a b k v p : List Char} {ps : List (List Char)}

theorem occursIn_iff : occursIn part cs = true ↔ part <:+: cs := by
  induction cs with
  | nil =>
    rw [occursIn, cutAtFirst?, List.infix_nil, ← List.isEmpty_iff]
    split <;> simp [*]
  | cons c cs ih =>
    rw [occursIn] at ih
    rw [occursIn, cutAtFirst?, List.infix_cons_iff, ← ih, ← List.isPrefixOf_iff_prefix]
    split
    next h => simp [h]
    next h => simp [h]

theorem cutAtFirst?_eq_none_iff : cutAtFirst? part cs = none ↔ ¬ part <:+: cs := by
  rw [← occursIn_iff, occursIn, Option.not_isSome_iff_eq_none]

theorem append_dropLast_isPrefix (a part b : List Char) : a ++ part.dropLast <+: a ++ part ++ b :=
  ((List.prefix_append_right_inj a).2 (List.dropLast_prefix part)).trans (List.prefix_append _ b)

/-- The occurrence that is cut at is the first one: none ends before it does, even one that overlaps it. -/
theorem cutAtFirst?_eq_some_iff (hpart : part ≠ []) :
    cutAtFirst? part cs = some (a, b) ↔ cs = a ++ part ++ b ∧ ¬ part <:+: a ++ part.dropLast := by
  have hlen := List.length_pos_of_ne_nil hpart
  induction cs generalizing a with
  | nil =>
    rw [cutAtFirst?, if_neg (by rwa [List.isEmpty_iff])]
    constructor
    · intro h
      cases h
    · rintro ⟨h, -⟩
      simp [hpart] at h
  | cons x cs ih =>
    rw [cutAtFirst?]
    by_cases hstart : part <+: x :: cs
    · rw [if_pos (List.isPrefixOf_iff_prefix.2 hstart)]
      constructor
      · intro h
        cases h
        refine ⟨(List.prefix_iff_eq_append.1 hstart).symm, fun hin => ?_⟩
        have := hin.length_le
        rw [List.nil_append, List.length_dropLast] at this
        omega
      · rintro ⟨h, hfirst⟩
        rcases a with _ | ⟨y, a⟩
        · simp [h]
        · -- the one that starts the text ends before the one behind `y :: a` does
          have hle : part.length ≤ (y :: a ++ part.dropLast).length := by
            rw [List.length_append, List.length_cons, List.length_dropLast]
            omega
          have hfront : y :: a ++ part.dropLast <+: x :: cs := h ▸ append_dropLast_isPrefix _ part b
          exact absurd (List.prefix_of_prefix_length_le hstart hfront hle).isInfix hfirst
    · rw [if_neg (mt List.isPrefixOf_iff_prefix.1 hstart)]
      constructor
      · intro h
        obtain ⟨⟨a', b'⟩, hcut, hab⟩ := Option.map_eq_some_iff.1 h
        cases hab
        obtain ⟨rfl, hfirst⟩ := ih.1 hcut
        refine ⟨rfl, fun hin => ?_⟩
        rcases List.infix_cons_iff.1 hin with hin | hin
        · exact hstart (hin.trans (append_dropLast_isPrefix (x :: a') part b))
        · exact hfirst hin
      · rintro ⟨h, hfirst⟩
        rcases a with _ | ⟨y, a⟩
        · exact absurd (h ▸ List.prefix_append part b) hstart
        · obtain ⟨rfl, rfl⟩ := List.cons_eq_cons.1 h
          rw [ih.2 ⟨rfl, fun hin => hfirst (List.infix_cons hin)⟩]
          rfl

theorem cutAtFirst?_singleton : cutAtFirst? [c] cs = some (a, b) ↔ cs = a ++ c :: b ∧ c ∉ a := by
  rw [cutAtFirst?_eq_some_iff (List.cons_ne_nil c []), List.dropLast_singleton, List.append_nil,
    List.singleton_infix_iff, List.append_assoc, List.singleton_append]

theorem cutAtFirst?_eq_none (h : c ∉ cs) : cutAtFirst? [c] cs = none := by
  rw [cutAtFirst?_eq_none_iff, List.singleton_infix_iff]
  exact h

/-! ### Pieces -/

theorem pieces_ne_nil (sep : Char) (cs : List Char) : ∃ p ps, pieces sep cs = p :: ps := by
  cases cs with
  | nil => exact ⟨[], [], rfl⟩
  | cons c cs =>
    rw [pieces]
    split
    · exact ⟨_, _, rfl⟩
    · split <;> exact ⟨_, _, rfl⟩

theorem pieces_cons_self (h : pieces sep cs = p :: ps) : pieces sep (sep :: cs) = [] :: p :: ps := by
  rw [pieces, h]
  exact if_pos rfl

theorem pieces_cons_of_ne (hc : c ≠ sep) (h : pieces sep cs = p :: ps) :
    pieces sep (c :: cs) = (c :: p) :: ps := by
  rw [pieces, h]
  exact if_neg hc

theorem pieces_append (ha : sep ∉ a) (h : pieces sep cs = p :: ps) :
    pieces sep (a ++ cs) = (a ++ p) :: ps := by
  induction a with
  | nil => exact h
  | cons c a ih =>
    obtain ⟨hc, ha⟩ := not_or.1 (mt List.mem_cons.2 ha)
    exact pieces_cons_of_ne (Ne.symm hc) (ih ha)

/-- Replacing characters by texts keeps the pieces apart if it neither touches nor makes a separator. -/
theorem pieces_flatMap {f : Char → List Char} (hsep : f sep = [sep]) (hf : ∀ c, c ≠ sep → sep ∉ f c)
    (cs : List Char) : pieces sep (cs.flatMap f) = (pieces sep cs).map (·.flatMap f) := by
  induction cs with
  | nil => rfl
  | cons c cs ih =>
    obtain ⟨p, ps, hp⟩ := pieces_ne_nil sep cs
    rw [hp, List.map_cons] at ih
    rw [List.flatMap_cons]
    by_cases hc : c = sep
    · subst hc
      rw [hsep, pieces_cons_self hp, List.singleton_append, pieces_cons_self ih]
      rfl
    · rw [pieces_cons_of_ne hc hp, pieces_append (hf c hc) ih]
      rfl

theorem pieces_map {f : Char → Char} (hf : ∀ c, f c = sep ↔ c = sep) (cs : List Char) :
    pieces sep (cs.map f) = (pieces sep cs).map (·.map f) := by
  have hmap : ∀ l : List Char, l.flatMap (fun c => [f c]) = l.map f := fun l => List.map_eq_flatMap.symm
  have hflat := pieces_flatMap (f := fun c => [f c]) (by rw [(hf sep).2 rfl])
    (fun c hc hm => hc ((hf c).1 (List.mem_singleton.1 hm).symm)) cs
  simpa only [hmap] using hflat

theorem pieces_eq_splitOn (sep : Char) (cs : List Char) : pieces sep cs = cs.splitOn sep := by
  induction cs with
  | nil => rfl
  | cons c cs ih =>
    obtain ⟨p, ps, hp⟩ := pieces_ne_nil sep cs
    rw [List.splitOn_cons_eq_if_modifyHead, ← ih, hp]
    by_cases hc : c = sep
    · subst hc
      rw [pieces_cons_self hp, if_pos (beq_self_eq_true c)]
    · rw [pieces_cons_of_ne hc hp, if_neg (by simpa using hc)]
      rfl

/-! ### Infixes -/

theorem isPrefix_iff_piece (hpart : sep ∉ part) (h : pieces sep cs = p :: ps) :
    part <+: cs ↔ part <+: p := by
  induction cs generalizing part p ps with
  | nil =>
    cases h
    rfl
  | cons c cs ih =>
    obtain ⟨q, qs, hq⟩ := pieces_ne_nil sep cs
    rcases part with _ | ⟨x, part⟩
    · exact iff_of_true List.nil_prefix List.nil_prefix
    obtain ⟨hx, hpart⟩ := not_or.1 (mt List.mem_cons.2 hpart)
    by_cases hc : c = sep
    · subst hc
      obtain ⟨rfl, -⟩ := List.cons_eq_cons.1 (h.symm.trans (pieces_cons_self hq))
      refine iff_of_false (fun hp => hx (List.cons_prefix_cons.1 hp).1.symm) fun hp => ?_
      exact List.cons_ne_nil _ _ (List.prefix_nil.1 hp)
    · -- the first piece grows with the text
      obtain ⟨rfl, -⟩ := List.cons_eq_cons.1 (h.symm.trans (pieces_cons_of_ne hc hq))
      rw [List.cons_prefix_cons, List.cons_prefix_cons, ih hpart hq]

theorem isInfix_iff_pieces (hpart : sep ∉ part) : part <:+: cs ↔ ∃ p ∈ pieces sep cs, part <:+: p := by
  induction cs with
  | nil => simp [pieces]
  | cons c cs ih =>
    obtain ⟨p, ps, hp⟩ := pieces_ne_nil sep cs
    rw [List.infix_cons_iff, ih]
    by_cases hc : c = sep
    · subst hc
      rw [isPrefix_iff_piece hpart (pieces_cons_self hp), pieces_cons_self hp, hp,
        List.exists_mem_cons_iff _ [], List.prefix_nil, List.infix_nil]
    · rw [isPrefix_iff_piece hpart (pieces_cons_of_ne hc hp), pieces_cons_of_ne hc hp, hp,
        List.exists_mem_cons_iff, List.exists_mem_cons_iff, List.infix_cons_iff, or_assoc]

theorem isPrefix_separated_iff (hk : sep ∉ k) (ha : sep ∉ a) :
    k ++ sep :: v <+: a ++ sep :: b ↔ k = a ∧ v <+: b := by
  induction k generalizing a with
  | nil =>
    rcases a with _ | ⟨c, a⟩
    · simp
    · simp only [List.nil_append, List.cons_append, List.cons_prefix_cons]
      exact iff_of_false (fun h => ha (h.1 ▸ List.mem_cons_self)) fun h => List.cons_ne_nil _ _ h.1.symm
  | cons x k ih =>
    obtain ⟨hx, hk⟩ := not_or.1 (mt List.mem_cons.2 hk)
    rcases a with _ | ⟨c, a⟩
    · simp only [List.nil_append, List.cons_append, List.cons_prefix_cons]
      exact iff_of_false (fun h => hx h.1.symm) fun h => List.cons_ne_nil _ _ h.1
    · have ha' : sep ∉ a := fun hm => ha (List.mem_cons_of_mem c hm)
      simp only [List.cons_append, List.cons_prefix_cons, ih hk ha', List.cons.injEq, and_assoc]

/-- Where a text with one separator in it stands in another text: either its separator is the first one
there, or it stands behind that. -/
theorem isInfix_separated_iff (hk : sep ∉ k) (ha : sep ∉ a) :
    k ++ sep :: v <:+: a ++ sep :: b ↔ k <:+ a ∧ v <+: b ∨ k ++ sep :: v <:+: b := by
  induction a with
  | nil => rw [List.nil_append, List.infix_cons_iff, ← List.nil_append (sep :: b),
      isPrefix_separated_iff hk List.not_mem_nil, List.suffix_nil]
  | cons c a ih =>
    have ha' : sep ∉ a := fun hm => ha (List.mem_cons_of_mem c hm)
    rw [List.cons_append, List.infix_cons_iff, ih ha', ← List.cons_append, isPrefix_separated_iff hk ha,
      List.suffix_cons_iff, or_and_right, or_assoc]

/-! ### White space at the ends -/

theorem trimRight_eq_self (h : cs.getLast?.any isBlank = false) : trimRight cs = cs := by
  have hrev : cs.reverse.dropWhile isBlank = cs.reverse := by
    rw [← List.head?_reverse] at h
    rcases hcs : cs.reverse with _ | ⟨c, l⟩
    · rfl
    · rw [hcs, List.head?_cons, Option.any_some] at h
      exact List.dropWhile_cons_of_neg (by rw [h]; exact Bool.false_ne_true)
  rw [trimRight, hrev, List.reverse_reverse]

theorem trimRight_isPrefix (cs : List Char) : trimRight cs <+: cs := by
  have hsuffix : cs.reverse.dropWhile isBlank <:+ cs.reverse := List.dropWhile_suffix isBlank
  have hstart := List.reverse_prefix.2 hsuffix
  rw [List.reverse_reverse] at hstart
  exact hstart

theorem trim_isSuffix (h : cs.getLast?.any isBlank = false) : trim cs <:+ cs := by
  have hsuffix : trimLeft cs <:+ cs := List.dropWhile_suffix isBlank
  obtain ⟨front, hfront⟩ := hsuffix
  have hlast : (trimLeft cs).getLast?.any isBlank = false := by
    rw [← hfront, List.getLast?_append] at h
    rcases hl : (trimLeft cs).getLast? with _ | c
    · rfl
    · rw [hl, Option.some_or] at h
      exact h
  rw [trim, trimRight_eq_self hlast]
  exact ⟨front, hfront⟩

theorem trimLeft_eq_self (h : cs.head?.any isBlank = false) : trimLeft cs = cs := by
  rcases cs with _ | ⟨c, l⟩
  · rfl
  · rw [List.head?_cons, Option.any_some] at h
    exact List.dropWhile_cons_of_neg (by rw [h]; exact Bool.false_ne_true)

theorem trim_isPrefix (h : cs.head?.any isBlank = false) : trim cs <+: cs := by
  rw [trim, trimLeft_eq_self h]
  exact trimRight_isPrefix cs

end Haptics.Text
