import Haptics.Proofs.Text.Split

/-!
# White space around words

A text has at most one first word, and `firstWord?` gives it (`firstWord?_eq_some_iff`). Trimming does not see
white space put around a text (`trim_padded`), and gives the one text that has none at its ends and that the
text is with white space around it (`trim_eq_iff`).
-/

namespace Haptics.Text

variable {cs w after left right : List Char}

/-- The first maximal run of characters that are not white space. -/
def IsFirstWord (cs w : List Char) : Prop :=
  ∃ before after, cs = before ++ w ++ after ∧ (∀ c ∈ before, isBlank c = true) ∧ w ≠ [] ∧
    (∀ c ∈ w, isBlank c = false) ∧ ∀ c, after.head? = some c → isBlank c = true

theorem trimLeft_append (h : ∀ c ∈ left, isBlank c = true) (cs : List Char) :
    trimLeft (left ++ cs) = trimLeft cs :=
  List.dropWhile_append_of_pos h

theorem head?_any_of_forall (h : ∀ c ∈ w, isBlank c = false) : w.head?.any isBlank = false := by
  rcases w with _ | ⟨c, w⟩
  · rfl
  · exact h c List.mem_cons_self

theorem getLast?_any_of_forall (h : ∀ c ∈ w, isBlank c = false) : w.getLast?.any isBlank = false := by
  rw [← List.head?_reverse]
  exact head?_any_of_forall fun c hc => h c (List.mem_reverse.1 hc)

/-! ### The first word -/

theorem takeWhile_of_head (h : ∀ c, after.head? = some c → isBlank c = true) :
    after.takeWhile (!isBlank ·) = [] := by
  rcases after with _ | ⟨c, after⟩
  · rfl
  · exact List.takeWhile_cons_of_neg (by simp [h c rfl])

theorem head?_dropWhile (cs : List Char) : ∀ c, (cs.dropWhile (!isBlank ·)).head? = some c → isBlank c = true := by
  intro c hc
  have hnot := List.head?_dropWhile_not (!isBlank ·) cs
  rw [hc] at hnot
  simpa using hnot

theorem firstWord?_eq_some_iff : firstWord? cs = some w ↔ IsFirstWord cs w := by
  constructor
  · intro h
    unfold firstWord? at h
    split at h
    · cases h
    rename_i hne
    obtain rfl := Option.some.inj h
    have hsplit : cs = cs.takeWhile isBlank ++ trimLeft cs := List.takeWhile_append_dropWhile.symm
    have hword : trimLeft cs = (trimLeft cs).takeWhile (!isBlank ·) ++ (trimLeft cs).dropWhile (!isBlank ·) :=
      List.takeWhile_append_dropWhile.symm
    refine ⟨cs.takeWhile isBlank, (trimLeft cs).dropWhile (!isBlank ·), ?_, ?_, hne, ?_, head?_dropWhile _⟩
    · rw [List.append_assoc, ← hword]
      exact hsplit
    · exact fun c hc => List.all_eq_true.1 List.all_takeWhile c hc
    · intro c hc
      have hc := List.all_eq_true.1 List.all_takeWhile c hc
      simpa using hc
  · rintro ⟨before, after, rfl, hbefore, hne, hw, hafter⟩
    have hleft : trimLeft (before ++ w ++ after) = w ++ after := by
      rw [List.append_assoc, trimLeft_append hbefore]
      refine trimLeft_eq_self ?_
      rw [List.head?_append, Option.or_of_isSome (by simpa [List.isSome_head?] using hne)]
      exact head?_any_of_forall hw
    have htake : (w ++ after).takeWhile (!isBlank ·) = w := by
      rw [List.takeWhile_append_of_pos (by simpa using hw), takeWhile_of_head hafter, List.append_nil]
    unfold firstWord?
    rw [hleft, htake]
    split
    · exact absurd rfl hne
    · rfl

/-! ### Trimming -/

theorem trimLeft_of_forall (h : ∀ c ∈ right, isBlank c = true) : trimLeft right = [] := by
  rw [← List.append_nil right, trimLeft_append h]
  rfl

theorem trimRight_append (h : ∀ c ∈ right, isBlank c = true) (cs : List Char) :
    trimRight (cs ++ right) = trimRight cs := by
  rw [trimRight, List.reverse_append]
  exact congrArg List.reverse (trimLeft_append (fun c hc => h c (List.mem_reverse.1 hc)) cs.reverse)

theorem trim_padded (hl : ∀ c ∈ left, isBlank c = true) (hr : ∀ c ∈ right, isBlank c = true) (cs : List Char) :
    trim (left ++ cs ++ right) = trim cs := by
  rw [trim, List.append_assoc, trimLeft_append hl, trimLeft, List.dropWhile_append]
  split
  next h =>
    -- all of the text is white space
    have hcs : trimLeft cs = [] := List.isEmpty_iff.1 h
    have hright : right.dropWhile isBlank = [] := trimLeft_of_forall hr
    rw [hright, trim, hcs]
  next => exact trimRight_append hr (trimLeft cs)

/-- No white space stands at either end of the text. -/
structure IsTrimmed (cs : List Char) : Prop where
  head : cs.head?.any isBlank = false
  last : cs.getLast?.any isBlank = false

instance : Decidable (IsTrimmed cs) :=
  decidable_of_iff (cs.head?.any isBlank = false ∧ cs.getLast?.any isBlank = false)
    ⟨fun h => ⟨h.1, h.2⟩, fun h => ⟨h.head, h.last⟩⟩

theorem IsTrimmed.trim_eq (h : IsTrimmed cs) : trim cs = cs := by
  rw [trim, trimLeft_eq_self h.head, trimRight_eq_self h.last]

theorem isTrimmed_of_forall (h : ∀ c ∈ w, isBlank c = false) : IsTrimmed w :=
  ⟨head?_any_of_forall h, getLast?_any_of_forall h⟩

theorem head?_any_trimLeft (cs : List Char) : (trimLeft cs).head?.any isBlank = false := by
  have hnot := List.head?_dropWhile_not isBlank cs
  rw [trimLeft]
  rcases hd : (cs.dropWhile isBlank).head? with _ | c
  · rfl
  · rw [hd] at hnot
    exact hnot

theorem isTrimmed_trim (cs : List Char) : IsTrimmed (trim cs) := by
  constructor
  · have hfront := trimRight_isPrefix (trimLeft cs)
    have hhead := head?_any_trimLeft cs
    rw [trim]
    rcases hr : trimRight (trimLeft cs) with _ | ⟨c, l⟩
    · rfl
    · rw [hr] at hfront
      obtain ⟨after, hafter⟩ := hfront
      rwa [← hafter] at hhead
  · rw [trim, trimRight, List.getLast?_reverse]
    exact head?_any_trimLeft (trimLeft cs).reverse

/-- The text `w` with white space before it and behind it, or none. -/
def IsPadded (cs w : List Char) : Prop :=
  ∃ left right, cs = left ++ w ++ right ∧ (∀ c ∈ left, isBlank c = true) ∧ ∀ c ∈ right, isBlank c = true

theorem isPadded_trim (cs : List Char) : IsPadded cs (trim cs) := by
  have hall : ∀ cs : List Char, ∀ c ∈ cs.takeWhile isBlank, isBlank c = true :=
    fun cs => List.all_eq_true.1 List.all_takeWhile
  refine ⟨cs.takeWhile isBlank, ((trimLeft cs).reverse.takeWhile isBlank).reverse, ?_, hall cs, ?_⟩
  · rw [trim, trimRight, List.append_assoc, ← List.reverse_append, List.takeWhile_append_dropWhile,
      List.reverse_reverse]
    exact List.takeWhile_append_dropWhile.symm
  · exact fun c hc => hall _ c (List.mem_reverse.1 hc)

/-- There is one way only to take the white space off the ends of a text. -/
theorem trim_eq_iff : trim cs = w ↔ IsTrimmed w ∧ IsPadded cs w := by
  constructor
  · rintro rfl
    exact ⟨isTrimmed_trim cs, isPadded_trim cs⟩
  · rintro ⟨hw, left, right, rfl, hl, hr⟩
    rw [trim_padded hl hr, hw.trim_eq]

end Haptics.Text
