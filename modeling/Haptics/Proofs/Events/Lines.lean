import Haptics.Events.Listener

/-!
# Lines of a stream

`Cut` says what the lines of a byte string are, and `Events.split` finds them. Whatever it has found stays
when more bytes arrive (`split_append`), so it does not matter in which portions a stream is read.
-/

namespace Haptics.Events

/-- The lines at the front of a byte string, each up to its one newline, and what is behind the last. -/
structure Cut (bs : Bytes) (lines : List Bytes) (rest : Bytes) : Prop where
  joined : lines.flatten ++ rest = bs
  ended : ∀ line ∈ lines, ∃ body, newline ∉ body ∧ line = body ++ [newline]
  unended : newline ∉ rest

variable {bs bs' body rest rest' : Bytes} {lines lines' : List Bytes}

/-- The lines of what is left go on where the first ones stop. -/
theorem Cut.append (h : Cut bs lines rest) (h' : Cut (rest ++ bs') lines' rest') :
    Cut (bs ++ bs') (lines ++ lines') rest' := by
  refine ⟨?_, fun line hl => ?_, h'.unended⟩
  · calc (lines ++ lines').flatten ++ rest'
        = lines.flatten ++ (lines'.flatten ++ rest') := by rw [List.flatten_append, List.append_assoc]
      _ = (lines.flatten ++ rest) ++ bs' := by rw [h'.joined, List.append_assoc]
      _ = bs ++ bs' := by rw [h.joined]
  · rcases List.mem_append.1 hl with hl | hl
    · exact h.ended line hl
    · exact h'.ended line hl

theorem split_of_not_mem (h : newline ∉ bs) : split bs = ([], bs) := by
  induction bs with
  | nil => rfl
  | cons b bs ih =>
    rw [List.mem_cons, not_or] at h
    have hb : ¬ b = newline := fun he => h.1 he.symm
    rw [split, ih h.2]
    simp only [if_neg hb]

theorem split_line (h : newline ∉ body) :
    split (body ++ newline :: bs) = ((body ++ [newline]) :: (split bs).1, (split bs).2) := by
  induction body with
  | nil => simp only [List.nil_append, split, ↓reduceIte]
  | cons b body ih =>
    rw [List.mem_cons, not_or] at h
    have hb : ¬ b = newline := fun he => h.1 he.symm
    rw [List.cons_append, split, ih h.2]
    simp only [if_neg hb, List.cons_append]

/-- There is one way only to cut a byte string. -/
theorem Cut.split_eq (h : Cut bs lines rest) : split bs = (lines, rest) := by
  induction lines generalizing bs with
  | nil =>
    obtain rfl : rest = bs := h.joined
    exact split_of_not_mem h.unended
  | cons line lines ih =>
    obtain ⟨body, hbody, rfl⟩ := h.ended line List.mem_cons_self
    have hrest : Cut (lines.flatten ++ rest) lines rest :=
      ⟨rfl, fun line hl => h.ended line (List.mem_cons_of_mem _ hl), h.unended⟩
    have hbs : bs = body ++ newline :: (lines.flatten ++ rest) := by
      rw [← h.joined, List.flatten_cons, List.append_assoc, List.append_assoc, List.singleton_append]
    rw [hbs, split_line hbody, ih hrest]

theorem cut_split (bs : Bytes) : Cut bs (split bs).1 (split bs).2 := by
  -- by length, since a line is taken off the front as a whole
  induction hl : bs.length using Nat.strongRecOn generalizing bs with
  | ind l ih =>
    by_cases hm : newline ∈ bs
    · obtain ⟨body, bs', rfl, hbody⟩ := List.eq_append_cons_of_mem hm
      have hlt : bs'.length < l := by
        rw [← hl, List.length_append, List.length_cons]
        omega
      have hrest := ih bs'.length hlt bs' rfl
      rw [split_line hbody]
      refine ⟨?_, fun line hline => ?_, hrest.unended⟩
      · rw [List.flatten_cons, List.append_assoc, hrest.joined, List.append_assoc, List.singleton_append]
      · rcases List.mem_cons.1 hline with rfl | hline
        · exact ⟨body, hbody, rfl⟩
        · exact hrest.ended line hline
    · rw [split_of_not_mem hm]
      exact ⟨rfl, fun line hline => absurd hline List.not_mem_nil, hm⟩

theorem split_append (bs bs' : Bytes) :
    split (bs ++ bs') = ((split bs).1 ++ (feed (split bs).2 bs').1, (feed (split bs).2 bs').2) :=
  ((cut_split bs).append (cut_split _)).split_eq

end Haptics.Events
