import Haptics.System.Files
import Mathlib.Data.List.Sort
import Mathlib.Data.String.Basic

/-!
# Folders in order

A folder may name its entries in any order. Sorted, they are the same for every view of a tree
(`Files.Alike.sortedNames_eq`), and they ascend strictly if each is named once.
-/

namespace Haptics.Files

/-- The same answer but for the order of names; why a folder cannot be read does not matter. -/
inductive SameNames : Except IoError (List String) → Except IoError (List String) → Prop
  | ok {ns ms : List String} (h : ns.Perm ms) : SameNames (.ok ns) (.ok ms)
  | error (e e' : IoError) : SameNames (.error e) (.error e')

/-- Two views of a tree of which the folders may name their entries in different orders. -/
structure Alike (f g : Files) : Prop where
  names : ∀ path, SameNames (f.names path) (g.names path)
  content : f.content = g.content
  canonical : f.canonical = g.canonical
  isThere : f.isThere = g.isThere

def NamesOnce (f : Files) (path : String) : Prop := ∀ ns, f.names path = .ok ns → ns.Nodup

variable {f g : Files} {path name : String} {ns : List String}

theorem sortedNames_perm (h : f.names path = .ok ns) : (f.sortedNames path).Perm ns := by
  rw [sortedNames, h]
  exact List.mergeSort_perm ns _

theorem pairwise_le_sortedNames (f : Files) (path : String) : (f.sortedNames path).Pairwise (· ≤ ·) := by
  rw [sortedNames]
  rcases f.names path with e | ns
  · exact .nil
  have hsorted : (ns.mergeSort fun a b => !decide (b < a)).Pairwise fun a b => (!decide (b < a)) = true := by
    refine List.pairwise_mergeSort (fun a b c hab hbc => ?_) (fun a b => ?_) ns
    · simp only [Bool.not_eq_true', decide_eq_false_iff_not, not_lt] at hab hbc ⊢
      exact hab.trans hbc
    · simp only [Bool.or_eq_true, Bool.not_eq_true', decide_eq_false_iff_not, not_lt]
      exact le_total a b
  refine hsorted.imp fun h => ?_
  simpa only [Bool.not_eq_true', decide_eq_false_iff_not, not_lt] using h

theorem Alike.sortedNames_eq (h : f.Alike g) (path : String) : f.sortedNames path = g.sortedNames path := by
  have hnames := h.names path
  rcases hf : f.names path with e | ns <;> rcases hg : g.names path with e' | ms <;> rw [hf, hg] at hnames
  · rw [sortedNames, sortedNames, hf, hg]
  · cases hnames
  · cases hnames
  · obtain ⟨hperm⟩ := hnames
    refine List.Perm.eq_of_pairwise (fun a b _ _ hab hba => le_antisymm hab hba)
      (pairwise_le_sortedNames f path) (pairwise_le_sortedNames g path) ?_
    exact (sortedNames_perm hf).trans (hperm.trans (sortedNames_perm hg).symm)

theorem pairwise_lt_sortedNames (h : f.NamesOnce path) : (f.sortedNames path).Pairwise (· < ·) := by
  have hnodup : (f.sortedNames path).Nodup := by
    rcases hf : f.names path with e | ns
    · rw [sortedNames, hf]
      exact .nil
    · exact (sortedNames_perm hf).nodup_iff.2 (h ns hf)
  exact (pairwise_le_sortedNames f path).imp₂ (fun _ _ hle hne => lt_of_le_of_ne hle hne) hnodup

theorem mem_sortedNames : name ∈ f.sortedNames path ↔ ∃ ns, f.names path = .ok ns ∧ name ∈ ns := by
  rcases hf : f.names path with e | ns
  · rw [sortedNames, hf]
    constructor
    · exact fun h => absurd h List.not_mem_nil
    · rintro ⟨ns, h, -⟩
      cases h
  · rw [(sortedNames_perm hf).mem_iff]
    constructor
    · exact fun h => ⟨ns, rfl, h⟩
    · rintro ⟨ms, h, hm⟩
      obtain rfl := Except.ok.inj h
      exact hm

end Haptics.Files
