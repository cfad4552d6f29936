import Haptics.Settings.NameMap
import Mathlib.Data.Fintype.EquivFin

/-!
# Entries of a map

A look-up finds exactly the entries of a map, what was put under a name last is found there, no map has an
entry under every name, and a map is built again from its entries.
-/

namespace Haptics.NameMap

variable {α : Type} {m : NameMap α} {name : String} {v : α}

theorem lookup_eq_some_iff {l : List (String × α)} (h : (l.map (·.1)).Nodup) :
    l.lookup name = some v ↔ (name, v) ∈ l := by
  induction l with
  | nil => simp
  | cons x l ih =>
    obtain ⟨n, v'⟩ := x
    obtain ⟨hn, hl⟩ := List.nodup_cons.1 h
    by_cases he : name = n
    · subst he
      have hne : (name, v) ∉ l := fun hm => hn (List.mem_map_of_mem (f := (·.1)) hm)
      simp [hne, eq_comm]
    · have hb : (name == n) = false := beq_false_of_ne he
      simp [List.lookup_cons, hb, ih hl, he]

theorem get?_eq_some_iff : m.get? name = some v ↔ (name, v) ∈ m.entries := lookup_eq_some_iff m.distinct

theorem lookup_cons_eq_ite (x : String × α) (l : List (String × α)) :
    (x :: l).lookup name = if name = x.1 then some x.2 else l.lookup name := by
  by_cases h : name = x.1
  · rw [List.lookup_cons, beq_iff_eq.2 h, if_pos h]
  · rw [List.lookup_cons, beq_false_of_ne h, if_neg h]

theorem lookup_putEntry {l : List (String × α)} {name' : String} :
    (putEntry name v l).lookup name' = if name' = name then some v else l.lookup name' := by
  induction l with
  | nil => exact lookup_cons_eq_ite (name, v) []
  | cons x l ih =>
    obtain ⟨n, w⟩ := x
    by_cases hn : n = name
    · subst hn
      rw [putEntry, if_pos rfl, lookup_cons_eq_ite, lookup_cons_eq_ite]
      by_cases h : name' = n
      · rw [if_pos h, if_pos h]
      · rw [if_neg h, if_neg h, if_neg h]
    · rw [putEntry, if_neg hn, lookup_cons_eq_ite, lookup_cons_eq_ite, ih]
      by_cases h : name' = n
      · have hne : name' ≠ name := fun he => hn (h.symm.trans he)
        rw [if_pos h, if_pos h, if_neg hne]
      · rw [if_neg h, if_neg h]

theorem get?_insert {name' : String} :
    (m.insert name v).get? name' = if name' = name then some v else m.get? name' := lookup_putEntry

/-- Only finitely many names have an entry. -/
theorem exists_get?_eq_none (m : NameMap α) : ∃ name, m.get? name = none := by
  obtain ⟨name, hn⟩ := Infinite.exists_notMem_finset (m.entries.map (·.1)).toFinset
  refine ⟨name, List.lookup_eq_none_iff.2 fun p hp => bne_iff_ne.2 fun he => hn ?_⟩
  exact List.mem_toFinset.2 (he ▸ List.mem_map_of_mem (f := (·.1)) hp)

theorem putEntry_of_not_mem {l : List (String × α)} (h : name ∉ l.map (·.1)) :
    putEntry name v l = l ++ [(name, v)] := by
  induction l with
  | nil => rfl
  | cons x l ih =>
    obtain ⟨n, w⟩ := x
    have hn : n ≠ name := fun he => h (he ▸ List.mem_cons_self)
    rw [putEntry, if_neg hn, ih fun hm => h (List.mem_cons_of_mem n hm), List.cons_append]

theorem entries_foldl_insert {l : List (String × α)} (h : ((m.entries ++ l).map (·.1)).Nodup) :
    (l.foldl (fun m (name, v) => m.insert name v) m).entries = m.entries ++ l := by
  induction l generalizing m with
  | nil => rw [List.foldl_nil, List.append_nil]
  | cons x l ih =>
    obtain ⟨n, w⟩ := x
    have hnot : n ∉ m.entries.map (·.1) := fun hm => by
      rw [List.map_append, List.map_cons] at h
      exact (List.nodup_append.1 h).2.2 n hm n List.mem_cons_self rfl
    have hput : (m.insert n w).entries = m.entries ++ [(n, w)] := putEntry_of_not_mem hnot
    rw [List.foldl_cons, ih (by rw [hput, List.append_assoc]; exact h), hput, List.append_assoc]
    rfl

theorem ofEntries_entries (m : NameMap α) : ofEntries m.entries = m := by
  obtain ⟨l, hl⟩ := m
  have h : (ofEntries l).entries = l := entries_foldl_insert (m := empty) hl
  generalize ofEntries l = m at h
  subst h
  rfl

end Haptics.NameMap
