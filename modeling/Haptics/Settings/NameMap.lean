/-!
# Maps from names

Values under distinct names, in the order in which the names first came.
-/

namespace Haptics

/-- Values under distinct names. -/
structure NameMap (α : Type) where
  entries : List (String × α)
  distinct : (entries.map (·.1)).Nodup
  deriving DecidableEq

namespace NameMap

variable {α : Type}

def empty : NameMap α := ⟨[], List.nodup_nil⟩

def get? (m : NameMap α) (name : String) : Option α := m.entries.lookup name

/-- The entries after a value was put under a name: in place of the one there, or else at the end. -/
def putEntry (name : String) (value : α) : List (String × α) → List (String × α)
  | [] => [(name, value)]
  | (n, v) :: rest => if n = name then (name, value) :: rest else (n, v) :: putEntry name value rest

theorem names_putEntry (name : String) (value : α) (l : List (String × α)) :
    (putEntry name value l).map (·.1) =
      if name ∈ l.map (·.1) then l.map (·.1) else l.map (·.1) ++ [name] := by
  induction l with
  | nil => rfl
  | cons x rest ih =>
    obtain ⟨n, v⟩ := x
    by_cases h : n = name
    · simp [putEntry, h]
    · have h' : name ≠ n := Ne.symm h
      simp only [putEntry, h, if_false, List.map_cons, ih, List.mem_cons, h', false_or]
      split <;> rfl

theorem nodup_putEntry (name : String) (value : α) {l : List (String × α)}
    (h : (l.map (·.1)).Nodup) : ((putEntry name value l).map (·.1)).Nodup := by
  rw [names_putEntry]
  split
  · exact h
  · rename_i hn
    refine List.nodup_append.mpr ⟨h, by simp, ?_⟩
    rintro a ha b hb rfl
    exact hn (List.mem_singleton.mp hb ▸ ha)

def insert (m : NameMap α) (name : String) (value : α) : NameMap α :=
  ⟨putEntry name value m.entries, nodup_putEntry name value m.distinct⟩

/-- The map of a row of entries, of which the last under each name counts. -/
def ofEntries (l : List (String × α)) : NameMap α :=
  l.foldl (fun m (name, value) => m.insert name value) empty

end NameMap

end Haptics
