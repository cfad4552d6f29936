import Haptics.Bytes

/-!
# Report descriptors

A HID report descriptor is a row of items, each a short or a long one. `declares` looks for a Usage
Page item with a given value and stops at the first item that is cut off.
-/

namespace Haptics.Descriptor

inductive Item where
  /-- The tag byte says in its low two bits how many data bytes follow. -/
  | short (tag : UInt8) (data : Bytes)
  /-- A size byte and a tag precede the data. -/
  | long (tag : UInt8) (data : Bytes)
  deriving DecidableEq, Repr

def longMark : UInt8 := 0xFE

def shortSize (tag : UInt8) : Nat :=
  match tag.toNat % 4 with
  | 3 => 4
  | n => n

/-- The first item of a descriptor and what follows it; none at the end or if it is cut off. -/
def nextItem? : Bytes → Option (Item × Bytes)
  | [] => none
  | tag :: bs =>
    if tag = longMark then
      match bs with
      | size :: tag :: bs =>
        if size.toNat ≤ bs.length then some (.long tag (bs.take size.toNat), bs.drop size.toNat) else none
      | _ => none
    else if shortSize tag ≤ bs.length then
      some (.short tag (bs.take (shortSize tag)), bs.drop (shortSize tag))
    else none

def littleEndian : Bytes → Nat
  | [] => 0
  | b :: bs => b.toNat + 256 * littleEndian bs

/-- Whether an item is a Usage Page item with this value. -/
def Item.setsPage (page : UInt16) : Item → Bool
  | short tag data => tag.toNat / 4 == 1 && littleEndian data == page.toNat
  | long .. => false

theorem length_nextItem? {d rest : Bytes} {item : Item} (h : nextItem? d = some (item, rest)) :
    rest.length < d.length := by
  unfold nextItem? at h
  split at h
  · cases h
  · split at h
    · split at h
      · split at h
        · obtain ⟨-, rfl⟩ : _ ∧ _ := by simpa using h
          simp only [List.length_drop, List.length_cons]; omega
        · cases h
      · cases h
    · split at h
      · obtain ⟨-, rfl⟩ : _ ∧ _ := by simpa using h
        simp only [List.length_drop, List.length_cons]; omega
      · cases h

/-- Whether some item before the first that is cut off is a Usage Page item with this value. -/
def declares (page : UInt16) (d : Bytes) : Bool :=
  match _ : nextItem? d with
  | none => false
  | some (item, rest) => item.setsPage page || declares page rest
termination_by d.length
decreasing_by exact length_nextItem? ‹_›

end Haptics.Descriptor
