import Haptics.Wire.Descriptor
import Mathlib.Data.Nat.Digits.Defs

/-!
# Items of a descriptor

`Item.bytes` writes an item out, and `nextItem?` is its exact inverse on those items that can be written
(`nextItem?_eq_some_iff`). So a descriptor is a row of whole items and perhaps one that is cut off, and it
declares the pages that its whole items set (`declares_items`).
-/

namespace Haptics.Descriptor

namespace Item

def bytes : Item → Bytes
  | short tag data => tag :: data
  | long tag data => longMark :: UInt8.ofNat data.length :: tag :: data

/-- A short item has as much data as the two low bits of its tag say, and a long one as much as a size byte
can say. -/
def IsWhole : Item → Prop
  | short tag data => tag ≠ longMark ∧ (tag &&& 3, data.length) ∈ [(0, 0), (1, 1), (2, 2), (3, 4)]
  | long _ data => data.length < 256

/-- A short Usage Page item whose data, the low byte first, is the page. -/
def Sets (page : UInt16) : Item → Prop
  | short tag data => tag &&& 0xFC = 0x04 ∧ Nat.ofDigits 256 (data.map UInt8.toNat) = page.toNat
  | long .. => False

end Item

/-- The bytes are the beginning of an item and not the whole of it. -/
def IsCut (bs : Bytes) : Prop := ∃ item : Item, item.IsWhole ∧ bs <+: item.bytes ∧ bs ≠ item.bytes

variable {d bs rest : Bytes} {item : Item} {items : List Item} {page : UInt16}

/-! ### One item -/

theorem shortSize_eq_iff (tag : UInt8) (n : Nat) :
    shortSize tag = n ↔ (tag &&& 3, n) ∈ [((0 : UInt8), 0), (1, 1), (2, 2), (3, 4)] := by
  have hlow : (tag &&& 3).toNat = tag.toNat % 4 := by
    rw [UInt8.toNat_and]
    exact Nat.and_two_pow_sub_one_eq_mod tag.toNat 2
  have hlt : tag.toNat % 4 < 4 := Nat.mod_lt _ (by decide)
  simp only [List.mem_cons, Prod.mk.injEq, List.not_mem_nil, or_false, ← UInt8.toNat_inj, hlow]
  unfold shortSize
  generalize tag.toNat % 4 = low at hlt
  match low, hlt with
  | 0, _ | 1, _ | 2, _ | 3, _ => simp [eq_comm]

theorem isUsagePage_iff (tag : UInt8) : tag &&& 0xFC = 0x04 ↔ tag.toNat / 4 = 1 := by
  have hall : ∀ b : BitVec 8, b &&& 0xFC = 0x04 ↔ b.toNat / 4 = 1 := by decide +kernel
  rw [← UInt8.toBitVec_inj]
  exact hall tag.toBitVec

theorem littleEndian_eq (bs : Bytes) : littleEndian bs = Nat.ofDigits 256 (bs.map UInt8.toNat) := by
  induction bs with
  | nil => rfl
  | cons b bs ih => rw [littleEndian, ih, List.map_cons, Nat.ofDigits_cons]

theorem setsPage_iff : item.setsPage page = true ↔ item.Sets page := by
  cases item with
  | short tag data =>
    simp only [Item.setsPage, Item.Sets, isUsagePage_iff, littleEndian_eq, Bool.and_eq_true, beq_iff_eq]
  | long tag data => exact iff_of_false Bool.false_ne_true id

/-- What is read off the front is a whole item, and it is read off whatever follows it. -/
theorem nextItem?_eq_some_iff : nextItem? d = some (item, rest) ↔ item.IsWhole ∧ d = item.bytes ++ rest := by
  constructor
  · intro h
    unfold nextItem? at h
    split at h
    · cases h
    rename_i tag bs
    split at h
    · rename_i hmark
      split at h
      · rename_i size tag bs
        split at h
        · rename_i hle
          obtain ⟨rfl, rfl⟩ : _ ∧ _ := by simpa using h
          have hlen : (bs.take size.toNat).length = size.toNat := List.length_take_of_le hle
          refine ⟨?_, ?_⟩
          · show (bs.take size.toNat).length < 256
            rw [hlen]
            exact size.toNat_lt
          · rw [Item.bytes, hlen, UInt8.ofNat_toNat, hmark]
            show _ = longMark :: size :: tag :: (bs.take size.toNat ++ bs.drop size.toNat)
            rw [List.take_append_drop]
        · cases h
      · cases h
    · rename_i hmark
      split at h
      · rename_i hle
        obtain ⟨rfl, rfl⟩ : _ ∧ _ := by simpa using h
        refine ⟨⟨hmark, ?_⟩, ?_⟩
        · rw [← shortSize_eq_iff, List.length_take_of_le hle]
        · show _ = tag :: (bs.take (shortSize tag) ++ bs.drop (shortSize tag))
          rw [List.take_append_drop]
      · cases h
  · rintro ⟨hwhole, rfl⟩
    cases item with
    | short tag data =>
      obtain ⟨hmark, hlen⟩ := hwhole
      have hsize := (shortSize_eq_iff tag data.length).2 hlen
      have hle : shortSize tag ≤ (data ++ rest).length := by
        rw [hsize, List.length_append]
        exact Nat.le_add_right _ _
      rw [Item.bytes, List.cons_append]
      unfold nextItem?
      dsimp only
      rw [if_neg hmark, if_pos hle, List.take_left' hsize.symm, List.drop_left' hsize.symm]
    | long tag data =>
      have hsize : (UInt8.ofNat data.length).toNat = data.length := UInt8.toNat_ofNat_of_lt' hwhole
      show nextItem? (longMark :: UInt8.ofNat data.length :: tag :: (data ++ rest)) = _
      have hle : data.length ≤ (data ++ rest).length := by
        rw [List.length_append]
        exact Nat.le_add_right _ _
      unfold nextItem?
      dsimp only
      rw [if_pos rfl, hsize, if_pos hle, List.take_left' rfl, List.drop_left' rfl]

/-- Nothing is read off an item that is cut off, wherever that is. -/
theorem nextItem?_of_isCut (h : IsCut bs) : nextItem? bs = none := by
  obtain ⟨item, hwhole, ⟨missing, hbytes⟩, hne⟩ := h
  rcases hn : nextItem? bs with _ | ⟨item', rest⟩
  · rfl
  -- the item that was read off would be the whole one as well, with nothing behind it
  exfalso
  obtain ⟨hwhole', rfl⟩ := nextItem?_eq_some_iff.1 hn
  have hread : nextItem? item.bytes = some (item', rest ++ missing) :=
    nextItem?_eq_some_iff.2 ⟨hwhole', by rw [← hbytes, List.append_assoc]⟩
  have hself : nextItem? item.bytes = some (item, []) :=
    nextItem?_eq_some_iff.2 ⟨hwhole, (List.append_nil _).symm⟩
  obtain ⟨rfl, hnil⟩ := Prod.mk.inj (Option.some.inj (hread.symm.trans hself))
  obtain ⟨rfl, -⟩ := List.append_eq_nil_iff.1 hnil
  exact hne (List.append_nil _)

/-! ### A row of items -/

theorem declares_of_none (h : nextItem? d = none) : declares page d = false := by
  rw [declares]
  split
  · rfl
  · rename_i hn
    cases h.symm.trans hn

theorem declares_of_some (h : nextItem? d = some (item, rest)) :
    declares page d = (item.setsPage page || declares page rest) := by
  rw [declares]
  split
  · rename_i hn
    cases h.symm.trans hn
  · rename_i item' rest' hn
    obtain ⟨rfl, rfl⟩ := Prod.mk.inj (Option.some.inj (h.symm.trans hn))
    rfl

theorem declares_append (h : ∀ x ∈ items, x.IsWhole) (rest : Bytes) :
    declares page (items.flatMap Item.bytes ++ rest) = true ↔
      (∃ x ∈ items, x.Sets page) ∨ declares page rest = true := by
  induction items with
  | nil => simp
  | cons item items ih =>
    obtain ⟨hitem, hitems⟩ := List.forall_mem_cons.1 h
    have hnext : nextItem? ((item :: items).flatMap Item.bytes ++ rest) =
        some (item, items.flatMap Item.bytes ++ rest) :=
      nextItem?_eq_some_iff.2 ⟨hitem, by rw [List.flatMap_cons, List.append_assoc]⟩
    rw [declares_of_some hnext, Bool.or_eq_true, ih hitems, setsPage_iff, ← or_assoc]
    simp only [List.mem_cons, exists_eq_or_imp]

/-- Every byte string begins with whole items, and from what follows them no item can be read. -/
theorem exists_items (d : Bytes) : ∃ (items : List Item) (rest : Bytes),
    (∀ x ∈ items, x.IsWhole) ∧ nextItem? rest = none ∧ d = items.flatMap Item.bytes ++ rest := by
  -- by length, since an item is taken off the front as a whole
  induction hl : d.length using Nat.strongRecOn generalizing d with
  | ind l ih =>
    rcases hn : nextItem? d with _ | ⟨item, rest⟩
    · exact ⟨[], d, fun x hx => absurd hx List.not_mem_nil, hn, rfl⟩
    · have hlt := length_nextItem? hn
      obtain ⟨hwhole, rfl⟩ := nextItem?_eq_some_iff.1 hn
      obtain ⟨items, rest', hitems, hend, rfl⟩ := ih rest.length (hl ▸ hlt) rest rfl
      refine ⟨item :: items, rest', List.forall_mem_cons.2 ⟨hwhole, hitems⟩, hend, ?_⟩
      rw [List.flatMap_cons, List.append_assoc]

/-- A descriptor declares a page if it has whole items at its front the last of which sets it, whatever follows
them. In a row of whole items with one behind it that is cut off, the whole ones alone count, and of them the
items as such: neither what stands inside the data of another one nor what is left of the last. More bytes take
nothing back. -/
theorem declares_items (page : UInt16) (d : Bytes) :
    (declares page d = true ↔ ∃ (items : List Item) (item : Item) (rest : Bytes),
      (∀ x ∈ items ++ [item], x.IsWhole) ∧ item.Sets page ∧ d = (items ++ [item]).flatMap Item.bytes ++ rest) ∧
    (∀ (items : List Item) rest, (∀ x ∈ items, x.IsWhole) → IsCut rest → d = items.flatMap Item.bytes ++ rest →
      (declares page d = true ↔ ∃ x ∈ items, x.Sets page)) ∧
    (declares page d = true → ∀ more, declares page (d ++ more) = true) := by
  have hfront : declares page d = true ↔ ∃ (items : List Item) (item : Item) (rest : Bytes),
      (∀ x ∈ items ++ [item], x.IsWhole) ∧ item.Sets page ∧
        d = (items ++ [item]).flatMap Item.bytes ++ rest := by
    constructor
    · intro h
      obtain ⟨items, rest, hwhole, hend, rfl⟩ := exists_items d
      rw [declares_append hwhole, declares_of_none hend] at h
      obtain ⟨item, hmem, hsets⟩ := h.resolve_right Bool.false_ne_true
      obtain ⟨before, after, rfl⟩ := List.append_of_mem hmem
      rw [List.append_cons] at hwhole ⊢
      refine ⟨before, item, after.flatMap Item.bytes ++ rest,
        fun x hx => hwhole x (List.mem_append_left _ hx), hsets, ?_⟩
      rw [List.flatMap_append, List.append_assoc]
    · rintro ⟨items, item, rest, hwhole, hsets, rfl⟩
      exact (declares_append hwhole rest).2 (.inl ⟨item, by simp, hsets⟩)
  refine ⟨hfront, fun items rest hwhole hcut hd => ?_, fun h more => ?_⟩
  · rw [hd, declares_append hwhole, declares_of_none (nextItem?_of_isCut hcut)]
    exact or_iff_left Bool.false_ne_true
  · obtain ⟨items, item, rest, hwhole, hsets, rfl⟩ := hfront.1 h
    rw [List.append_assoc]
    exact (declares_append hwhole _).2 (.inl ⟨item, by simp, hsets⟩)

/-- The page stands inside a long item, inside the data of a short one, and in a Usage Page item that lacks its last
byte. With this byte it is declared. -/
theorem declares_items_nested :
    let items := [Item.long 1 [0x06, 0x00, 0xFF], .short 0x27 [0x06, 0x00, 0xFF, 0x06]]
    let d := items.flatMap Item.bytes ++ [0x06, 0x00]
    (∀ x ∈ items, x.IsWhole) ∧ IsCut [0x06, 0x00] ∧ ¬ declares 0xFF00 d = true ∧
      declares 0xFF00 (d ++ [0xFF]) = true ∧ ∀ more, declares 0xFF00 (d ++ [0xFF] ++ more) = true := by
  intro items d
  have hlong : (Item.long 1 [0x06, 0x00, 0xFF]).IsWhole := show 3 < 256 by decide
  have hshort : (Item.short 0x27 [0x06, 0x00, 0xFF, 0x06]).IsWhole := ⟨by decide, by decide⟩
  have hwhole : ∀ x ∈ items, x.IsWhole :=
    List.forall_mem_cons.2 ⟨hlong, List.forall_mem_singleton.2 hshort⟩
  have hpage : (Item.short 0x06 [0x00, 0xFF]).IsWhole := ⟨by decide, by decide⟩
  have hcut : IsCut [0x06, 0x00] := ⟨.short 0x06 [0x00, 0xFF], hpage, ⟨[0xFF], rfl⟩, by decide⟩
  have hno : ¬ ∃ x ∈ items, x.Sets 0xFF00 := by
    rintro ⟨x, hx, hsets⟩
    rcases List.mem_cons.1 hx with rfl | hx
    · exact hsets
    · rw [List.mem_singleton.1 hx] at hsets
      exact absurd hsets.1 (by decide)
  have hyes : declares 0xFF00 (d ++ [0xFF]) = true := by
    refine (declares_items 0xFF00 (d ++ [0xFF])).1.2 ⟨items, .short 0x06 [0x00, 0xFF], [], ?_, ?_, rfl⟩
    · exact List.forall_mem_append.2 ⟨hwhole, List.forall_mem_singleton.2 hpage⟩
    · exact ⟨by decide, by decide⟩
  refine ⟨hwhole, hcut, fun h => hno ?_, hyes, (declares_items 0xFF00 (d ++ [0xFF])).2.2 hyes⟩
  exact ((declares_items 0xFF00 d).2.1 items [0x06, 0x00] hwhole hcut rfl).1 h

end Haptics.Descriptor
