import Haptics.Proofs.Discovery.Agreement
import Haptics.Proofs.Text.Digits
import Haptics.Proofs.Text.Upper

/-!
# The mouse's identity

Over Bluetooth the mouse is known by the spelling of its identity, which is searched for in the properties
as a whole. What the search finds is on one line: it stands in a value, or it begins at the end of a key
(`Search.overBluetooth_identity`). So it is the identity's own value that was found if no name of a device,
no longer key and no longer value has the spelling in it; but a receiver with such a name is listed as a
mouse as well (`Search.list_impostor`).
-/

namespace Haptics.Discovery

open Text

variable {i : Identity} {text line key value k v fill : List Char}

/-! ### Properties -/

def IsEntry (text key value : List Char) : Prop := key ++ '=' :: value ∈ pieces '\n' text ∧ '=' ∉ key

theorem exists_isEntry (h : value? k text = some v) :
    ∃ key value, IsEntry text key value ∧ trim key = k ∧ trim value = v := by
  obtain ⟨l, l', hl, -⟩ := List.lookup_eq_some_iff.1 h
  have hmem : (k, v) ∈ properties text := hl ▸ List.mem_append_right l List.mem_cons_self
  obtain ⟨line, hline, hp⟩ := List.mem_filterMap.1 hmem
  obtain ⟨⟨key, value⟩, hcut, hkv⟩ := Option.map_eq_some_iff.1 hp
  obtain ⟨rfl, hkey⟩ := cutAtFirst?_singleton.1 hcut
  cases hkv
  exact ⟨key, value, ⟨hline, hkey⟩, rfl, rfl⟩

theorem isEntry_iff : IsEntry text key value ↔
    (key, value) ∈ (pieces '\n' text).filterMap (cutAtFirst? ['=']) := by
  rw [List.mem_filterMap]
  constructor
  · rintro ⟨hline, hkey⟩
    exact ⟨_, hline, cutAtFirst?_singleton.2 ⟨rfl, hkey⟩⟩
  · rintro ⟨line, hline, hcut⟩
    obtain ⟨rfl, hkey⟩ := cutAtFirst?_singleton.1 hcut
    exact ⟨hline, hkey⟩

def IsTight (text : List Char) : Prop :=
  ∀ key value, IsEntry text key value →
    key.getLast?.any isBlank = false ∧ value.head?.any isBlank = false

/-! ### Spellings -/

namespace Identity

def fills : List (List Char) := [[], zeros]

/-- Whether a value is the identity, in either way and in any case. -/
def IsSpelledBy (i : Identity) (value : List Char) : Prop := ∃ fill ∈ fills, upper value = i.written fill

/-- Whether a value begins with the identity; it may go on with anything. -/
def Opens (i : Identity) (value : List Char) : Prop := ∃ fill ∈ fills, i.written fill <+: upper value

/-- Whether the identity is spelled in a text, with its key before it. -/
def StandsIn (i : Identity) (text : List Char) : Prop := ∃ fill ∈ fills, i.spelling fill <:+: upper text

instance : Decidable (i.IsSpelledBy value) :=
  inferInstanceAs (Decidable (∃ fill ∈ fills, upper value = i.written fill))

instance : Decidable (i.Opens value) :=
  inferInstanceAs (Decidable (∃ fill ∈ fills, i.written fill <+: upper value))

instance : Decidable (i.StandsIn text) :=
  inferInstanceAs (Decidable (∃ fill ∈ fills, i.spelling fill <:+: upper text))

def alphabet : List Char := ":0123456789ABCDEF".toList

theorem toUpper_mem_alphabet {n : Nat} : ∀ c ∈ Nat.toDigits 16 n, c.toUpper ∈ alphabet := by
  have hdigit : ∀ d < 16, (Nat.digitChar d).toUpper ∈ alphabet := by decide
  intro c hc
  obtain ⟨d, hd, rfl⟩ := exists_of_mem_toDigits (by decide) c hc
  exact hdigit d hd

theorem mem_alphabet_of_mem_digits {n : Nat} {c : Char} (h : c ∈ digits n) : c ∈ alphabet := by
  rcases List.mem_append.1 h with h | h
  · exact (List.mem_replicate.1 h).2 ▸ (by decide)
  · obtain ⟨x, hx, rfl⟩ := List.mem_map.1 h
    exact toUpper_mem_alphabet x hx

theorem mem_alphabet_of_mem_written (hfill : fill ∈ fills) {c : Char} (h : c ∈ i.written fill) :
    c ∈ alphabet := by
  have hfills : ∀ fill ∈ fills, fill ⊆ alphabet := by decide
  have hin := hfills fill hfill
  have hcolon : ':' ∈ alphabet := by decide
  simp only [written, List.mem_append, List.mem_cons] at h
  rcases h with (((h | rfl | h) | h) | rfl | h) | h
  · exact mem_alphabet_of_mem_digits h
  · exact hcolon
  · exact hin h
  · exact mem_alphabet_of_mem_digits h
  · exact hcolon
  · exact hin h
  · exact mem_alphabet_of_mem_digits h

theorem newline_not_mem_spelling (hfill : fill ∈ fills) : '\n' ∉ i.spelling fill := by
  intro h
  rcases List.mem_append.1 h with h | h
  · exact absurd h (by decide)
  · rcases List.mem_cons.1 h with h | h
    · cases h
    · exact absurd (mem_alphabet_of_mem_written hfill h) (by decide)

/-! ### Where a spelling stands -/

theorem standsIn_iff_line : i.StandsIn text ↔ ∃ line ∈ pieces '\n' text, i.StandsIn line := by
  have hlines : pieces '\n' (upper text) = (pieces '\n' text).map upper := pieces_upper (by decide) text
  constructor
  · rintro ⟨fill, hfill, h⟩
    obtain ⟨p, hp, hin⟩ := (isInfix_iff_pieces (newline_not_mem_spelling hfill)).1 h
    rw [hlines] at hp
    obtain ⟨line, hline, rfl⟩ := List.mem_map.1 hp
    exact ⟨line, hline, fill, hfill, hin⟩
  · rintro ⟨line, hline, fill, hfill, h⟩
    refine ⟨fill, hfill, (isInfix_iff_pieces (newline_not_mem_spelling hfill)).2 ⟨upper line, ?_, h⟩⟩
    rw [hlines]
    exact List.mem_map_of_mem hline

theorem standsIn_entry_iff (hkey : '=' ∉ key) :
    i.StandsIn (key ++ '=' :: value) ↔ identityKey <:+ upper key ∧ i.Opens value ∨ i.StandsIn value := by
  have hupper : upper (key ++ '=' :: value) = upper key ++ '=' :: upper value := by
    rw [upper_append, upper_cons_of_lt (by decide)]
  have hkey' : '=' ∉ upper key := mt (mem_upper_iff (by decide)).1 hkey
  have hsplit : ∀ fill, i.spelling fill <:+: upper (key ++ '=' :: value) ↔
      identityKey <:+ upper key ∧ i.written fill <+: upper value ∨ i.spelling fill <:+: upper value := by
    intro fill
    rw [hupper, spelling]
    exact isInfix_separated_iff (by decide) hkey'
  simp only [StandsIn, Opens, hsplit, and_or_left, exists_or, and_left_comm (b := identityKey <:+ upper key),
    exists_and_left]

theorem exists_entry_of_standsIn (h : i.StandsIn line) : ∃ key value, line = key ++ '=' :: value ∧ '=' ∉ key := by
  obtain ⟨fill, -, h⟩ := h
  have hmem : '=' ∈ upper line := h.subset (List.mem_append_right _ List.mem_cons_self)
  have hline : '=' ∈ line := (mem_upper_iff (by decide)).1 hmem
  exact List.eq_append_cons_of_mem hline

/-! ### Reading the numbers -/

theorem parse?_map_toUpper (value : List Char) : parse? (value.map Char.toUpper) = parse? value := by
  have hpieces : pieces ':' (value.map Char.toUpper) = (pieces ':' value).map (·.map Char.toUpper) :=
    pieces_map (fun c => toUpper_eq_iff (by decide)) value
  have hread : ∀ part, readHex? bound (trim (part.map Char.toUpper)) = readHex? bound (trim part) := by
    intro part
    rw [trim_map_toUpper, readHex?_map_toUpper]
  rw [parse?, parse?, hpieces, List.map_map]
  simp only [Function.comp_def, hread]

-- The upper case of a ligature is `FF`, but the ligature is no digit: hence no `F` in the identity.
theorem parse?_of_isSpelledBy
    (hi : ∀ fill ∈ fills, (i.written fill).all (·.toNat < 70) = true ∧ parse? (i.written fill) = some i)
    (h : i.IsSpelledBy value) : parse? value = some i := by
  obtain ⟨fill, hfill, h⟩ := h
  obtain ⟨hall, hread⟩ := hi fill hfill
  have hsmall : ∀ x ∈ upper value, x.toNat < 70 := by
    rw [h]
    simpa only [List.all_eq_true, decide_eq_true_eq] using hall
  have hmap : value.map Char.toUpper = i.written fill := (upper_eq_map hsmall).symm.trans h
  rw [← parse?_map_toUpper, hmap, hread]

end Identity

/-! ### The search through the properties -/

theorem mentions_iff_standsIn : mentions i text = true ↔ i.StandsIn text := by
  rw [mentions, Bool.or_eq_true, occursIn_iff, occursIn_iff]
  simp [Identity.StandsIn, Identity.fills]

theorem mentions_iff : mentions i text = true ↔ ∃ key value, IsEntry text key value ∧
    (identityKey <:+ upper key ∧ i.Opens value ∨ i.StandsIn value) := by
  rw [mentions_iff_standsIn, Identity.standsIn_iff_line]
  -- the spelling has an equals sign in it, so a line that has the spelling is an entry
  constructor
  · rintro ⟨line, hline, h⟩
    obtain ⟨key, value, rfl, hkey⟩ := Identity.exists_entry_of_standsIn h
    exact ⟨key, value, ⟨hline, hkey⟩, (Identity.standsIn_entry_iff hkey).1 h⟩
  · rintro ⟨key, value, ⟨hline, hkey⟩, h⟩
    exact ⟨_, hline, (Identity.standsIn_entry_iff hkey).2 h⟩

/-- The identity stands nowhere in a text but as the whole value of its key. -/
structure Identity.IsSole (i : Identity) (text : List Char) : Prop where
  values : ∀ key value, IsEntry text key value → ¬ i.StandsIn value
  keys : ∀ key value, IsEntry text key value → identityKey <:+ upper key → i.Opens value →
    value? identityKey text = some (trim value) ∧ i.IsSpelledBy (trim value)

theorem exists_isSpelledBy_of_mentions (hs : i.IsSole text) (h : mentions i text = true) :
    ∃ value, value? identityKey text = some value ∧ i.IsSpelledBy value := by
  obtain ⟨key, value, he, ⟨hkey, hopens⟩ | hin⟩ := mentions_iff.1 h
  · exact ⟨trim value, hs.keys key value he hkey hopens⟩
  · exact absurd hin (hs.values key value he)

theorem mentions_of_isSpelledBy (ht : IsTight text) (hv : value? identityKey text = some v)
    (h : i.IsSpelledBy v) : mentions i text = true := by
  obtain ⟨key, value, he, hkey, rfl⟩ := exists_isEntry hv
  obtain ⟨fill, hfill, h⟩ := h
  -- nothing is cut off the key at its end or off the value at its beginning
  obtain ⟨hlast, hhead⟩ := ht key value he
  have hsuffix : identityKey <:+ upper key := by
    obtain ⟨front, hfront⟩ := trim_isSuffix hlast
    refine ⟨upper front, ?_⟩
    rw [← hfront, upper_append, hkey]
    exact congrArg (upper front ++ ·) (by decide)
  have hstart : i.written fill <+: upper value := by
    obtain ⟨rest, hrest⟩ := trim_isPrefix hhead
    refine ⟨upper rest, ?_⟩
    rw [← h, ← upper_append, hrest]
  exact mentions_iff.2 ⟨key, value, he, .inl ⟨hsuffix, fill, hfill, hstart⟩⟩

end Haptics.Discovery

namespace Haptics.Search

open Discovery Text

variable {l : Search} {f : Files} {entry : String} {text : List Char} {c : Candidate}

theorem mentions_of_overBluetooth? (hp : l.properties? f entry = some text)
    (h : l.overBluetooth? f entry = some c) : mentions mouseIdentity text = true := by
  rw [overBluetooth?, hp, Option.bind_some] at h
  obtain ⟨name, -, h⟩ := Option.bind_eq_some_iff.1 h
  split at h
  next hif => exact (Bool.and_eq_true_iff.1 hif).2
  next => cases h

theorem overBolt?_eq_none (hp : l.properties? f entry = some text)
    (h : (value? identityKey text).bind Identity.parse? = some mouseIdentity) : l.overBolt? f entry = none := by
  have hnot : l.isReceiver f entry text = false := by
    rw [isReceiver, h]
    rfl
  rw [overBolt?, hp, Option.bind_some, hnot]
  rfl

theorem parse?_of_isSpelledBy_mouse {value : List Char} (h : mouseIdentity.IsSpelledBy value) :
    Identity.parse? value = some mouseIdentity :=
  Identity.parse?_of_isSpelledBy (by decide) h

/-- The search accepts a text exactly if, on any one line, the key ends like that of the identity and the value
begins with it, or the value spells key and identity somewhere in itself. Where the identity stands nowhere but
as the value of its key, that is to say that this value is the identity, in either spelling and any case. Then
a node listed over Bluetooth has the numbers of the mouse, and is not listed over Bolt. -/
theorem overBluetooth_identity (i : Identity) (text : List Char) :
    (mentions i text = true ↔ ∃ key value, IsEntry text key value ∧
      (identityKey <:+ upper key ∧ i.Opens value ∨ i.StandsIn value)) ∧
    (i.IsSole text → IsTight text →
      (mentions i text = true ↔ ∃ value, value? identityKey text = some value ∧ i.IsSpelledBy value)) ∧
    ∀ (l : Search) (f : Files) (entry : String) (c : Candidate), mouseIdentity.IsSole text →
      l.properties? f entry = some text → l.overBluetooth? f entry = some c →
      (value? identityKey text).bind Identity.parse? = some mouseIdentity ∧ l.overBolt? f entry = none := by
  refine ⟨mentions_iff, fun hs ht => ⟨exists_isSpelledBy_of_mentions hs, ?_⟩, fun l f entry c hs hp hc => ?_⟩
  · rintro ⟨value, hv, h⟩
    exact mentions_of_isSpelledBy ht hv h
  · obtain ⟨value, hv, h⟩ := exists_isSpelledBy_of_mentions hs (mentions_of_overBluetooth? hp hc)
    have hnumbers : (value? identityKey text).bind Identity.parse? = some mouseIdentity := by
      rw [hv, Option.bind_some, parse?_of_isSpelledBy_mouse h]
    exact ⟨hnumbers, overBolt?_eq_none hp hnumbers⟩

-- a longer product and a longer key, neither of which is the mouse's
example : mentions mouseIdentity "HID_ID=0005:046D:B0421".toList = true ∧
    mentions mouseIdentity "OLD_HID_ID=0005:046D:B042".toList = true := by decide

/-- The mouse beside a receiver, whose identity is another one. -/
theorem overBluetooth_identity_mouse :
    let text := "HID_ID=0005:046D:B042\nHID_NAME=MX Master 4\n".toList
    let f := receiverAndMouse ["hidraw1", "hidraw0"]
    let scan : Search := ⟨"/c", "/dev", none, 100⟩
    scan.properties? f "hidraw0" = some text ∧ mouseIdentity.IsSole text ∧ IsTight text ∧
      mentions mouseIdentity text = true ∧
      (value? identityKey text).bind Identity.parse? = some mouseIdentity ∧
      scan.overBolt? f "hidraw0" = none := by
  intro text f scan
  have hentries : ∀ P : List Char → List Char → Prop,
      (∀ p ∈ (pieces '\n' text).filterMap (cutAtFirst? ['=']), P p.1 p.2) →
        ∀ key value, IsEntry text key value → P key value :=
    fun P hP key value he => hP (key, value) (isEntry_iff.1 he)
  have hsole : mouseIdentity.IsSole text := ⟨hentries _ (by decide +kernel), hentries _ (by decide +kernel)⟩
  have htight : IsTight text := hentries _ (by decide +kernel)
  have hp : scan.properties? f "hidraw0" = some text := by decide +kernel
  have hc : scan.overBluetooth? f "hidraw0" = some ⟨.bluetooth, "/dev/hidraw0", "MX Master 4", none⟩ := by
    decide +kernel
  obtain ⟨-, hexact, htree⟩ := overBluetooth_identity mouseIdentity text
  refine ⟨hp, hsole, htight, (hexact hsole htight).2 ?_, htree scan f "hidraw0" _ hsole hp hc⟩
  exact ⟨"0005:046D:B042".toList, by decide +kernel, by decide +kernel⟩

/-- A receiver whose name spells the identity of the mouse. -/
def impostor : Files where
  names path := if path = "/c" then .ok ["hidraw0"] else .error (.os Errno.noEntry)
  content path :=
    match List.lookup path
      [("/c/hidraw0/device/uevent",
          Bytes.ofString "HID_ID=0003:0000046D:0000C548\nHID_NAME=MX Master 4 HID_ID=0005:046D:B042\n"),
        ("/c/hidraw0/device/report_descriptor", [0x06, 0x00, 0xFF]),
        ("/usb/bInterfaceNumber", Bytes.ofString "02\n")] with
    | some content => .ok content
    | none => .error (.os Errno.noEntry)
  canonical path := if path = "/c/hidraw0/device" then .ok "/usb/hid" else .error (.os Errno.noEntry)
  isThere _ := false

theorem list_impostor :
    let text := "HID_ID=0003:0000046D:0000C548\nHID_NAME=MX Master 4 HID_ID=0005:046D:B042\n".toList
    let scan : Search := ⟨"/c", "/dev", none, 100⟩
    scan.properties? impostor "hidraw0" = some text ∧
      ¬ (mentions mouseIdentity text = true ↔
        ∃ value, value? identityKey text = some value ∧ mouseIdentity.IsSpelledBy value) ∧
      (value? identityKey text).bind Identity.parse? = some ⟨0x0003, 0x046D, 0xC548⟩ ∧
      scan.list impostor = [⟨.bolt, "/dev/hidraw0", "MX Master 4 HID_ID=0005:046D:B042", some 2⟩,
        ⟨.bluetooth, "/dev/hidraw0", "MX Master 4 HID_ID=0005:046D:B042", none⟩] := by
  intro text scan
  have hvalue : value? identityKey text = some "0003:0000046D:0000C548".toList := by decide +kernel
  refine ⟨by decide +kernel, fun h => ?_, by decide +kernel, ?_⟩
  · obtain ⟨value, hv, hspelled⟩ := h.1 (by decide +kernel)
    obtain rfl := Option.some.inj (hvalue.symm.trans hv)
    exact absurd hspelled (by decide +kernel)
  · have hentries : scan.entries impostor = ["hidraw0"] := List.mergeSort_singleton _
    rw [list, hentries]
    decide +kernel

end Haptics.Search
