import Haptics.Discovery.Search
import Haptics.Proofs.System.Folders

/-!
# Finding and listing agree

All candidates are listed, each connection's by the names of their nodes (`Search.Ranked`). The mouse found is
the first of them, over the connection asked for, unless a node is set for Bluetooth; and neither what is found
nor what is listed depends on the order in which folders name their entries (`Search.find_agrees`).
-/

namespace Haptics.Search

variable {l : Search} {f g : Files} {entry : String} {c : Candidate} {H : Type}

/-! ### Candidates -/

/-- Whether a candidate stands for an entry of the class folder: it is the node of that name. -/
structure StandsFor (l : Search) (k : Connection) (entry : String) (c : Candidate) : Prop where
  connection : c.connection = k
  path : c.path = Path.join l.deviceFolder entry
  index : c.index.isSome ↔ k = .bolt

theorem standsFor_of_overBolt? (h : l.overBolt? f entry = some c) : l.StandsFor .bolt entry c := by
  obtain ⟨properties, -, h⟩ := Option.bind_eq_some_iff.1 h
  split at h
  · obtain ⟨index, -, rfl⟩ := Option.map_eq_some_iff.1 h
    exact ⟨rfl, rfl, by simp⟩
  · cases h

theorem standsFor_of_overBluetooth? (h : l.overBluetooth? f entry = some c) :
    l.StandsFor .bluetooth entry c := by
  obtain ⟨properties, -, h⟩ := Option.bind_eq_some_iff.1 h
  obtain ⟨name, -, h⟩ := Option.bind_eq_some_iff.1 h
  split at h
  · obtain rfl := Option.some.inj h
    exact ⟨rfl, rfl, by simp⟩
  · cases h

/-- The candidate that an entry stands for over a connection. -/
def over? (l : Search) (f : Files) : Connection → String → Option Candidate
  | .bolt => l.overBolt? f
  | .bluetooth => l.overBluetooth? f

theorem standsFor_of_over? {k : Connection} (h : l.over? f k entry = some c) : l.StandsFor k entry c := by
  cases k with
  | bolt => exact standsFor_of_overBolt? h
  | bluetooth => exact standsFor_of_overBluetooth? h

/-- The candidates over one connection: each is the one that its node stands for, the names of the nodes ascend,
and no entry of the class folder that stands for a candidate is left out. -/
structure Ranked (l : Search) (f : Files) (k : Connection) (group : List Candidate) (nodes : List String) :
    Prop where
  taken : List.Forall₂ (fun node c => l.over? f k node = some c) nodes group
  standsFor : List.Forall₂ (l.StandsFor k) nodes group
  ascending : nodes.Pairwise (· < ·)
  listed : ∀ node ∈ nodes, ∃ ns, f.names l.classFolder = .ok ns ∧ node ∈ ns
  complete : ∀ ns node c, f.names l.classFolder = .ok ns → node ∈ ns → l.over? f k node = some c →
    node ∈ nodes ∧ c ∈ group

theorem forall₂_filterMap {α β : Type} (g : α → Option β) (xs : List α) :
    List.Forall₂ (fun x y => g x = some y) (xs.filter (g · |>.isSome)) (xs.filterMap g) := by
  induction xs with
  | nil => exact .nil
  | cons x xs ih =>
    rcases hx : g x with _ | y
    · rw [List.filter_cons_of_neg (by simp [hx]), List.filterMap_cons_none hx]
      exact ih
    · rw [List.filter_cons_of_pos (by simp [hx]), List.filterMap_cons_some hx]
      exact .cons hx ih

theorem ranked_filterMap (hf : f.NamesOnce l.classFolder) (k : Connection) :
    l.Ranked f k ((l.entries f).filterMap (l.over? f k))
      ((l.entries f).filter (l.over? f k · |>.isSome)) := by
  have htaken := forall₂_filterMap (l.over? f k) (l.entries f)
  refine ⟨htaken, htaken.imp fun _ _ h => standsFor_of_over? h, (Files.pairwise_lt_sortedNames hf).filter _,
    fun node hn => Files.mem_sortedNames.1 (List.mem_of_mem_filter hn), fun ns node c hns hn hc => ?_⟩
  have hentry : node ∈ l.entries f := Files.mem_sortedNames.2 ⟨ns, hns, hn⟩
  exact ⟨List.mem_filter.2 ⟨hentry, by simp [hc]⟩, List.mem_filterMap.2 ⟨node, hentry, hc⟩⟩

/-! ### The first candidate over a connection -/

def isOver (k : Connection) (c : Candidate) : Bool := c.connection == k

theorem find?_eq_head? {α : Type} {p : α → Bool} {xs : List α} (h : ∀ x ∈ xs, p x = true) :
    xs.find? p = xs.head? := by
  cases xs with
  | nil => rfl
  | cons x xs => rw [List.find?_cons_of_pos (h x List.mem_cons_self), List.head?_cons]

theorem connection_of_mem {k : Connection} (h : c ∈ (l.entries f).filterMap (l.over? f k)) :
    c.connection = k := by
  obtain ⟨entry, -, hc⟩ := List.mem_filterMap.1 h
  exact (standsFor_of_over? hc).connection

theorem find?_isOver (l : Search) (f : Files) (k : Connection) :
    ((l.entries f).filterMap (l.over? f k)).find? (isOver k) = (l.entries f).findSome? (l.over? f k) := by
  rw [find?_eq_head? fun c hc => ?_, List.head?_filterMap]
  rw [isOver, connection_of_mem hc, beq_self_eq_true]

theorem find?_isOver_of_ne (l : Search) (f : Files) {j k : Connection} (h : j ≠ k) :
    ((l.entries f).filterMap (l.over? f j)).find? (isOver k) = none := by
  refine List.find?_eq_none.2 fun c hc => ?_
  rw [isOver, connection_of_mem hc, beq_iff_eq]
  exact h

theorem find?_list (l : Search) (f : Files) (k : Connection) :
    (l.list f).find? (isOver k) = (l.entries f).findSome? (l.over? f k) := by
  show (List.filterMap (l.over? f .bolt) _ ++ List.filterMap (l.over? f .bluetooth) _).find? _ = _
  rw [List.find?_append]
  cases k with
  | bolt => rw [find?_isOver, find?_isOver_of_ne l f (by decide), Option.or_none]
  | bluetooth => rw [find?_isOver, find?_isOver_of_ne l f (by decide), Option.none_or]

theorem head?_list (l : Search) (f : Files) :
    (l.list f).head? = (l.firstOverBolt? f).or ((l.entries f).findSome? (l.overBluetooth? f)) := by
  rw [list, List.head?_append, List.head?_filterMap, List.head?_filterMap]
  rfl

theorem firstOverBluetooth?_of_path {path : String} (h : l.bluetoothPath = some path) :
    l.firstOverBluetooth? f = if f.isThere path then some ⟨.bluetooth, path, mouseName, none⟩ else none := by
  rw [firstOverBluetooth?, h]

theorem firstOverBluetooth?_of_none (h : l.bluetoothPath = none) :
    l.firstOverBluetooth? f = (l.entries f).findSome? (l.overBluetooth? f) := by
  rw [firstOverBluetooth?, h]

/-! ### The order of entries -/

theorem text?_congr (h : f.Alike g) : f.text? = g.text? := by
  funext path
  rw [Files.text?, Files.text?, h.content]

theorem entries_congr (h : f.Alike g) : l.entries f = l.entries g := h.sortedNames_eq l.classFolder

theorem overBolt?_congr (h : f.Alike g) : l.overBolt? f = l.overBolt? g := by
  have hproperties : l.properties? f = l.properties? g := by
    funext entry
    rw [properties?, properties?, text?_congr h]
  have hreceiver : l.isReceiver f = l.isReceiver g := by
    funext entry properties
    rw [isReceiver, isReceiver, h.content]
  have hinterface : l.interface? f = l.interface? g := by
    funext entry
    rw [interface?, interface?, text?_congr h, h.canonical]
  funext entry
  rw [overBolt?, overBolt?, hproperties, hreceiver, hinterface]

theorem overBluetooth?_congr (h : f.Alike g) : l.overBluetooth? f = l.overBluetooth? g := by
  have hproperties : l.properties? f = l.properties? g := by
    funext entry
    rw [properties?, properties?, text?_congr h]
  have hname : l.reportedName? f = l.reportedName? g := by
    funext entry
    rw [reportedName?, reportedName?, text?_congr h, h.sortedNames_eq]
  funext entry
  rw [overBluetooth?, overBluetooth?, hproperties, hname]

theorem list_congr (h : f.Alike g) : l.list f = l.list g := by
  rw [list, list, entries_congr h, overBolt?_congr h, overBluetooth?_congr h]

theorem find_congr (h : f.Alike g) (preferred : Option Connection) :
    (l.find f preferred : Option (Mouse H)) = l.find g preferred := by
  have hbolt : l.firstOverBolt? f = l.firstOverBolt? g := by
    rw [firstOverBolt?, firstOverBolt?, entries_congr h, overBolt?_congr h]
  have hblue : l.firstOverBluetooth? f = l.firstOverBluetooth? g := by
    rw [firstOverBluetooth?, firstOverBluetooth?, entries_congr h, overBluetooth?_congr h, h.isThere]
  have hc : l.candidate? f preferred = l.candidate? g preferred := by
    cases preferred with
    | none => rw [candidate?, candidate?, hbolt, hblue]
    | some k =>
      cases k with
      | bolt => exact hbolt
      | bluetooth => exact hblue
  rw [find, find, hc]

/-! ### What is found -/

/-- Where a candidate comes from: from an entry of the class folder, or from the node that is set. -/
def ComesFrom (l : Search) (f : Files) (c : Candidate) : Prop :=
  (∃ node ns, f.names l.classFolder = .ok ns ∧ node ∈ ns ∧ c.path = Path.join l.deviceFolder node) ∨
    c.connection = .bluetooth ∧ l.bluetoothPath = some c.path

theorem StandsFor.comesFrom {k : Connection} (h : l.StandsFor k entry c) (he : entry ∈ l.entries f) :
    l.ComesFrom f c := by
  obtain ⟨ns, hns, hm⟩ := Files.mem_sortedNames.1 he
  exact .inl ⟨entry, ns, hns, hm, h.path⟩

theorem candidate_of_findSome? {k : Connection} (h : (l.entries f).findSome? (l.over? f k) = some c) :
    c.connection = k ∧ (c.index.isSome ↔ k = .bolt) ∧ l.ComesFrom f c := by
  obtain ⟨entry, he, hc⟩ := List.exists_of_findSome?_eq_some h
  have hs := standsFor_of_over? hc
  exact ⟨hs.connection, hs.index, hs.comesFrom he⟩

theorem firstOverBolt?_eq_some (h : l.firstOverBolt? f = some c) :
    c.connection = .bolt ∧ c.index.isSome ∧ l.ComesFrom f c := by
  obtain ⟨hk, hi, hfrom⟩ := candidate_of_findSome? (k := .bolt) h
  exact ⟨hk, hi.2 rfl, hfrom⟩

theorem firstOverBluetooth?_eq_some (h : l.firstOverBluetooth? f = some c) :
    c.connection = .bluetooth ∧ ¬ c.index.isSome ∧ l.ComesFrom f c := by
  rcases hp : l.bluetoothPath with _ | path
  · rw [firstOverBluetooth?_of_none hp] at h
    obtain ⟨hk, hi, hfrom⟩ := candidate_of_findSome? (k := .bluetooth) h
    exact ⟨hk, fun h => Connection.noConfusion (hi.1 h), hfrom⟩
  · rw [firstOverBluetooth?_of_path hp] at h
    split at h
    · obtain rfl := Option.some.inj h
      exact ⟨rfl, Bool.false_ne_true, .inr ⟨rfl, hp⟩⟩
    · cases h

theorem candidate?_eq_some {preferred : Option Connection} (h : l.candidate? f preferred = some c) :
    (∀ k, preferred = some k → c.connection = k) ∧ (c.index.isSome ↔ c.connection = .bolt) ∧
      l.ComesFrom f c := by
  have hfirst : l.firstOverBolt? f = some c ∧ preferred ≠ some .bluetooth ∨
      l.firstOverBluetooth? f = some c ∧ preferred ≠ some .bolt := by
    rcases preferred with _ | _ | _
    · rcases Option.or_eq_some_iff.1 h with h | ⟨-, h⟩
      · exact .inl ⟨h, by simp⟩
      · exact .inr ⟨h, by simp⟩
    · exact .inl ⟨h, by simp⟩
    · exact .inr ⟨h, by simp⟩
  rcases hfirst with ⟨h, hp⟩ | ⟨h, hp⟩
  · obtain ⟨hk, hi, hfrom⟩ := firstOverBolt?_eq_some h
    refine ⟨fun k hk' => ?_, ?_, hfrom⟩
    · cases k with
      | bolt => exact hk
      | bluetooth => exact absurd hk' hp
    · simp [hi, hk]
  · obtain ⟨hk, hi, hfrom⟩ := firstOverBluetooth?_eq_some h
    refine ⟨fun k hk' => ?_, ?_, hfrom⟩
    · cases k with
      | bolt => exact absurd hk' hp
      | bluetooth => exact hk
    · simp [hi, hk]

/-- Neither what is listed nor what is found depends on the order in which folders name their entries. The list
is of all candidates over Bolt and then of all those over Bluetooth, by ascending names of their nodes. The
mouse found is the first one listed, over the connection asked for if one is; only where a node is set for
Bluetooth, that one is used instead of those listed, if it is there. A mouse found is not open yet. -/
theorem find_agrees (l : Search) (f : Files) :
    (∀ g, f.Alike g → l.list f = l.list g ∧
      ∀ preferred, (l.find f preferred : Option (Mouse H)) = l.find g preferred) ∧
    (f.NamesOnce l.classFolder → ∃ bolts blues nodes nodes', l.list f = bolts ++ blues ∧
      l.Ranked f .bolt bolts nodes ∧ l.Ranked f .bluetooth blues nodes') ∧
    (l.bluetoothPath = none →
      (l.find f none : Option (Mouse H)) = (l.list f).head?.map l.mouseAt ∧
      ∀ k, (l.find f (some k) : Option (Mouse H)) = ((l.list f).find? (isOver k)).map l.mouseAt) ∧
    (∀ path, l.bluetoothPath = some path →
      (l.find f (some .bluetooth) : Option (Mouse H)) =
        (if f.isThere path then some (.new .bluetooth path none l.timeoutMs) else none) ∧
      (l.find f (some .bolt) : Option (Mouse H)) = ((l.list f).find? (isOver .bolt)).map l.mouseAt ∧
      (l.find f none : Option (Mouse H)) =
        (((l.list f).find? (isOver .bolt)).map l.mouseAt).or (l.find f (some .bluetooth))) ∧
    ∀ preferred (m : Mouse H), l.find f preferred = some m →
      m.state = .unopened ∧ m.transport.isNone ∧ (∀ k, preferred = some k → m.connection = k) ∧
      (m.index.isSome ↔ m.connection = .bolt) ∧
      ((∃ node ns, f.names l.classFolder = .ok ns ∧ node ∈ ns ∧ m.path = Path.join l.deviceFolder node) ∨
        m.connection = .bluetooth ∧ l.bluetoothPath = some m.path) := by
  refine ⟨fun g h => ⟨list_congr h, find_congr h⟩, fun hf => ?_, fun hp => ⟨?_, fun k => ?_⟩,
    fun path hp => ⟨?_, ?_, ?_⟩, fun preferred m hm => ?_⟩
  · exact ⟨_, _, _, _, rfl, ranked_filterMap hf .bolt, ranked_filterMap hf .bluetooth⟩
  · rw [head?_list, ← firstOverBluetooth?_of_none hp]
    rfl
  · rw [find?_list]
    cases k with
    | bolt => rfl
    | bluetooth => exact congrArg _ (firstOverBluetooth?_of_none hp)
  · show (l.firstOverBluetooth? f).map l.mouseAt = _
    rw [firstOverBluetooth?_of_path hp]
    split <;> rfl
  · rw [find?_list]
    rfl
  · rw [find?_list, find, candidate?, Option.map_or]
    rfl
  · obtain ⟨c, hc, rfl⟩ := Option.map_eq_some_iff.1 hm
    obtain ⟨hk, hi, hfrom⟩ := candidate?_eq_some hc
    exact ⟨rfl, rfl, hk, hi, hfrom⟩

/-- A class folder with a receiver and a mouse over Bluetooth, and the order in which it names them. -/
def receiverAndMouse (ns : List String) : Files where
  names path := if path = "/c" then .ok ns else .error (.os Errno.noEntry)
  content path :=
    match List.lookup path
      [("/c/hidraw1/device/uevent", Bytes.ofString "HID_ID=0003:0000046D:0000C548\n"),
        ("/c/hidraw1/device/report_descriptor", [0x06, 0x00, 0xFF]),
        ("/usb/bInterfaceNumber", Bytes.ofString "02\n"),
        ("/c/hidraw0/device/uevent", Bytes.ofString "HID_ID=0005:046D:B042\nHID_NAME=MX Master 4\n")] with
    | some content => .ok content
    | none => .error (.os Errno.noEntry)
  canonical path := if path = "/c/hidraw1/device" then .ok "/usb/hid" else .error (.os Errno.noEntry)
  isThere path := path == "/dev/mouse"

theorem alike_receiverAndMouse {ns ms : List String} (h : ns.Perm ms) :
    (receiverAndMouse ns).Alike (receiverAndMouse ms) := by
  refine ⟨fun path => ?_, rfl, rfl, rfl⟩
  simp only [receiverAndMouse]
  split
  · exact .ok h
  · exact .error _ _

/-- The receiver is found first though its node comes last, unless the node that is set is asked for. -/
theorem find_agrees_receiver :
    let f := receiverAndMouse ["hidraw1", "hidraw0"]
    let scan : Search := ⟨"/c", "/dev", none, 100⟩
    let fixed : Search := ⟨"/c", "/dev", some "/dev/mouse", 100⟩
    let receiver : Candidate := ⟨.bolt, "/dev/hidraw1", "Logitech receiver", some 2⟩
    let mouse : Candidate := ⟨.bluetooth, "/dev/hidraw0", "MX Master 4", none⟩
    scan.list f = [receiver, mouse] ∧
      (scan.find f none : Option (Mouse Unit)) = some (scan.mouseAt receiver) ∧
      (scan.find f (some .bluetooth) : Option (Mouse Unit)) = some (scan.mouseAt mouse) ∧
      (fixed.find f (some .bluetooth) : Option (Mouse Unit)) = some (.new .bluetooth "/dev/mouse" none 100) ∧
      ∃ bolts blues nodes nodes', scan.list f = bolts ++ blues ∧ scan.Ranked f .bolt bolts nodes ∧
        scan.Ranked f .bluetooth blues nodes' := by
  intro f scan fixed receiver mouse
  have halike : f.Alike (receiverAndMouse ["hidraw0", "hidraw1"]) := alike_receiverAndMouse (.swap _ _ _)
  have honce : f.NamesOnce "/c" := by
    intro ns hns
    obtain rfl := Except.ok.inj hns
    decide
  obtain ⟨hsame, hranked, hscan, -, -⟩ := find_agrees (H := Unit) scan f
  have hentries : scan.entries (receiverAndMouse ["hidraw0", "hidraw1"]) = ["hidraw0", "hidraw1"] :=
    List.mergeSort_of_pairwise (by decide)
  have hlist : scan.list f = [receiver, mouse] := by
    rw [(hsame _ halike).1, list, hentries]
    decide +kernel
  obtain ⟨hnone, hsome⟩ := hscan rfl
  refine ⟨hlist, ?_, ?_, ((find_agrees fixed f).2.2.2.1 "/dev/mouse" rfl).1, hranked honce⟩
  · rw [hnone, hlist]
    rfl
  · rw [hsome, hlist]
    rfl

end Haptics.Search
