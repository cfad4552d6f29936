import Haptics.Proofs.Json.Writing
import Haptics.Proofs.Settings.NameMap
import Haptics.Settings.Printer
import Haptics.Settings.Reader

/-!
# Settings read back

Settings are read as they were written, whichever of the fields that hold their default are left out. Each
reader is taken back to its printer on its own: numbers and names, then bindings, the daemon's fields and
maps, by `fields?_respelled_record` for records.
-/

namespace Haptics.Settings

open Json (record respelled Writes)

/-! ### Documents with fields left out -/

/-- The value of a field, which can only be left out if it is the default. -/
def kept {α : Type} [DecidableEq α] (leaveOut : Bool) (missing x : α) (write : α → Json) : Option Json :=
  if leaveOut ∧ x = missing then none else some (write x)

def abridgedBinding (leaveOut : Bool) : Binding → Json
  | .fixed n => ofNumber n
  | .table fallback byArgument =>
    record [("default", fallback.map ofNumber), ("args", kept leaveOut .empty byArgument (ofMap ofNumber))]

/-- The daemon's settings without the fields that hold their default and are in `out`. -/
def abridgedDaemon (out : String → Bool) (d : DaemonSettings) : Json :=
  record
    [("queue_capacity", kept (out "queue_capacity") DaemonSettings.default.queueCapacity d.queueCapacity
        fun n => .ofInt n.toNat),
     ("response_timeout_ms", kept (out "response_timeout_ms") DaemonSettings.default.responseTimeoutMs
        d.responseTimeoutMs fun n => .ofInt n.toNat),
     ("connection", kept (out "connection") none d.connection fun c => (c.map fun c => Json.ofText c.key).getD .null),
     ("ipc_socket", kept (out "ipc_socket") none d.commandSocket fun p => (p.map Json.ofText).getD .null)]

/-- Settings without the fields that hold their default and whose paths are in `out`. An effect that is not set
is never written. -/
def abridged (out : List String → Bool) (s : Settings) : Json :=
  record
    [("default_effect", s.defaultEffect.map ofNumber),
     ("events", kept (out ["events"]) .empty s.events fun events =>
        .ofMembers (events.entries.map fun (name, b) => (name, abridgedBinding (out ["events", name, "args"]) b))),
     ("daemon", kept (out ["daemon"]) .default s.daemon (abridgedDaemon fun name => out ["daemon", name]))]

example : Json.render (default.abridged fun _ => true) = ['\x7b', '\x7d'] := rfl

theorem forall_kept {α : Type} [DecidableEq α] {leaveOut : Bool} {missing x : α} {write : α → Json}
    {P : Json → Prop} (h : P (write x)) : ∀ v ∈ kept leaveOut missing x write, P v := by
  intro v hv
  rw [kept] at hv
  split at hv
  · cases hv
  · cases hv; exact h

/-- What is written of a table: effects and their map. -/
theorem forall_table {leaveOut : Bool} {fallback : Option Int64} {byArgument : NameMap Int64} {P : Json → Prop}
    (hnumber : ∀ n, P (ofNumber n)) (hmap : P (ofMap ofNumber byArgument)) :
    ∀ field ∈ [("default", fallback.map ofNumber), ("args", kept leaveOut .empty byArgument (ofMap ofNumber))],
      ∀ v ∈ field.2, P v := by
  refine List.forall_mem_cons.2 ⟨?_, List.forall_mem_singleton.2 (forall_kept hmap)⟩
  intro v hv
  obtain ⟨n, -, rfl⟩ := Option.map_eq_some_iff.1 hv
  exact hnumber n

theorem abridgedBinding_false (b : Binding) : abridgedBinding false b = ofBinding b := by
  cases b with
  | fixed n => rfl
  | table fallback byArgument => cases fallback <;> rfl

/-- Nothing is left out of what is written. -/
theorem abridged_nothing (s : Settings) : s.abridged (fun _ => false) = s.toJson := by
  obtain ⟨effect, events, daemon, source⟩ := s
  simp only [abridged, abridgedBinding_false]
  cases effect <;> rfl

/-! ### Fields -/

theorem field_kept {α : Type} [DecidableEq α] {leaveOut : Bool} {missing x : α} {write : α → Json}
    {read : Json → Option α} (h : ∀ x, read (write x).respelled = some x) :
    field missing read ((kept leaveOut missing x write).map respelled) = some x := by
  rw [kept]
  split
  · rename_i hx
    rw [hx.2]; rfl
  · exact h x

theorem nullable_of_ne_null {α : Type} {read : Json → Option α} {v : Json} (h : v ≠ .null) :
    nullable read v = (read v).map some := by
  rw [nullable.eq_def]
  split
  · exact absurd rfl h
  · rfl

theorem int64?_ofNumber (n : Int64) : (ofNumber n).respelled.int64? = some n := by
  rw [ofNumber, Json.respelled_ofInt, Json.int64?, Json.int?_ofInt, Option.bind_some, Text.int64?,
    if_pos ⟨n.minValue_le_toInt, n.toInt_le⟩, Int64.ofInt_toInt]

theorem uint64?_ofInt (n : UInt64) : (Json.ofInt n.toNat).respelled.uint64? = some n := by
  rw [Json.respelled_ofInt, Json.uint64?, Json.int?_ofInt]
  exact (if_pos n.toNat_lt_size).trans (congrArg some UInt64.ofNat_toNat)

/-- An effect that is not set is not written, and no field means none. -/
theorem field_effect (effect : Option Int64) :
    field none (nullable Json.int64?) ((effect.map ofNumber).map respelled) = some effect := by
  cases effect with
  | none => rfl
  | some n =>
    have hne : (ofNumber n).respelled ≠ .null := nofun
    rw [Option.map_some, Option.map_some, field, nullable_of_ne_null hne, int64?_ofNumber]
    rfl

/-- A field whose value may be none is written as null then, which no value is written as. -/
theorem nullable_getD {α : Type} {write : α → Json} {read : Json → Option α}
    (hread : ∀ x, read (write x).respelled = some x) (hne : ∀ x, (write x).respelled ≠ .null) (x? : Option α) :
    nullable read ((x?.map write).getD .null).respelled = some x? := by
  cases x? with
  | none => rfl
  | some x =>
    rw [Option.map_some, Option.getD_some, nullable_of_ne_null (hne x), hread]
    rfl

theorem readConnection_ofText (c : Connection) : readConnection (Json.ofText c.key).respelled = some c := by
  have hmembers : (Json.ofText c.key).respelled.members? = none := rfl
  have htext := Json.text?_respelled_ofText c.key
  rw [readConnection, hmembers]
  simp only [htext, Option.bind_some]
  cases c <;> rfl

theorem nullable_connection (c : Option Connection) :
    nullable readConnection ((c.map fun c => Json.ofText c.key).getD .null).respelled = some c :=
  nullable_getD readConnection_ofText (fun _ => nofun) c

theorem nullable_text (p : Option String) :
    nullable Json.text? ((p.map Json.ofText).getD .null).respelled = some p :=
  nullable_getD Json.text?_respelled_ofText (fun _ => nofun) p

theorem readMap_ofMembers {α : Type} {read : Json → Option α} {write : String → α → Json}
    (h : ∀ name x, read (write name x).respelled = some x) (m : NameMap α) :
    readMap read (Json.ofMembers (m.entries.map fun (name, x) => (name, write name x))).respelled = some m := by
  rw [readMap, Json.members?_respelled_ofMembers, Option.bind_some, List.map_map,
    Json.mapM_map_of_forall (h := id)]
  · rw [List.map_id, Option.map_some, NameMap.ofEntries_entries]
  · intro e he
    simp [h]

theorem readMap_ofMap (m : NameMap Int64) : readMap Json.int64? (ofMap ofNumber m).respelled = some m :=
  readMap_ofMembers (fun _ => int64?_ofNumber) m

/-! ### Records -/

theorem readTable_abridged (leaveOut : Bool) (fallback : Option Int64) (byArgument : NameMap Int64) :
    readTable (abridgedBinding leaveOut (.table fallback byArgument)).respelled =
      some (.table fallback byArgument) := by
  have hfields : (abridgedBinding leaveOut (.table fallback byArgument)).respelled.fields? ["default", "args"] = _ :=
    Json.fields?_respelled_record (by decide : ["default", "args"].Nodup)
  rw [readTable, hfields]
  simp only [List.map_cons, List.map_nil, field_effect, field_kept readMap_ofMap, Option.bind_some, Option.map_some]

theorem readDaemon_abridged (out : String → Bool) (d : DaemonSettings) :
    readDaemon (abridgedDaemon out d).respelled = some d := by
  have hfields : (abridgedDaemon out d).respelled.fields?
      ["queue_capacity", "response_timeout_ms", "connection", "ipc_socket"] = _ :=
    Json.fields?_respelled_record
      (by decide : ["queue_capacity", "response_timeout_ms", "connection", "ipc_socket"].Nodup)
  rw [readDaemon, hfields]
  simp only [List.map_cons, List.map_nil, field_kept uint64?_ofInt, field_kept nullable_connection,
    field_kept nullable_text, Option.bind_some, Option.map_some]

/-! ### Bindings -/

theorem isSound_ofNumber (n : Int64) : (ofNumber n).respelled.isSound = true := by
  have hlow := n.le_toInt
  have hhigh := n.toInt_lt
  exact Json.Numeral.isFinite_ofInt (by simp only [UInt64.size]; omega)

theorem depth_abridgedBinding_le (leaveOut : Bool) (b : Binding) :
    (abridgedBinding leaveOut b).respelled.depth ≤ 2 := by
  cases b with
  | fixed n => exact Nat.zero_le 2
  | table fallback byArgument =>
    refine Json.depth_respelled_record_le (forall_table (fun n => Nat.zero_le 1) ?_)
    exact Json.depth_respelled_ofMembers_le (List.forall_mem_map.2 fun e he => Nat.zero_le 0)

theorem isSound_abridgedBinding (leaveOut : Bool) (b : Binding) :
    (abridgedBinding leaveOut b).respelled.isSound = true := by
  cases b with
  | fixed n => exact isSound_ofNumber n
  | table fallback byArgument =>
    refine Json.isSound_respelled_record (forall_table isSound_ofNumber ?_)
    exact Json.isSound_respelled_ofMembers (List.forall_mem_map.2 fun e he => isSound_ofNumber e.2)

theorem readBinding_abridged (leaveOut : Bool) (b : Binding) :
    readBinding (abridgedBinding leaveOut b).respelled = some b := by
  have hdepth : ¬ bindingDepth < (abridgedBinding leaveOut b).respelled.depth :=
    Nat.not_lt.2 (Nat.le_trans (depth_abridgedBinding_le leaveOut b) (by decide))
  rw [readBinding, decide_eq_false hdepth, isSound_abridgedBinding, Bool.not_true, Bool.or_false,
    if_neg Bool.false_ne_true]
  cases b with
  | fixed n =>
    rw [abridgedBinding, int64?_ofNumber]
  | table fallback byArgument =>
    have hnone : (abridgedBinding leaveOut (.table fallback byArgument)).respelled.int64? = none := rfl
    rw [hnone, readTable_abridged]

theorem ofJson?_abridged (out : List String → Bool) (s : Settings) :
    ofJson? (s.abridged out).respelled = some { s with source := none } := by
  have hfields : (s.abridged out).respelled.fields? ["default_effect", "events", "daemon"] = _ :=
    Json.fields?_respelled_record (by decide : ["default_effect", "events", "daemon"].Nodup)
  have hbinding (name : String) := readBinding_abridged (out ["events", name, "args"])
  rw [ofJson?, hfields]
  simp only [List.map_cons, List.map_nil, field_effect, field_kept (readMap_ofMembers hbinding),
    field_kept (readDaemon_abridged _), Option.bind_some, Option.map_some]

/-! ### Texts -/

theorem writes_abridgedBinding (leaveOut : Bool) (b : Binding) :
    Writes (Json.render (abridgedBinding leaveOut b)) (abridgedBinding leaveOut b) := by
  cases b with
  | fixed n => exact Json.writes_render_ofInt _
  | table fallback byArgument =>
    refine Json.writes_render_record (forall_table (fun n => Json.writes_render_ofInt _) ?_)
    exact Json.writes_render_ofMembers (List.forall_mem_map.2 fun e he => Json.writes_render_ofInt _)

theorem writes_abridgedDaemon (out : String → Bool) (d : DaemonSettings) :
    Writes (Json.render (abridgedDaemon out d)) (abridgedDaemon out d) := by
  refine Json.writes_render_record ?_
  simp only [List.forall_mem_cons]
  refine ⟨forall_kept (Json.writes_render_ofInt _), forall_kept (Json.writes_render_ofInt _), forall_kept ?_,
    forall_kept ?_, by simp⟩
  · cases d.connection with
    | none => exact .null
    | some c => exact Json.writes_render_ofText _
  · cases d.commandSocket with
    | none => exact .null
    | some p => exact Json.writes_render_ofText _

theorem writes_abridged (out : List String → Bool) (s : Settings) :
    Writes (Json.render (s.abridged out)) (s.abridged out) := by
  refine Json.writes_render_record ?_
  simp only [List.forall_mem_cons]
  refine ⟨?_, forall_kept ?_, forall_kept (writes_abridgedDaemon _ _), by simp⟩
  · intro v hv
    obtain ⟨n, -, rfl⟩ := Option.map_eq_some_iff.1 hv
    exact Json.writes_render_ofInt _
  · exact Json.writes_render_ofMembers (List.forall_mem_map.2 fun e he => writes_abridgedBinding _ _)

theorem parse?_of_isDocument (out : List String → Bool) (s : Settings) {text : List Char}
    (h : Json.IsDocument text (s.abridged out)) :
    parse? (Text.encode text) = some { s with source := none } := by
  rw [parse?, Json.read?_of_isDocument h]
  exact ofJson?_abridged out s

/-- What is written is read back, but for the file it came from, and so is every document that leaves out
fields with their default, with any blanks between its tokens. -/
theorem read_back (s : Settings) :
    parse? (Text.encode s.render) = some { s with source := none } ∧
    (∀ out, parse? (Text.encode (Json.render (s.abridged out))) = some { s with source := none }) ∧
    ∀ out text, Json.IsDocument text (s.abridged out) →
      parse? (Text.encode text) = some { s with source := none } := by
  have habridged out := parse?_of_isDocument out s (Json.isDocument_render (writes_abridged out s))
  have hfull := habridged fun _ => false
  rw [abridged_nothing] at hfull
  refine ⟨hfull, habridged, ?_⟩
  intro out text htext
  exact parse?_of_isDocument out s htext

/-- The least effect under a name with a control character, and a socket, over several lines. -/
theorem read_back_lines :
    let s : Settings := ⟨none, .ofEntries [("bell\x07", .table (some (-9223372036854775808)) .empty)],
      { DaemonSettings.default with commandSocket := some "/run/\u00e9" }, some "/etc/haptics.json"⟩
    let text :=
      ("\x7b\n  \"events\": \x7b\"bell\\u0007\": \x7b\"default\": -9223372036854775808\x7d\x7d,\n" ++
        "  \"daemon\": \x7b\"ipc_socket\": \"/run/\u00e9\"\x7d\n\x7d\n").toList
    Json.IsDocument text (s.abridged fun _ => true) ∧
      parse? (Text.encode text) = some { s with source := none } := by
  intro s text
  have hvalue : s.abridged (fun _ => true) = .ofMembers
      [("events", .ofMembers [("bell\x07", .ofMembers [("default", ofNumber (-9223372036854775808))])]),
       ("daemon", .ofMembers [("ipc_socket", .ofText "/run/\u00e9")])] := rfl
  have hdoc : Json.IsDocument text (s.abridged fun _ => true) := by
    rw [hvalue]
    let space : Json.Gap := ⟨[' '], by decide⟩
    let line : Json.Gap := ⟨['\n'], by decide⟩
    let indent : Json.Gap := ⟨['\n', ' ', ' '], by decide⟩
    have htable := Writes.object .empty .empty space (.int (-9223372036854775808)) (.nil .empty)
      (k := Json.ofString "default")
    have hevents := Writes.object .empty .empty space htable (.nil .empty) (k := Json.ofString "bell\x07")
    have hdaemon := Writes.object .empty .empty space (.string (Json.ofString "/run/\u00e9")) (.nil .empty)
      (k := Json.ofString "ipc_socket")
    have htail := Json.WritesMembers.cons .empty indent .empty space hdaemon (.nil line) (k := Json.ofString "daemon")
    exact ⟨.empty, line, _, .object indent .empty space hevents htail, by decide +kernel⟩
  exact ⟨hdoc, (read_back s).2.2 _ text hdoc⟩

end Haptics.Settings
