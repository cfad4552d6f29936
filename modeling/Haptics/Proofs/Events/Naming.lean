import Haptics.Events.Event
import Haptics.Proofs.Text.Blank

/-!
# Where a name ends

A line names an event up to its first separator. The separator overlaps itself, so in a row of more than two `>` the
name ends before all of them: `IsName` says which texts are names, and `isName_iff` that no separator then ends
before the one behind the name does. An event is read from a line exactly if the line is what `written` gives, with
white space around it (`parse?_separated`).
-/

namespace Haptics.Event

open Text

variable {line name : List Char} {e e' : Event}

/-- What can stand before a separator as a name: no separator is in it, and it does not end in half of one. -/
def IsName (name : List Char) : Prop := ¬ separator <:+: name ∧ name.getLast? ≠ some '>'

instance : Decidable (IsName name) :=
  inferInstanceAs (Decidable (¬ separator <:+: name ∧ name.getLast? ≠ some '>'))

/-- An event as the compositor writes it. -/
def written (e : Event) : List Char := e.name.toList ++ separator ++ e.argument.toList

theorem separator_ne_nil : separator ≠ [] := List.cons_ne_nil _ _

theorem separator_isSuffix_iff : separator <:+ name ++ ['>'] ↔ name.getLast? = some '>' := by
  have hhalves : separator = ['>'] ++ ['>'] := rfl
  rw [hhalves, List.suffix_append_inj_of_length_eq rfl, List.getLast?_eq_some_iff]
  constructor
  · rintro ⟨⟨front, h⟩, -⟩
    exact ⟨front, h.symm⟩
  · rintro ⟨front, h⟩
    exact ⟨⟨front, h.symm⟩, rfl⟩

theorem isName_iff : IsName name ↔ ¬ separator <:+: name ++ separator.dropLast := by
  have hhalf : separator.dropLast = ['>'] := rfl
  rw [hhalf, List.infix_concat_iff, separator_isSuffix_iff, IsName, not_or, and_comm]

theorem cut_separator_iff : cutAtFirst? separator line = some (e.name.toList, e.argument.toList) ↔
    line = e.written ∧ IsName e.name.toList := by
  rw [cutAtFirst?_eq_some_iff separator_ne_nil, isName_iff, written]

theorem parse?_eq_some_iff : parse? line = some e ↔ trim line = e.written ∧ IsName e.name.toList := by
  rw [← cut_separator_iff, parse?, Option.map_eq_some_iff]
  constructor
  · rintro ⟨⟨name, argument⟩, hcut, rfl⟩
    rw [hcut, String.toList_ofList, String.toList_ofList]
  · intro hcut
    exact ⟨_, hcut, by simp only [String.ofList_toList]⟩

theorem parse?_eq_none_iff : parse? line = none ↔ ¬ separator <:+: trim line := by
  rw [parse?, Option.map_eq_none_iff, cutAtFirst?_eq_none_iff]

theorem written_injective (h : IsName e.name.toList) (h' : IsName e'.name.toList) (hw : e.written = e'.written) :
    e = e' := by
  have hcut := cut_separator_iff.2 ⟨rfl, h⟩
  rw [cut_separator_iff.2 ⟨hw, h'⟩] at hcut
  obtain ⟨hname, hargument⟩ := Prod.mk.inj (Option.some.inj hcut)
  cases e
  cases e'
  rw [Event.mk.injEq]
  exact ⟨String.toList_inj.1 hname.symm, String.toList_inj.1 hargument.symm⟩

/-- White space stands at an end of a written event only if it begins the name or ends the argument. -/
theorem isTrimmed_written (hname : e.name.toList.head?.any isBlank = false)
    (hargument : e.argument.toList.getLast?.any isBlank = false) : IsTrimmed e.written := by
  constructor
  · rw [written, List.append_assoc]
    rcases hn : e.name.toList with _ | ⟨c, name⟩
    · rfl
    · rwa [hn] at hname
  · rw [written, List.getLast?_append]
    rcases ha : e.argument.toList.getLast? with _ | c
    · rw [Option.none_or, List.getLast?_append]
      rfl
    · rwa [ha] at hargument

/-- An event is read from a line exactly if the line, without the white space around it, is the event as it is written
and the name is one that can stand before a separator. So there is one at most, and none exactly if that text has no
separator. White space goes off a line in one way only, so an event is read back from it with any white space around
it and any argument, if the name does not begin with white space and the argument does not end in any. -/
theorem parse?_separated :
    (∀ line e, parse? line = some e ↔ trim line = e.written ∧ IsName e.name.toList) ∧
    (∀ line text, trim line = text ↔ IsTrimmed text ∧ IsPadded line text) ∧
    (∀ line, parse? line = none ↔ ¬ separator <:+: trim line) ∧
    (∀ e e' : Event, IsName e.name.toList → IsName e'.name.toList → e.written = e'.written → e = e') ∧
    ∀ (e : Event) (line : List Char), IsName e.name.toList → e.name.toList.head?.any isBlank = false →
      e.argument.toList.getLast?.any isBlank = false → IsPadded line e.written → parse? line = some e := by
  refine ⟨fun line e => parse?_eq_some_iff, fun line text => trim_eq_iff, fun line => parse?_eq_none_iff,
    fun e e' => written_injective, fun e line hn hhead hlast hp => ?_⟩
  have htrim : trim line = e.written := trim_eq_iff.2 ⟨isTrimmed_written hhead hlast, hp⟩
  exact parse?_eq_some_iff.2 ⟨htrim, hn⟩

/-- A name with half a separator in it, an argument that begins and ends with separators, and white space of three
kinds around them; and a row of three `>`, of which the last belongs to the argument. -/
theorem parse?_separated_overlapping :
    let e : Event := ⟨"a>b", ">> c>>"⟩
    let e' : Event := ⟨"", ">"⟩
    let line := '\t' :: Char.ofNat 0x3000 :: e.written ++ ['\n']
    IsName e.name.toList ∧ IsName e'.name.toList ∧ parse? line = some e ∧ parse? ">>>".toList = some e' := by
  intro e e' line
  have hn : IsName e.name.toList := by decide
  have hn' : IsName e'.name.toList := by decide
  have hp : IsPadded line e.written := ⟨['\t', Char.ofNat 0x3000], ['\n'], rfl,
    List.forall_mem_cons.2 ⟨rfl, List.forall_mem_singleton.2 rfl⟩, List.forall_mem_singleton.2 rfl⟩
  refine ⟨hn, hn', parse?_separated.2.2.2.2 e line hn (by decide) (by decide) hp, ?_⟩
  exact (parse?_separated.1 _ e').2 ⟨by decide, hn'⟩

end Haptics.Event
