import Haptics.Events.Listener
import Haptics.Proofs.Delivery.Ledger
import Haptics.Proofs.Settings.NameMap

/-!
# The effects in settings

The effects that look-ups can give are exactly those that the settings list: an event without a binding
reaches the default effect, and an argument without an effect of its own reaches the one of its table. So the
report of numbers that are no effect's is exact (`Settings.strays_exact`).
-/

namespace Haptics

namespace Settings

variable {s : Settings} {name event argument : String} {v : Int64} {fallback : Option Int64}
  {byArgument : NameMap Int64}

/-! ### What is listed -/

theorem mem_effectsOf_table : v ∈ effectsOf (.table fallback byArgument) ↔
    fallback = some v ∨ ∃ argument, byArgument.get? argument = some v := by
  simp [effectsOf, NameMap.get?_eq_some_iff]

/-- An effect is listed as the default one, or under the event that it is bound to. -/
theorem mem_allEffects_iff : (name, v) ∈ s.allEffects ↔
    (name = defaultName ∧ s.defaultEffect = some v) ∨
      ∃ b, s.events.get? name = some b ∧ v ∈ effectsOf b := by
  simp only [allEffects, List.mem_append, List.mem_map, Option.mem_toList, Prod.mk.injEq, List.mem_flatMap,
    NameMap.get?_eq_some_iff]
  constructor
  · rintro (⟨_, hd, rfl, rfl⟩ | ⟨⟨_, b⟩, hb, _, hv, rfl, rfl⟩)
    · exact .inl ⟨rfl, hd⟩
    · exact .inr ⟨b, hb, hv⟩
  · rintro (⟨rfl, hd⟩ | ⟨b, hb, hv⟩)
    · exact .inl ⟨v, hd, rfl, rfl⟩
    · exact .inr ⟨(name, b), hb, v, hv, rfl, rfl⟩

/-! ### What a look-up gives -/

theorem effectFor_of_none (h : s.events.get? event = none) :
    s.effectFor event argument = s.defaultEffect := by
  simp only [effectFor, h]

theorem effectFor_of_fixed (h : s.events.get? event = some (.fixed v)) :
    s.effectFor event argument = some v := by
  simp only [effectFor, h]

theorem effectFor_of_table (h : s.events.get? event = some (.table fallback byArgument)) :
    s.effectFor event argument = ((byArgument.get? argument).or fallback).or s.defaultEffect := by
  simp only [effectFor, h]

theorem mem_allEffects_of_effectFor (h : s.effectFor event argument = some v) :
    ∃ name, (name, v) ∈ s.allEffects := by
  rcases hb : s.events.get? event with _ | b
  · rw [effectFor_of_none hb] at h
    exact ⟨defaultName, mem_allEffects_iff.2 (.inl ⟨rfl, h⟩)⟩
  cases b with
  | fixed n =>
    rw [effectFor_of_fixed hb] at h
    obtain rfl := Option.some.inj h
    exact ⟨event, mem_allEffects_iff.2 (.inr ⟨_, hb, List.mem_singleton_self n⟩)⟩
  | table fallback byArgument =>
    rw [effectFor_of_table hb] at h
    have hlisted : v ∈ effectsOf (.table fallback byArgument) → ∃ name, (name, v) ∈ s.allEffects :=
      fun hv => ⟨event, mem_allEffects_iff.2 (.inr ⟨_, hb, hv⟩)⟩
    rcases ha : byArgument.get? argument with _ | n
    · rcases hf : fallback with _ | n
      · rw [ha, hf] at h
        exact ⟨defaultName, mem_allEffects_iff.2 (.inl ⟨rfl, h⟩)⟩
      · rw [ha, hf] at h
        exact hlisted (mem_effectsOf_table.2 (.inl (hf.trans h)))
    · rw [ha] at h
      exact hlisted (mem_effectsOf_table.2 (.inr ⟨argument, ha.trans h⟩))

/-- Every effect that is listed can be looked up: under its own event and argument, or under others that have
nothing of their own. -/
theorem exists_effectFor_of_mem (h : (name, v) ∈ s.allEffects) :
    ∃ event argument, s.effectFor event argument = some v := by
  rcases mem_allEffects_iff.1 h with ⟨-, hd⟩ | ⟨b, hb, hv⟩
  · obtain ⟨event, he⟩ := s.events.exists_get?_eq_none
    exact ⟨event, "", (effectFor_of_none he).trans hd⟩
  cases b with
  | fixed n =>
    obtain rfl := List.mem_singleton.1 hv
    exact ⟨name, "", effectFor_of_fixed hb⟩
  | table fallback byArgument =>
    rcases mem_effectsOf_table.1 hv with hf | ⟨argument, ha⟩
    · obtain ⟨argument, ha⟩ := byArgument.exists_get?_eq_none
      exact ⟨name, argument, by rw [effectFor_of_table hb, ha, hf]; rfl⟩
    · exact ⟨name, argument, by rw [effectFor_of_table hb, ha]; rfl⟩

/-! ### What is reported -/

theorem isStray_iff : isStray v = true ↔ ¬ Effect.Names v := by
  by_cases hn : Effect.Names v
  · obtain ⟨e, he⟩ := Effect.ofNumber_of_names hn
    simp [isStray, he, hn, Except.isOk, Except.toBool]
  · simp [isStray, Effect.ofNumber_of_not_names hn, hn, Except.isOk, Except.toBool]

theorem mem_strayEffects_iff : (name, v) ∈ s.strayEffects ↔ (name, v) ∈ s.allEffects ∧ ¬ Effect.Names v := by
  simp only [strayEffects, List.mem_mergeSort, List.mem_filter, isStray_iff]

end Settings

namespace Listener

variable {s : Settings} {line : List Char} {l : Listener}

/-- A line is rejected only for the effect of its event. -/
theorem exists_of_hear_rejected (h : (l.hear s line).1 = some .rejected) :
    ∃ event argument v, s.effectFor event argument = some v ∧ ¬ Effect.Names v := by
  unfold hear at h
  split at h
  · cases h
  · rename_i e _
    split at h
    · cases h
    · split at h
      · cases h
      · rename_i n hn
        refine ⟨e.name, e.argument, n, hn, fun hnames => ?_⟩
        have hr : (l.inbox.request n).1 = .rejected := Option.some.inj h
        rw [Inbox.request_fst, if_pos hnames] at hr
        split at hr <;> cases hr

end Listener

namespace Settings

/-- The effects that look-ups can give are those that are listed. If none of them is reported as a number that
is no effect's, no line is ever rejected; and each number that is reported is no effect's, but is what some
look-up gives. -/
theorem strays_exact (s : Settings) :
    (∀ v, (∃ event argument, s.effectFor event argument = some v) ↔ ∃ name, (name, v) ∈ s.allEffects) ∧
    (s.strayEffects = [] → ∀ (l : Listener) (line : List Char), (l.hear s line).1 ≠ some .rejected) ∧
    ∀ name v, (name, v) ∈ s.strayEffects →
      ¬ Effect.Names v ∧ ∃ event argument, s.effectFor event argument = some v := by
  refine ⟨fun v => ?_, fun hnone l line hr => ?_, fun name v h => ?_⟩
  · constructor
    · rintro ⟨event, argument, h⟩
      exact mem_allEffects_of_effectFor h
    · rintro ⟨name, h⟩
      exact exists_effectFor_of_mem h
  · obtain ⟨event, argument, v, hv, hn⟩ := Listener.exists_of_hear_rejected hr
    obtain ⟨name, hm⟩ := mem_allEffects_of_effectFor hv
    have hs := mem_strayEffects_iff.2 ⟨hm, hn⟩
    rw [hnone] at hs
    cases hs
  · obtain ⟨hm, hn⟩ := mem_strayEffects_iff.1 h
    exact ⟨hn, exists_effectFor_of_mem hm⟩

/-- Settings with every kind of binding give no line cause for rejection; with a stray number for one argument
of a table, that number is what the table gives for it. -/
theorem strays_exact_table :
    let events (n : Int64) : NameMap Binding :=
      ⟨[("openwindow", .fixed 5), ("workspace", .table (some 2) ⟨[("1", n)], by simp⟩)], by simp⟩
    let sound : Settings := ⟨some 1, events 10, .default, none⟩
    let stray : Settings := ⟨some 1, events 42, .default, none⟩
    sound.strayEffects = [] ∧
      (∀ (l : Listener) (line : List Char), (l.hear sound line).1 ≠ some .rejected) ∧
      ("workspace", 42) ∈ stray.strayEffects ∧
      ∃ event argument, stray.effectFor event argument = some 42 := by
  intro events sound stray
  have hnames : ∀ p ∈ sound.allEffects, Effect.Names p.2 := by decide
  have hnone : sound.strayEffects = [] := List.eq_nil_iff_forall_not_mem.2 fun p hp =>
    (mem_strayEffects_iff.1 hp).2 (hnames p (mem_strayEffects_iff.1 hp).1)
  have hmem : ("workspace", 42) ∈ stray.strayEffects := mem_strayEffects_iff.2 (by decide)
  exact ⟨hnone, (strays_exact sound).2.1 hnone, hmem, ((strays_exact stray).2.2 _ _ hmem).2⟩

end Settings

end Haptics
