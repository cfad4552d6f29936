import Mathlib.Data.List.Basic
import Haptics.Settings.Store

/-!
# Settings that are held

`IsChosen` says which settings a row of files gives: those of the first file that can be loaded, or the
default ones. Looking whether a file is there first makes no difference. Whatever becomes of the files and of
the lock, each reload holds the settings chosen at that moment, and what is held can always be run with
(`Kept.run_holds`).
-/

namespace Haptics.Settings

variable {t t' : Tree} {base path : String} {paths : List String} {s : Settings}

/-- Settings that the daemon can run with. -/
structure Runs (s : Settings) : Prop where
  queue : 1 ≤ s.daemon.queueCapacity
  wait : 1 ≤ s.daemon.responseTimeoutMs

theorem runs_default : default.Runs := ⟨by decide, by decide⟩

theorem runs_of_check (h : s.check = .ok ()) : s.Runs := by
  unfold check at h
  split at h
  · cases h
  rename_i hq
  split at h
  · cases h
  rename_i hw
  exact ⟨by grind, by grind⟩

/-! ### Loading one file -/

/-- All that a successful load goes through. -/
theorem load_eq_ok (h : load t base path = .ok s) : ∃ content s₀,
    t.contentAt base path = .ok content ∧ parse? content = some s₀ ∧ s₀.check = .ok () ∧
      s = { s₀ with source := some path } := by
  unfold load at h
  split at h
  · cases h
  rename_i content hc
  split at h
  · cases h
  split at h
  · cases h
  rename_i s₀ hs
  split at h
  · cases h
  rename_i hcheck
  exact ⟨content, s₀, hc, hs, hcheck, (Except.ok.inj h).symm⟩

theorem source_of_load (h : load t base path = .ok s) : s.source = some path := by
  obtain ⟨content, s₀, -, -, -, rfl⟩ := load_eq_ok h
  rfl

theorem runs_of_load (h : load t base path = .ok s) : s.Runs := by
  obtain ⟨content, s₀, -, -, hcheck, rfl⟩ := load_eq_ok h
  have hruns := runs_of_check hcheck
  exact ⟨hruns.queue, hruns.wait⟩

/-- What can be loaded is there. -/
theorem exists?_of_load (h : load t base path = .ok s) : t.exists? base path = true := by
  obtain ⟨content, s₀, hc, -, -, -⟩ := load_eq_ok h
  rw [Tree.contentAt] at hc
  rw [Tree.exists?]
  rcases hp : t.placeOf true base path with e | place
  · rw [hp] at hc
    cases hc
  · rfl

/-! ### Choosing among files -/

/-- What a file gives, if it can be loaded. -/
def loaded? (t : Tree) (base path : String) : Option Settings := (load t base path).toOption

theorem loaded?_eq_some_iff : loaded? t base path = some s ↔ load t base path = .ok s := by
  rw [loaded?]
  rcases load t base path with e | s'
  · exact ⟨nofun, nofun⟩
  · exact ⟨fun h => congrArg _ (Option.some.inj h), fun h => congrArg _ (Except.ok.inj h)⟩

theorem loaded?_congr (h : t'.contentAt base path = t.contentAt base path) :
    loaded? t' base path = loaded? t base path := by
  rw [loaded?, loaded?, load, load, h]

/-- The settings that a row of files gives: those of the first one that can be loaded. -/
def IsChosen (t : Tree) (base : String) (paths : List String) (s : Settings) : Prop :=
  (∃ before path after, paths = before ++ path :: after ∧ (∀ p ∈ before, loaded? t base p = none) ∧
    load t base path = .ok s ∧ s.source = some path) ∨
  ((∀ p ∈ paths, loaded? t base p = none) ∧ s = default ∧ s.source = none)

theorem IsChosen.runs (h : IsChosen t base paths s) : s.Runs := by
  rcases h with ⟨_, _, _, -, -, hs, -⟩ | ⟨-, rfl, -⟩
  · exact runs_of_load hs
  · exact runs_default

/-- Looking first whether a file is there changes nothing. -/
theorem firstUsable_eq (t : Tree) (base : String) (paths : List String) :
    (firstUsable t base paths).1 = (paths.findSome? (loaded? t base)).getD default := by
  induction paths with
  | nil => rfl
  | cons path paths ih =>
    rw [firstUsable, List.findSome?_cons, loaded?]
    rcases hl : load t base path with e | s
    · split <;> exact ih
    · rw [if_pos (exists?_of_load hl)]
      rfl

/-- A row of files gives one settings, and no others. -/
theorem isChosen_iff : IsChosen t base paths s ↔ s = (paths.findSome? (loaded? t base)).getD default := by
  constructor
  · rintro (⟨before, path, after, rfl, hbefore, hl, -⟩ | ⟨hnone, rfl, -⟩)
    · have hpath : loaded? t base path = some s := loaded?_eq_some_iff.2 hl
      rw [List.findSome?_eq_some_iff.2 ⟨before, path, after, rfl, hpath, hbefore⟩]
      rfl
    · rw [List.findSome?_eq_none_iff.2 hnone]
      rfl
  · rintro rfl
    rcases hs : paths.findSome? (loaded? t base) with _ | s
    · exact .inr ⟨List.findSome?_eq_none_iff.1 hs, rfl, rfl⟩
    · obtain ⟨before, path, after, hpaths, hpath, hbefore⟩ := List.findSome?_eq_some_iff.1 hs
      have hl := loaded?_eq_some_iff.1 hpath
      exact .inl ⟨before, path, after, hpaths, hbefore, hl, source_of_load hl⟩

theorem isChosen_obtain (env : Environment) (t : Tree) (base : String) (explicit : Option String) :
    IsChosen t base (candidates env explicit) (obtain env t base explicit).1 :=
  isChosen_iff.2 (firstUsable_eq t base _)

/-- Only what the candidates give matters. Whether one is missing, broken or invalid does not. -/
theorem obtain_congr {env : Environment} {explicit : Option String}
    (h : ∀ p ∈ candidates env explicit, loaded? t' base p = loaded? t base p) :
    (obtain env t' base explicit).1 = (obtain env t base explicit).1 := by
  rw [obtain, obtain, firstUsable_eq, firstUsable_eq, ← List.head?_filterMap, ← List.head?_filterMap,
    List.filterMap_congr h]

/-- No other file is read when one is named. -/
theorem obtain_some_congr (env : Environment) (h : t'.contentAt base path = t.contentAt base path) :
    (obtain env t' base (some path)).1 = (obtain env t base (some path)).1 := by
  refine obtain_congr fun p hp => ?_
  obtain rfl := List.mem_singleton.1 hp
  exact loaded?_congr h

end Settings

/-! ### Keeping them -/

/-- What becomes of the files, and of the settings that are held. -/
inductive Upkeep where
  | change (t : Tree)
  | poison
  | reload (explicit : Option String)

/-- Files, and the settings that were read from them. -/
structure Kept where
  tree : Tree
  held : Settings.Held

namespace Kept

open Settings

variable (env : Environment) (base : String)

def start (t : Tree) (explicit : Option String) : Kept := ⟨t, (Held.load env t base explicit).1⟩

def step (k : Kept) : Upkeep → Kept
  | .change t => { k with tree := t }
  | .poison => { k with held := k.held.poison }
  | .reload explicit => { k with held := (k.held.reload env k.tree base explicit).1 }

def run (k : Kept) (steps : List Upkeep) : Kept := steps.foldl (step env base) k

def NoReload (steps : List Upkeep) : Prop := ∀ explicit, .reload explicit ∉ steps

variable {env base} {k : Kept}

theorem run_cons (u : Upkeep) (steps : List Upkeep) :
    run env base k (u :: steps) = run env base (step env base k u) steps := rfl

theorem settings_run_of_noReload {steps : List Upkeep} (h : NoReload steps) :
    (run env base k steps).held.settings = k.held.settings := by
  induction steps generalizing k with
  | nil => rfl
  | cons u steps ih =>
    have hsteps : NoReload steps := fun explicit hmem => h explicit (List.mem_cons_of_mem u hmem)
    calc (run env base k (u :: steps)).held.settings
      _ = (run env base (step env base k u) steps).held.settings := by rw [run_cons]
      _ = (step env base k u).held.settings := ih hsteps
      _ = k.held.settings := by
        cases u with
        | change t => rfl
        | poison => rfl
        | reload explicit => exact absurd List.mem_cons_self (h explicit)

theorem runs_step (h : k.held.settings.Runs) (u : Upkeep) : (step env base k u).held.settings.Runs := by
  cases u with
  | change t => exact h
  | poison => exact h
  | reload explicit => exact (isChosen_obtain env k.tree base explicit).runs

theorem runs_run (h : k.held.settings.Runs) (steps : List Upkeep) :
    (run env base k steps).held.settings.Runs := by
  induction steps generalizing k with
  | nil => exact h
  | cons u steps ih =>
    rw [run_cons]
    exact ih (runs_step h u)

variable (env base)

/-- What is held, from the beginning on and whatever happens: the settings chosen when they were last read.
An edit shows at the next reload only by what the candidates give, and with an explicit path only by the
content of that file. -/
theorem run_holds (t : Tree) (explicit : Option String) :
    (∀ later, NoReload later → IsChosen t base (candidates env explicit)
      (run env base (start env base t explicit) later).held.settings) ∧
    ∀ steps, let k := run env base (start env base t explicit) steps
      k.held.settings.Runs ∧
      (∀ explicit later, NoReload later → IsChosen k.tree base (candidates env explicit)
        (run env base k (.reload explicit :: later)).held.settings) ∧
      (∀ explicit t', (∀ p ∈ candidates env explicit, loaded? t' base p = loaded? k.tree base p) →
        (run env base k [.change t', .reload explicit]).held.settings =
          (run env base k [.reload explicit]).held.settings) ∧
      ∀ path t', t'.contentAt base path = k.tree.contentAt base path →
        (run env base k [.change t', .reload (some path)]).held.settings =
          (run env base k [.reload (some path)]).held.settings := by
  have hstart : IsChosen t base (candidates env explicit) (start env base t explicit).held.settings :=
    isChosen_obtain env t base explicit
  refine ⟨fun later hlater => ?begun, fun steps => ⟨?runs, ?reloaded, ?skipped, ?alone⟩⟩
  case begun =>
    rw [settings_run_of_noReload hlater]
    exact hstart
  case runs => exact runs_run hstart.runs steps
  case reloaded =>
    intro explicit later hlater
    rw [run_cons, settings_run_of_noReload hlater]
    exact isChosen_obtain env _ base explicit
  case skipped =>
    intro explicit t' hsame
    exact obtain_congr hsame
  case alone =>
    intro path t' hsame
    exact obtain_some_congr env hsame

/-- A file with a queue for no request is mended while the lock gets poisoned. The next reload reads it. -/
theorem run_holds_mended :
    let env : Environment := ⟨none, none, none, none, "/root"⟩
    let file (text : String) : Tree := ⟨[.new (.folder [("a.json", 1)]), .new (.file (Text.encode text.toList))]⟩
    let flawed := file "\x7b\"daemon\": \x7b\"queue_capacity\": 0\x7d\x7d"
    let mended := file "\x7b\"daemon\": \x7b\"queue_capacity\": 4\x7d\x7d"
    let k := run env "/" (start env "/" flawed (some "/a.json")) [.change mended, .poison]
    let reloaded := run env "/" k [.reload (some "/a.json")]
    k.held.settings = default ∧ reloaded.held.settings.source = some "/a.json" ∧
      reloaded.held.settings.daemon.queueCapacity = 4 := by
  intro env file flawed mended k reloaded
  have hcontent (text : String) : (file text).contentAt "/" "/a.json" = .ok (Text.encode text.toList) := by
    have hnames : Tree.namesFrom "/" "/a.json" = .ok ["a.json"] := by decide +kernel
    have hsize : "a.json".utf8ByteSize = 6 := by decide +kernel
    simp [file, Tree.contentAt, Tree.placeOf, hnames, hsize, Tree.walk, Tree.steps, Path.endsWithSlash,
      Tree.entriesAt, Tree.node?, Tree.inode?, Tree.Place.id, Tree.isDenied, Inode.new, Tree.nameLimit]
  have hflawed : loaded? flawed "/" "/a.json" = none := by
    rw [loaded?, load, hcontent]
    decide +kernel
  have hmended : (loaded? mended "/" "/a.json").map (fun s => (s.source, s.daemon.queueCapacity)) =
      some (some "/a.json", 4) := by
    rw [loaded?, load, hcontent]
    decide +kernel
  have hholds := run_holds env "/" flawed (some "/a.json")
  have hbefore : k.held.settings = default := by
    have hchosen := hholds.1 [.change mended, .poison] (by simp [NoReload])
    rw [isChosen_iff, candidates, List.findSome?_singleton, hflawed] at hchosen
    exact hchosen
  obtain ⟨s, hs, hread⟩ := Option.map_eq_some_iff.1 hmended
  have hafter : reloaded.held.settings = s := by
    have hchosen := (hholds.2 [.change mended, .poison]).2.1 (some "/a.json") [] (by simp [NoReload])
    have htree : k.tree = mended := rfl
    rw [isChosen_iff, candidates, List.findSome?_singleton, htree, hs] at hchosen
    exact hchosen
  obtain ⟨hsource, hqueue⟩ := Prod.mk.inj hread
  rw [hafter]
  exact ⟨hbefore, hsource, hqueue⟩

end Kept

end Haptics
