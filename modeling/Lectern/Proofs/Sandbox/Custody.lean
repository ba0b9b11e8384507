/-
Module: Lectern.Proofs.Sandbox.Custody
Purpose: What an executor still holds: the session that is shown, those of mounts that wait for the
  page, and those that an unmount left to be taken down. No other session is still to be let go.
Trusted boundary: none
Main exports: Executor.Holds, Executor.Custody, Executor.Move.custody, Scene.custody_run
-/
import Mathlib.Data.List.Nodup
import Mathlib.Data.List.ReduceOption
import Lectern.Proofs.Sandbox.Moves

namespace Lectern.Sandbox

namespace Executor

/-! ## What is held -/

/-- Does an executor still hold what a mount hung into the page? It is shown, or the mount waits for
it to load, or an unmount left it to be taken down. -/
def Holds (executor : Executor) (version : Nat) : Prop :=
  executor.session = some version ∨ executor.phase? version = some .loading ∨
    some version ∈ executor.teardowns

/-- Is nothing in flight, neither a mount nor what an unmount left? -/
def Idle (executor : Executor) : Prop :=
  (∀ entry ∈ executor.mounts, ∃ mounted, entry.2 = .finished mounted) ∧ executor.teardowns = []

/-- The books of an executor are in order. -/
structure Custody (executor : Executor) : Prop where
  /-- Mounts have distinct versions, none above the newest. -/
  begun : executor.begun.Nodup
  bounded : ∀ version ∈ executor.begun, version ≤ executor.version
  made : executor.made.Nodup
  /-- Nothing is held for a mount that waits for its module. -/
  acquired : ∀ version ∈ executor.made, executor.phase? version = some .loading ∨
    ∃ mounted, executor.phase? version = some (.finished mounted)
  /-- What was not let go is held, and what is held was not let go. -/
  kept : ∀ version, version ∈ executor.kept ↔ executor.Holds version
  shown : ∀ version, executor.session = some version →
    executor.phase? version = some (.finished true)
  leaving : ∀ version, some version ∈ executor.teardowns →
    executor.phase? version = some (.finished true)
  apart : ∀ version, executor.session = some version → some version ∉ executor.teardowns
  once : executor.teardowns.reduceOption.Nodup
  /-- A newest mount that is done is shown, or nothing is. -/
  outcome : ∀ mounted, executor.phase? executor.version = some (.finished mounted) →
    executor.session = if mounted then some executor.version else none
  /-- If the last call was an unmount, nothing is shown, not even an error once that is due. -/
  absent : executor.phase? executor.version = none →
    executor.session = none ∧ (executor.teardowns = [] → executor.diagnostic = none)

variable {executor : Executor}

/-- A mount that waits for its module has nothing to let go of. -/
theorem Custody.letGo_of_waits (custody : executor.Custody) {version : Nat} {bundle : Bundle}
    (waits : executor.phase? version = some (.fetching bundle)) :
    executor.letGo version = executor := by
  have absent : executor.session? version = none := by
    rw [session?_eq_none]
    intro member
    rcases custody.acquired version member with loading | ⟨mounted, done⟩
    · rw [waits] at loading
      cases loading
    · rw [waits] at done
      cases done
  unfold letGo
  rw [absent]

/-- While the newest mount waits for its module, only earlier ones came to the page. -/
theorem Custody.made_lt (custody : executor.Custody) {bundle : Bundle}
    (waits : executor.phase? executor.version = some (.fetching bundle)) :
    ∀ earlier ∈ executor.made, earlier < executor.version := by
  intro earlier member
  have acquired := custody.acquired earlier member
  have begun : earlier ∈ executor.begun := by
    by_contra absent
    rw [phase?_eq_none.mpr absent] at acquired
    simp at acquired
  refine Nat.lt_of_le_of_ne (custody.bounded earlier begun) ?_
  rintro rfl
  rw [waits] at acquired
  simp at acquired

/-- With nothing in flight, what is held is what is shown. -/
theorem Idle.holds_iff (idle : executor.Idle) (version : Nat) :
    executor.Holds version ↔ executor.session = some version := by
  unfold Holds
  rw [idle.2]
  constructor
  · rintro (shown | loading | left)
    · exact shown
    · obtain ⟨entry, listed, same⟩ := Option.map_eq_some_iff.mp loading
      obtain ⟨mounted, done⟩ := idle.1 entry (List.mem_of_find?_eq_some listed)
      rw [done] at same
      cases same
    · cases left
  · exact .inl

/-- The next version is not taken. -/
theorem Custody.next_unknown (custody : executor.Custody) :
    executor.phase? (executor.version + 1) = none := by
  rw [phase?_eq_none]
  intro member
  have below := custody.bounded _ member
  omega

/-! ## Custody behind each move -/

/-- A mount that is no longer wanted ends without a trace, once it has let go of what it held. -/
private theorem Custody.abandoned (custody : executor.Custody) {version : Nat} {phase : Phase}
    (waits : executor.phase? version = some phase)
    (unfinished : ∀ mounted, phase ≠ .finished mounted)
    (late : version ≠ executor.version) :
    ((executor.letGo version).setPhase version (.finished false)).Custody where
  begun := by simpa using custody.begun
  bounded := by simpa using custody.bounded
  made := by simpa using custody.made
  acquired := by
    intro other member
    have before := custody.acquired other
    simp only [setPhase_made, letGo_made, setPhase_phase?, letGo_phase?] at member ⊢
    grind
  kept := by
    intro other
    have shown := custody.shown version
    have leaving := custody.leaving version
    simp only [Holds, setPhase_kept, mem_kept_letGo, custody.kept, setPhase_phase?, letGo_phase?,
      setPhase_session, letGo_session, setPhase_teardowns, letGo_teardowns]
    grind
  shown := by
    intro other shown
    have before := custody.shown other
    simp only [setPhase_session, letGo_session, setPhase_phase?, letGo_phase?] at shown ⊢
    grind
  leaving := by
    intro other due
    have before := custody.leaving other
    simp only [setPhase_teardowns, letGo_teardowns, setPhase_phase?, letGo_phase?] at due ⊢
    grind
  apart := by simpa using custody.apart
  once := by simpa using custody.once
  outcome := by simpa [late.symm] using custody.outcome
  absent := by simpa [late.symm] using custody.absent

/-- The newest mount fails: it lets go of what it held, and so does what was shown. -/
private theorem Custody.fails (custody : executor.Custody) (error : MountError) (node : Nat)
    {phase : Phase} (waits : executor.phase? executor.version = some phase)
    (unfinished : ∀ mounted, phase ≠ .finished mounted) :
    (((executor.letGo executor.version).giveWay error node).setPhase executor.version
      (.finished false)).Custody where
  begun := by simpa using custody.begun
  bounded := by simpa using custody.bounded
  made := by simpa using custody.made
  acquired := by
    intro other member
    have before := custody.acquired other
    simp only [setPhase_made, giveWay_made, letGo_made, setPhase_phase?, giveWay_phase?,
      letGo_phase?] at member ⊢
    grind
  kept := by
    intro other
    have shown := custody.shown other
    have leaving := custody.leaving other
    have apart := custody.apart other
    simp only [Holds, setPhase_kept, mem_kept_giveWay, mem_kept_letGo, custody.kept,
      setPhase_phase?, giveWay_phase?, letGo_phase?, setPhase_session, giveWay_session,
      letGo_session, setPhase_teardowns, giveWay_teardowns, letGo_teardowns]
    grind
  shown := by
    intro other shown
    simp at shown
  leaving := by
    intro other due
    have before := custody.leaving other
    simp only [setPhase_teardowns, giveWay_teardowns, letGo_teardowns, setPhase_phase?,
      giveWay_phase?, letGo_phase?] at due ⊢
    grind
  apart := by
    intro other shown
    simp at shown
  once := by simpa using custody.once
  outcome := by
    intro mounted done
    simp only [setPhase_version, giveWay_version, letGo_version, setPhase_phase?, giveWay_phase?,
      letGo_phase?, setPhase_session, giveWay_session] at done ⊢
    grind
  absent := by
    intro missing
    simp only [setPhase_version, giveWay_version, letGo_version, setPhase_phase?, giveWay_phase?,
      letGo_phase?] at missing
    grind

/-- The newest mount comes through and takes the place of what was shown. -/
private theorem Custody.arrives (custody : executor.Custody)
    (waits : executor.phase? executor.version = some .loading) :
    ((executor.takePlace executor.version).setPhase executor.version
      (.finished true)).Custody where
  begun := by simpa using custody.begun
  bounded := by simpa using custody.bounded
  made := by simpa using custody.made
  acquired := by
    intro other member
    have before := custody.acquired other
    simp only [setPhase_made, takePlace_made, setPhase_phase?, takePlace_phase?] at member ⊢
    grind
  kept := by
    intro other
    have shown := custody.shown other
    have apart := custody.apart other
    simp only [Holds, setPhase_kept, mem_kept_takePlace, custody.kept, setPhase_phase?,
      takePlace_phase?, setPhase_session, takePlace_session, setPhase_teardowns,
      takePlace_teardowns]
    grind
  shown := by
    intro other shown
    simp only [setPhase_session, takePlace_session, setPhase_phase?, takePlace_phase?] at shown ⊢
    grind
  leaving := by
    intro other due
    have before := custody.leaving other
    simp only [setPhase_teardowns, takePlace_teardowns, setPhase_phase?, takePlace_phase?] at due ⊢
    grind
  apart := by
    intro other shown due
    have before := custody.leaving other
    simp only [setPhase_session, takePlace_session, setPhase_teardowns,
      takePlace_teardowns] at shown due
    grind
  once := by simpa using custody.once
  outcome := by
    intro mounted done
    simp only [setPhase_version, takePlace_version, setPhase_phase?, takePlace_phase?,
      setPhase_session, takePlace_session] at done ⊢
    grind
  absent := by
    intro missing
    simp only [setPhase_version, takePlace_version, setPhase_phase?, takePlace_phase?] at missing
    grind

theorem addMount_phase? (custody : executor.Custody) (bundle : Bundle) (asked : Nat) :
    (executor.addMount bundle).phase? asked =
      if asked = executor.version + 1 then some (.fetching bundle)
      else executor.phase? asked := by
  have missing := custody.next_unknown
  simp only [phase?, addMount, Option.map_eq_none_iff] at missing ⊢
  rw [List.find?_append]
  by_cases same : asked = executor.version + 1
  · subst asked
    simp [missing]
  · simp [same, Ne.symm same]

/-- A mount begins, and is the newest. -/
private theorem Custody.begins (custody : executor.Custody) (bundle : Bundle) :
    (executor.addMount bundle).Custody where
  begun := by
    rw [addMount_begun, List.nodup_append]
    refine ⟨custody.begun, by simp, ?_⟩
    intro first inside last here
    have below := custody.bounded first inside
    rw [List.mem_singleton] at here
    omega
  bounded := by
    intro version member
    rw [addMount_begun, List.mem_append, List.mem_singleton] at member
    rw [addMount_version]
    rcases member with earlier | rfl
    · exact Nat.le_succ_of_le (custody.bounded version earlier)
    · exact Nat.le_refl _
  made := custody.made
  acquired := by
    intro version member
    have before := custody.acquired version member
    have unknown := custody.next_unknown
    rw [addMount_phase? custody]
    grind
  kept := by
    intro version
    have unknown := custody.next_unknown
    simp only [addMount_kept, custody.kept, Holds, addMount_session, addMount_teardowns,
      addMount_phase? custody]
    grind
  shown := by
    intro version shown
    have before := custody.shown version shown
    have unknown := custody.next_unknown
    rw [addMount_phase? custody]
    grind
  leaving := by
    intro version due
    have before := custody.leaving version due
    have unknown := custody.next_unknown
    rw [addMount_phase? custody]
    grind
  apart := custody.apart
  once := custody.once
  outcome := by
    intro mounted done
    rw [addMount_version, addMount_phase? custody, if_pos rfl] at done
    cases done
  absent := by
    intro missing
    rw [addMount_version, addMount_phase? custody, if_pos rfl] at missing
    cases missing

/-- The newest mount comes to the page. -/
private theorem Custody.acquires (custody : executor.Custody) {bundle : Bundle}
    (session : MountSession) (marked : List Nat)
    (waits : executor.phase? executor.version = some (.fetching bundle))
    (own : session.version = executor.version) (fresh : session.disposed = false) :
    ((executor.takeIn session marked).setPhase executor.version .loading).Custody where
  begun := by simpa using custody.begun
  bounded := by simpa using custody.bounded
  made := by
    rw [setPhase_made, takeIn_made, List.nodup_append]
    refine ⟨custody.made, by simp, ?_⟩
    intro first inside last here
    have before := custody.acquired first inside
    rw [List.mem_singleton, own] at here
    grind
  acquired := by
    intro version member
    have before := custody.acquired version
    simp only [setPhase_made, takeIn_made, List.mem_append, List.mem_singleton, own] at member
    simp only [setPhase_phase?, takeIn_phase?]
    grind
  kept := by
    intro version
    simp only [setPhase_kept, mem_kept_takeIn _ _ _ _ fresh, custody.kept, Holds, setPhase_session,
      takeIn_session, setPhase_teardowns, takeIn_teardowns, setPhase_phase?, takeIn_phase?, own]
    grind
  shown := by
    intro version shown
    have before := custody.shown version shown
    simp only [setPhase_phase?, takeIn_phase?]
    grind
  leaving := by
    intro version due
    have before := custody.leaving version due
    simp only [setPhase_phase?, takeIn_phase?]
    grind
  apart := custody.apart
  once := custody.once
  outcome := by
    intro mounted done
    simp only [setPhase_version, takeIn_version, setPhase_phase?, takeIn_phase?] at done
    grind
  absent := by
    intro missing
    simp only [setPhase_version, takeIn_version, setPhase_phase?, takeIn_phase?] at missing
    grind

/-- What is shown is left to be taken down. -/
private theorem Custody.leave (custody : executor.Custody) : executor.leave.Custody where
  begun := custody.begun
  bounded := by
    intro version member
    exact Nat.le_succ_of_le (custody.bounded version member)
  made := custody.made
  acquired := custody.acquired
  kept := by
    intro version
    simp only [leave_kept, custody.kept, Holds, leave_session, leave_phase?, leave_teardowns,
      List.mem_append, List.mem_singleton]
    grind
  shown := by
    intro version shown
    cases shown
  leaving := by
    intro version due
    rcases List.mem_append.mp due with earlier | last
    · exact custody.leaving version earlier
    · exact custody.shown version (List.mem_singleton.mp last).symm
  apart := by
    intro version shown
    cases shown
  once := by
    rw [leave_teardowns, ← List.concat_eq_append, List.reduceOption_concat, List.nodup_append]
    refine ⟨custody.once, by cases executor.session <;> simp, ?_⟩
    intro first inside last here
    rintro rfl
    rw [List.reduceOption_mem_iff] at inside
    rw [Option.mem_toList] at here
    exact custody.apart first here inside
  outcome := by
    intro mounted done
    rw [leave_version, leave_phase?, custody.next_unknown] at done
    cases done
  absent := by
    intro _
    refine ⟨rfl, ?_⟩
    intro none
    simp at none

/-- What the oldest unmount left is taken down. -/
private theorem Custody.takesDown (custody : executor.Custody) {given : Option Nat}
    {later : List (Option Nat)} (due : executor.teardowns = given :: later) :
    (executor.takeDown given later).Custody where
  begun := by simpa using custody.begun
  bounded := by simpa using custody.bounded
  made := by simpa using custody.made
  acquired := by
    intro version member
    rw [takeDown_made] at member
    rw [takeDown_phase?]
    exact custody.acquired version member
  kept := by
    intro version
    have shown := custody.shown version
    have leaving := custody.leaving version
    have apart := custody.apart version
    have gone : given = some version → some version ∉ later := by
      rintro rfl member
      have once := custody.once
      rw [due, List.reduceOption_cons_of_some, List.nodup_cons] at once
      exact once.1 (List.reduceOption_mem_iff.mpr member)
    simp only [mem_kept_takeDown, custody.kept, Holds, takeDown_session, takeDown_phase?,
      takeDown_teardowns, due, List.mem_cons] at leaving apart ⊢
    grind
  shown := by
    intro version shown
    rw [takeDown_session] at shown
    rw [takeDown_phase?]
    exact custody.shown version shown
  leaving := by
    intro version left
    rw [takeDown_teardowns] at left
    rw [takeDown_phase?]
    exact custody.leaving version (due ▸ List.mem_cons_of_mem _ left)
  apart := by
    intro version shown left
    rw [takeDown_session] at shown
    rw [takeDown_teardowns] at left
    exact custody.apart version shown (due ▸ List.mem_cons_of_mem _ left)
  once := by
    rw [takeDown_teardowns]
    have once := custody.once
    rw [due] at once
    cases given with
    | none => exact once
    | some version =>
        rw [List.reduceOption_cons_of_some] at once
        exact once.of_cons
  outcome := by simpa using custody.outcome
  absent := by
    intro missing
    rw [takeDown_version, takeDown_phase?] at missing
    rw [takeDown_session]
    exact ⟨(custody.absent missing).1, fun _ => takeDown_diagnostic _ _ _⟩

/-- Every move keeps the books in order. -/
theorem Move.custody {call : Option Call} {after : Executor} (move : executor.Move call after)
    (custody : executor.Custody) : after.Custody := by
  cases move with
  | idle => exact custody
  | begins bundle => exact custody.begins bundle
  | unwanted waits late =>
      have ended := custody.abandoned waits (by simp) late
      rw [custody.letGo_of_waits waits] at ended
      exact ended
  | refused error node waits =>
      have ended := custody.fails error node waits (by simp)
      rw [custody.letGo_of_waits waits] at ended
      exact ended
  | acquires session marked waits own fresh => exact custody.acquires session marked waits own fresh
  | abandoned waits late => exact custody.abandoned waits (by simp) late
  | crashes error node waits => exact custody.fails error node waits (by simp)
  | arrives waits => exact custody.arrives waits
  | unmounts => exact custody.leave
  | takesDown due => exact custody.takesDown due
  | reports error =>
      exact { custody with
        kept := custody.kept }

/-- The books of an executor that has done nothing are in order. -/
theorem custody_fresh (host : Nat) (settings : SandboxSettings) :
    Custody { host, settings } where
  begun := List.nodup_nil
  bounded := by simp [begun]
  made := List.nodup_nil
  acquired := by simp [made]
  kept := by simp [kept, Holds, phase?]
  shown := by simp
  leaving := by simp
  apart := by simp
  once := by simp
  outcome := by simp [phase?]
  absent := by simp

end Executor

/-- The books are in order after any history. -/
theorem Scene.custody_run {scene : Scene} (custody : scene.executor.Custody)
    (events : List Scene.Event) : (scene.run events).executor.Custody := by
  induction events generalizing scene with
  | nil => exact custody
  | cons event rest inductionHypothesis =>
      exact inductionHypothesis ((scene.step_move event).custody custody)

end Lectern.Sandbox
