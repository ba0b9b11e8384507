/-
Module: Lectern.Proofs.Store.Order
Purpose: Which lessons are the newest and which is the oldest does not depend on the order in which
  they are looked through, as long as no two of them were made at the same moment.
Trusted boundary: none
Main exports: Timestamp.Differs, Timestamp.Precedes, MadeApart, oldest_spec, oldestQueued_spec,
  newestFirst_perm, oldestQueued_perm, oldestQueued_of_listed
-/
import Lectern.Store.Operation
import Mathlib.Data.List.Perm.Basic

namespace Lectern

/-- Two moments are not the same. One with an offset is never the same as one without. -/
def Timestamp.Differs (one other : Timestamp) : Prop :=
  one.micros ≠ other.micros ∨ one.offset.isSome ≠ other.offset.isSome

instance (one other : Timestamp) : Decidable (one.Differs other) :=
  inferInstanceAs (Decidable (_ ∨ _))

/-- A moment lies before another one. Moments with and without an offset have no order. -/
def Timestamp.Precedes (one other : Timestamp) : Prop :=
  one.micros < other.micros ∧ one.offset.isSome = other.offset.isSome

instance (one other : Timestamp) : Decidable (one.Precedes other) :=
  inferInstanceAs (Decidable (_ ∧ _))

namespace Store

/-- No two of some lessons were made at the same moment. -/
def MadeApart (lessons : List Lesson) : Prop :=
  ∀ one ∈ lessons, ∀ other ∈ lessons, one ≠ other → one.createdAt.Differs other.createdAt

theorem MadeApart.of_subset {lessons some : List Lesson} (apart : MadeApart lessons)
    (within : some ⊆ lessons) : MadeApart some :=
  fun one first other second => apart one (within first) other (within second)

variable {lessons others : List Lesson}

theorem comparable_perm (same : lessons.Perm others) : comparable lessons = comparable others := by
  unfold comparable
  rw [same.all_eq, same.all_eq]

/-- Lessons whose moments have an order are the same if they were made at the same time. -/
theorem MadeApart.eq_of_micros (apart : MadeApart lessons) (ordered : comparable lessons = true)
    {one other : Lesson} (first : one ∈ lessons) (second : other ∈ lessons)
    (same : one.createdAt.micros = other.createdAt.micros) : one = other := by
  by_contra different
  rcases apart one first other second different with micros | offset
  · exact micros same
  · apply offset
    rcases Bool.or_eq_true_iff.mp ordered with aware | naive
    · rw [List.all_eq_true.mp aware one first, List.all_eq_true.mp aware other second]
    · have unset := List.all_eq_true.mp naive
      rw [← Bool.not_inj_iff, Option.not_isSome, Option.not_isSome, unset one first,
        unset other second]

/-- The newest of some lessons come out in one order. -/
theorem newestFirst_perm (same : lessons.Perm others) (apart : MadeApart lessons) (limit : Int) :
    newestFirst limit lessons = newestFirst limit others := by
  unfold newestFirst
  rw [← comparable_perm same]
  split
  next ordered =>
    let newer (one other : Lesson) : Bool := !one.createdAt.isBefore other.createdAt
    have newer_iff (one other : Lesson) :
        newer one other = true ↔ other.createdAt.micros ≤ one.createdAt.micros := by
      simp [newer, Timestamp.isBefore]
    have trans (one two three : Lesson) (first : newer one two = true)
        (second : newer two three = true) : newer one three = true := by
      rw [newer_iff] at first second ⊢
      omega
    have total (one two : Lesson) : (newer one two || newer two one) = true := by
      rw [Bool.or_eq_true, newer_iff, newer_iff]
      omega
    have sorted : lessons.mergeSort newer = others.mergeSort newer := by
      refine List.Perm.eq_of_pairwise ?_
        (List.pairwise_mergeSort trans total lessons) (List.pairwise_mergeSort trans total others) ?_
      · intro one other first second later earlier
        rw [newer_iff] at later earlier
        refine apart.eq_of_micros ordered (List.mem_mergeSort.mp first) ?_ (by omega)
        exact same.mem_iff.mpr (List.mem_mergeSort.mp second)
      · exact (List.mergeSort_perm lessons newer).trans
          (same.trans (List.mergeSort_perm others newer).symm)
    exact congrArg (fun all => Except.ok (limited limit all)) sorted
  next => rfl

/-- The oldest of some lessons is one of them, and none was made before it. -/
theorem oldest_spec {found : Lesson} (first : oldest lessons = some found) :
    found ∈ lessons ∧ ∀ lesson ∈ lessons, found.createdAt.micros ≤ lesson.createdAt.micros := by
  have least (rest : List Lesson) (start : Lesson) :
      let found := rest.foldl (fun found lesson =>
        if lesson.createdAt.isBefore found.createdAt then lesson else found) start
      found ∈ start :: rest ∧
        ∀ lesson ∈ start :: rest, found.createdAt.micros ≤ lesson.createdAt.micros := by
    induction rest generalizing start with
    | nil => simp
    | cons next rest inductionHypothesis =>
        rw [List.foldl_cons]
        by_cases earlier : next.createdAt.isBefore start.createdAt = true
        · rw [if_pos earlier]
          obtain ⟨inside, below⟩ := inductionHypothesis next
          have here := below next List.mem_cons_self
          refine ⟨List.mem_cons_of_mem _ inside, List.forall_mem_cons.mpr ⟨?_, below⟩⟩
          have : next.createdAt.micros < start.createdAt.micros := of_decide_eq_true earlier
          omega
        · rw [if_neg earlier]
          obtain ⟨inside, below⟩ := inductionHypothesis start
          obtain ⟨here, below⟩ := List.forall_mem_cons.mp below
          refine ⟨?_, List.forall_mem_cons.mpr ⟨here, List.forall_mem_cons.mpr ⟨?_, below⟩⟩⟩
          · rcases List.mem_cons.mp inside with same | later
            · rw [same]
              exact List.mem_cons_self
            · exact List.mem_cons_of_mem _ (List.mem_cons_of_mem _ later)
          · have : ¬ next.createdAt.micros < start.createdAt.micros :=
              fun before => earlier (decide_eq_true before)
            omega
  cases lessons with
  | nil => cases first
  | cons start rest =>
      rw [oldest, Option.some.injEq] at first
      rw [← first]
      exact least rest start

/-- The lesson that comes next is one of those in the queue. -/
theorem oldestQueued_spec {lessons : List Lesson} {lesson : Lesson}
    (found : oldestQueued lessons = .ok (some lesson)) :
    lesson ∈ lessons ∧ lesson.status = .queued := by
  unfold oldestQueued at found
  simp only at found
  split at found
  next =>
    have member := (oldest_spec (Except.ok.inj found)).1
    rw [List.mem_filter] at member
    exact ⟨member.1, eq_of_beq member.2⟩
  next => cases found

theorem oldest_perm (same : lessons.Perm others) (apart : MadeApart lessons)
    (ordered : comparable lessons = true) : oldest lessons = oldest others := by
  cases found : oldest lessons with
  | none =>
      cases lessons with
      | nil => rw [same.symm.eq_nil, oldest]
      | cons first rest => cases found
  | some first =>
      cases other : oldest others with
      | none =>
          cases others with
          | nil =>
              rw [same.eq_nil] at found
              cases found
          | cons start rest => cases other
      | some second =>
          obtain ⟨inside, below⟩ := oldest_spec found
          obtain ⟨within, least⟩ := oldest_spec other
          have held := same.mem_iff.mpr within
          rw [apart.eq_of_micros ordered inside held
            (Int.le_antisymm (below _ held) (least _ (same.mem_iff.mp inside)))]

/-- The oldest lesson in the queue is one and the same. -/
theorem oldestQueued_perm (same : lessons.Perm others) (apart : MadeApart lessons) :
    oldestQueued lessons = oldestQueued others := by
  have queued := same.filter (·.status == .queued)
  unfold oldestQueued
  dsimp only
  rw [← comparable_perm queued]
  split
  next ordered =>
    rw [oldest_perm queued (apart.of_subset (List.filter_subset_self _)) ordered]
  next => rfl

/-- Lessons that were made one before the other have an order, in whatever order they stand. -/
theorem comparable_of_listed {queue : List Lesson} (same : lessons ⊆ queue)
    (oldestFirst : queue.Pairwise fun one other => one.createdAt.Precedes other.createdAt) :
    comparable lessons = true := by
  cases queue with
  | nil => rw [List.subset_nil.mp same, comparable, List.all_nil, Bool.true_or]
  | cons first rest =>
      have kind : ∀ lesson ∈ lessons,
          lesson.createdAt.offset.isSome = first.createdAt.offset.isSome := by
        intro lesson member
        rcases List.mem_cons.mp (same member) with rfl | later
        · rfl
        · exact ((List.rel_of_pairwise_cons oldestFirst) later).2.symm
      rw [comparable, Bool.or_eq_true, List.all_eq_true, List.all_eq_true]
      cases offset : first.createdAt.offset with
      | some _ =>
          refine .inl fun lesson member => ?_
          rw [kind lesson member, offset]
          rfl
      | none =>
          refine .inr fun lesson member => ?_
          rw [← Option.not_isSome, kind lesson member, offset]
          rfl

/-- The lesson that comes next is the first of those in the queue, where they are listed from the
oldest on. -/
theorem oldestQueued_of_listed {queue : List Lesson}
    (listed : ∀ lesson, lesson ∈ queue ↔ lesson ∈ lessons ∧ lesson.status = .queued)
    (oldestFirst : queue.Pairwise fun one other => one.createdAt.Precedes other.createdAt) :
    oldestQueued lessons = .ok queue.head? := by
  let waiting := lessons.filter (·.status == .queued)
  have mem_waiting (lesson : Lesson) : lesson ∈ waiting ↔ lesson ∈ queue := by
    rw [listed, List.mem_filter, beq_iff_eq]
  have ordered : comparable waiting = true :=
    comparable_of_listed (fun lesson member => (mem_waiting lesson).mp member) oldestFirst
  have next : oldest waiting = queue.head? := by
    cases found : oldest waiting with
    | none =>
        have nobody : waiting = [] := by
          cases every : waiting with
          | nil => rfl
          | cons first rest =>
              rw [every] at found
              cases found
        cases queue with
        | nil => rfl
        | cons first rest =>
            have member := (mem_waiting first).mpr List.mem_cons_self
            rw [nobody] at member
            cases member
    | some lesson =>
        obtain ⟨member, least⟩ := oldest_spec found
        have inside := (mem_waiting lesson).mp member
        cases queue with
        | nil => cases inside
        | cons first rest =>
            rcases List.mem_cons.mp inside with rfl | later
            · rfl
            · have before := (List.rel_of_pairwise_cons oldestFirst later).1
              have notBefore := least first ((mem_waiting first).mpr List.mem_cons_self)
              omega
  change (if comparable waiting then Except.ok (oldest waiting) else _) = _
  rw [if_pos ordered, next]

end Store

end Lectern
