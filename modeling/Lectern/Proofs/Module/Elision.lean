/-
Module: Lectern.Proofs.Module.Elision
Purpose: The elision of imports byte for byte: what each range takes, that the ranges stand in
  order, what is left of the source, and that the other statements stay in one piece.
Trusted boundary: none
Main exports: IsLineBreak, Takes, Precedes, keepOutside_eq, HoldsInOrder, ElidesExactly,
  elides_exactly
-/
import Lectern.Proofs.Module.Neighbours

namespace Lectern.Module

open Lectern.Syntax Lectern.Text

variable {source : ByteArray}

/-! ## Line breaks -/

/-- From one offset to another there is one line break and nothing else. -/
inductive IsLineBreak (source : ByteArray) (start : Nat) : Nat → Prop
  | feed (byte : Utf8.byteAt source start = 0x0A) : IsLineBreak source start (start + 1)
  | returnFeed (first : Utf8.byteAt source start = 0x0D)
      (second : Utf8.byteAt source (start + 1) = 0x0A) : IsLineBreak source start (start + 2)

/-- The elision goes past a line break if there is one, and stays where it is if there is none. -/
theorem afterLineBreak_cases (source : ByteArray) (stop : Nat) :
    IsLineBreak source stop (afterLineBreak source stop) ∨
      (afterLineBreak source stop = stop ∧ ∀ edge, ¬ IsLineBreak source stop edge) := by
  unfold afterLineBreak
  split
  next both =>
    simp only [Bool.and_eq_true, beq_iff_eq] at both
    exact Or.inl (.returnFeed both.1 both.2)
  next notBoth =>
    simp only [Bool.and_eq_true, beq_iff_eq] at notBoth
    split
    next feed => exact Or.inl (.feed (beq_iff_eq.mp feed))
    next noFeed =>
      apply Or.inr
      apply And.intro rfl
      intro edge lineBreak
      cases lineBreak with
      | feed byte => exact noFeed (beq_iff_eq.mpr byte)
      | returnFeed first second => exact notBoth ⟨first, second⟩

theorem le_afterLineBreak (source : ByteArray) (stop : Nat) : stop ≤ afterLineBreak source stop := by
  unfold afterLineBreak
  split
  next => omega
  next => split <;> omega

theorem afterLineBreak_of_feed {stop : Nat} (byte : Utf8.byteAt source stop = 0x0A) :
    afterLineBreak source stop = stop + 1 := by
  simp [afterLineBreak, byte]

/-- What ends behind a line break ends in front of what ends behind a later place. -/
theorem IsLineBreak.le_afterLineBreak {edge stop place : Nat}
    (lineBreak : IsLineBreak source edge stop) (behind : edge ≤ place) :
    stop ≤ afterLineBreak source place := by
  have past := Lectern.Module.le_afterLineBreak source place
  cases lineBreak with
  | feed byte =>
      rcases Nat.eq_or_lt_of_le behind with rfl | later
      · exact Nat.le_of_eq (afterLineBreak_of_feed byte).symm
      · omega
  | returnFeed first second =>
      rcases Nat.eq_or_lt_of_le behind with rfl | later
      · simp [afterLineBreak, first, second]
      -- The place can lie between the two bytes of the line break.
      · rcases Nat.eq_or_lt_of_le later with rfl | behindBoth
        · exact Nat.le_of_eq (afterLineBreak_of_feed second).symm
        · omega

/-- A node begins with a line break of the source. -/
def BeginsWithBreak (source : ByteArray) (node : Node) : Prop :=
  node.start < node.stop ∧ ∃ edge, IsLineBreak source node.start edge

/-- Behind a line break is not past what starts behind it with something else. -/
theorem IsLineBreak.le_start {edge cursor : Nat} {node : Node}
    (lineBreak : IsLineBreak source edge cursor) (behind : edge ≤ node.start)
    (text : node.start < node.stop) (plain : ¬ BeginsWithBreak source node) :
    cursor ≤ node.start := by
  have bare : ∀ stop, ¬ IsLineBreak source node.start stop :=
    fun stop starts => plain ⟨text, stop, starts⟩
  cases lineBreak with
  | feed byte =>
      have : edge ≠ node.start := fun same => bare _ (.feed (same ▸ byte))
      omega
  | returnFeed first second =>
      have : edge ≠ node.start := fun same => bare _ (.returnFeed (same ▸ first) (same ▸ second))
      have : edge + 1 ≠ node.start := fun same => bare _ (.feed (same ▸ second))
      omega

/-! ## What is taken out -/

/-- A range is a statement with the line break directly behind it, where there is one. -/
inductive Takes (source : ByteArray) (node : Node) : Nat × Nat → Prop
  | alone (bare : ∀ edge, ¬ IsLineBreak source node.stop edge) :
      Takes source node (node.start, node.stop)
  | withBreak {edge : Nat} (behind : IsLineBreak source node.stop edge) :
      Takes source node (node.start, edge)

theorem takes_range (source : ByteArray) (node : Node) :
    Takes source node (node.start, afterLineBreak source node.stop) := by
  rcases afterLineBreak_cases source node.stop with behind | ⟨stays, bare⟩
  · exact .withBreak behind
  · rw [stays]
    exact .alone bare

/-- Each range is an import or a re-export with the line break behind it. -/
theorem takes_elisionRanges (source : ByteArray) (root : Node) :
    List.Forall₂ (Takes source) (root.children.filter isDependency) (elisionRanges source root) := by
  apply List.forall₂_map_right_iff.mpr
  apply List.forall₂_same.mpr
  intro node _
  exact takes_range source node

/-- One range stands in front of another one, and at most the line break that ends the first is part
of both. -/
structure Precedes (source : ByteArray) (one other : Nat × Nat) : Prop where
  starts : one.1 ≤ other.1
  stops : one.2 ≤ other.2
  apart : ∃ edge, one.1 ≤ edge ∧ edge ≤ other.1 ∧ (one.2 = edge ∨ IsLineBreak source edge one.2)

/-- What is taken out for a statement stands in front of what is taken out for a later one. -/
theorem Takes.precedes {node later : Node} {range : Nat × Nat} (takes : Takes source node range)
    (extent : node.start ≤ node.stop) (behind : node.stop ≤ later.start)
    (extent' : later.start ≤ later.stop) :
    Precedes source range (later.start, afterLineBreak source later.stop) := by
  cases takes with
  | alone =>
      have past := le_afterLineBreak source later.stop
      exact ⟨Nat.le_trans extent behind, by simp only; omega, node.stop, extent, behind, Or.inl rfl⟩
  | withBreak lineBreak =>
      exact ⟨Nat.le_trans extent behind,
        lineBreak.le_afterLineBreak (Nat.le_trans behind extent'), node.stop, extent, behind,
        Or.inr lineBreak⟩

/-- The ranges stand in order. -/
theorem elisionRanges_pairwise {root : Node} {start stop : Nat}
    (follows : Node.Follows start stop root.children) :
    (elisionRanges source root).Pairwise (Precedes source) := by
  unfold elisionRanges
  apply List.pairwise_map.mpr
  apply List.Pairwise.filter
  generalize root.children = nodes at follows
  induction nodes generalizing start with
  | nil => exact List.Pairwise.nil
  | cons node rest inductionHypothesis =>
      obtain ⟨_, extent, others⟩ := follows
      apply List.Pairwise.cons
      · intro later member
        have between := others.between member
        exact (takes_range source node).precedes extent between.1 between.2.1
      · exact inductionHypothesis others

/-! ## What is left -/

variable {ranges : List (Nat × Nat)} {start place stop : Nat}

theorem bytesOutside_of_le (ahead : stop ≤ start) :
    bytesOutside source ranges start stop = ByteArray.empty := by
  apply bytesOutside_of_covered
  intro offset behind inside
  omega

/-- What lies in the ranges at the front of a stretch can be passed over. -/
theorem bytesOutside_skip (ahead : start ≤ place)
    (covered : ∀ offset, start ≤ offset → offset < place → isInside ranges offset = true) :
    bytesOutside source ranges start stop = bytesOutside source ranges place stop := by
  rcases Nat.le_total place stop with inside | past
  · rw [← bytesOutside_append ahead inside, bytesOutside_of_covered covered, ByteArray.empty_append]
  · rw [bytesOutside_of_le past]
    apply bytesOutside_of_covered
    intro offset behind before
    exact covered offset behind (by omega)

/-- What no range touches at the front of the rest of a source is left as it is. -/
theorem slice_append_bytesOutside (ahead : start ≤ place)
    (clear : ∀ offset, start ≤ offset → offset < place → isInside ranges offset = false) :
    Utf8.slice source start place ++ bytesOutside source ranges place source.size =
      bytesOutside source ranges start source.size := by
  rcases Nat.le_total place source.size with inside | past
  · rw [← bytesOutside_of_clear inside clear, bytesOutside_append ahead inside]
  · rw [bytesOutside_of_le past, bytesOutside_of_clear (Nat.le_refl _)
      fun offset behind before => clear offset behind (by omega), slice_rest ahead, slice_past past]

/-- What is kept beside ranges that stand in order are the bytes outside of them, in order. -/
theorem keepOutside_eq {cursor : Nat}
    (ordered : ranges.Pairwise fun one other => one.1 ≤ other.1 ∧ one.2 ≤ other.2)
    (ahead : ∀ range ∈ ranges, range.1 ≤ range.2 ∧ cursor ≤ range.2) :
    keepOutside source cursor ranges = bytesOutside source ranges cursor source.size := by
  induction ranges generalizing cursor with
  | nil =>
      rw [keepOutside, bytesOutside_of_clear (Nat.le_refl _) fun _ _ _ => rfl]
  | cons range rest inductionHypothesis =>
      obtain ⟨first, others⟩ := List.pairwise_cons.mp ordered
      obtain ⟨extent, past⟩ := ahead range List.mem_cons_self
      -- The first range is the first that counts, and behind it only the later ones do.
      have clear : ∀ offset, cursor ≤ offset → offset < range.1 →
          isInside (range :: rest) offset = false := by
        intro offset _ before
        simp only [isInside, List.any_eq_false, List.forall_mem_cons, Bool.and_eq_true,
          decide_eq_true_eq]
        apply And.intro
        · omega
        · intro other member inside
          have := (first other member).1
          omega
      have covered : ∀ offset, range.1 ≤ offset → offset < range.2 →
          isInside (range :: rest) offset = true := by
        intro offset after before
        simp [isInside, after, before]
      have same : ∀ offset, range.2 ≤ offset → offset < source.size →
          isInside rest offset = isInside (range :: rest) offset := by
        intro offset after _
        simp [isInside, Nat.not_lt.mpr after]
      have back : keepOutside source range.2 rest =
          bytesOutside source (range :: rest) range.2 source.size := by
        rw [← bytesOutside_congr same]
        apply inductionHypothesis others
        intro other member
        exact ⟨(ahead other (List.mem_cons_of_mem _ member)).1, (first other member).2⟩
      rw [keepOutside, back]
      rcases Nat.le_total cursor range.1 with front | inside
      · rw [← bytesOutside_skip extent covered, slice_append_bytesOutside front clear]
      -- The line break in front has taken the cursor into the range.
      · have nothing : Utf8.slice source cursor range.1 = ByteArray.empty :=
          ByteArray.extract_eq_empty_iff.mpr (Nat.le_trans (Nat.min_le_left _ _) inside)
        rw [nothing, ByteArray.empty_append, bytesOutside_skip past]
        intro offset after before
        exact covered offset (Nat.le_trans inside after) before

/-- The elision leaves the bytes outside of its ranges, in order. -/
theorem elideImports_eq {root : Node} {start stop : Nat}
    (follows : Node.Follows start stop root.children) :
    elideImports source root =
      bytesOutside source (elisionRanges source root) 0 source.size := by
  apply keepOutside_eq
  · apply (elisionRanges_pairwise follows).imp
    intro one other precedes
    exact ⟨precedes.starts, precedes.stops⟩
  · intro range taken
    obtain ⟨node, goes, rfl⟩ := List.mem_map.mp taken
    have extent := (follows.between (List.mem_filter.mp goes).1).2.1
    exact ⟨Nat.le_trans extent (le_afterLineBreak source node.stop), Nat.zero_le _⟩

/-! ## The statements that stay -/

/-- A byte string has some pieces in it, each behind the end of the one before. -/
inductive HoldsInOrder : ByteArray → List ByteArray → Prop
  | nothing (bytes : ByteArray) : HoldsInOrder bytes []
  | next (front : ByteArray) {piece back : ByteArray} {pieces : List ByteArray}
      (others : HoldsInOrder back pieces) : HoldsInOrder (front ++ (piece ++ back)) (piece :: pieces)

theorem HoldsInOrder.append_left {bytes : ByteArray} {pieces : List ByteArray}
    (holds : HoldsInOrder bytes pieces) (front : ByteArray) : HoldsInOrder (front ++ bytes) pieces := by
  cases holds with
  | nothing => exact .nothing _
  | next before others =>
      rw [← ByteArray.append_assoc]
      exact .next _ others

/-- Copying goes on at a place, or behind a line break that starts in front of it. -/
def GoesOn (source : ByteArray) (cursor start : Nat) : Prop :=
  cursor ≤ start ∨ ∃ edge ≤ start, IsLineBreak source edge cursor

theorem GoesOn.mono {cursor start later : Nat} (goesOn : GoesOn source cursor start)
    (behind : start ≤ later) : GoesOn source cursor later := by
  rcases goesOn with ahead | ⟨edge, before, lineBreak⟩
  · exact Or.inl (Nat.le_trans ahead behind)
  · exact Or.inr ⟨edge, Nat.le_trans before behind, lineBreak⟩

theorem goesOn_resumeAt (source : ByteArray) (node : Node) :
    GoesOn source (resumeAt source node) node.stop := by
  unfold resumeAt
  split
  next =>
    rcases afterLineBreak_cases source node.stop with lineBreak | ⟨stays, _⟩
    · exact Or.inr ⟨node.stop, Nat.le_refl _, lineBreak⟩
    · exact Or.inl (Nat.le_of_eq stays)
  next => exact Or.inl (Nat.le_refl _)

theorem keptFrom_skip {cursor : Nat} {node : Node} (stays : isDependency node = false)
    (rest : List Node) : keptFrom source cursor (node :: rest) = keptFrom source cursor rest := by
  rw [keptFrom, List.filter_cons_of_neg (by simp [stays]), keptFrom]

/-- Those of some neighbours that stay and do not begin with a line break stay in one piece each. -/
theorem holdsInOrder_keptFrom {nodes kept : List Node} {start stop cursor : Nat}
    (follows : Node.Follows start stop nodes) (goesOn : GoesOn source cursor start)
    (among : kept.Sublist nodes)
    (plain : ∀ node ∈ kept, isDependency node = false ∧ ¬ BeginsWithBreak source node) :
    HoldsInOrder (keptFrom source cursor nodes) (kept.map (·.bytes source)) := by
  induction among generalizing start cursor with
  | slnil => exact .nothing _
  | @cons kept rest node among inductionHypothesis =>
      obtain ⟨behind, extent, others⟩ := follows
      cases depends : isDependency node with
      | true =>
          rw [keptFrom_cons_gone depends]
          apply HoldsInOrder.append_left
          exact inductionHypothesis others (goesOn_resumeAt source node) plain
      | false =>
          rw [keptFrom_skip depends]
          exact inductionHypothesis others (goesOn.mono (Nat.le_trans behind extent)) plain
  | @cons_cons kept rest node among inductionHypothesis =>
      obtain ⟨stays, unbroken⟩ := plain node List.mem_cons_self
      have plainRest : ∀ other ∈ kept, isDependency other = false ∧ ¬ BeginsWithBreak source other :=
        fun other member => plain other (List.mem_cons_of_mem _ member)
      obtain ⟨behind, extent, others⟩ := follows
      rw [List.map_cons]
      rcases Nat.eq_or_lt_of_le extent with empty | text
      · have nothing : node.bytes source = ByteArray.empty := by
          unfold Node.bytes Utf8.slice
          rw [← empty, ByteArray.extract_same]
        have holds := inductionHypothesis others (goesOn.mono (Nat.le_trans behind extent)) plainRest
        rw [keptFrom_skip stays, nothing, ← ByteArray.empty_append (b := keptFrom source cursor rest),
          ← ByteArray.empty_append (b := keptFrom source cursor rest)]
        exact .next _ holds
      · have ahead : cursor ≤ node.start := by
          rcases goesOn with ahead | ⟨edge, before, lineBreak⟩
          · exact Nat.le_trans ahead behind
          · exact lineBreak.le_start (Nat.le_trans before behind) text unbroken
        rw [keptFrom_cons_kept stays ⟨behind, extent, others⟩ ahead]
        apply HoldsInOrder.next
        exact inductionHypothesis others (goesOn_resumeAt source node) plainRest

/-- What the elision of imports does to a source with a tree over it. -/
structure ElidesExactly (source : ByteArray) (root : Node) : Prop where
  /-- The ranges are those of the imports and re-exports, in order. -/
  taken : List.Forall₂ (Takes source) (root.children.filter isDependency)
    (elisionRanges source root)
  /-- They stand in order, and no two share more than the line break that ends the first. -/
  ordered : (elisionRanges source root).Pairwise (Precedes source)
  /-- What lies outside of them is left, byte for byte and in order. -/
  left : elideImports source root =
    bytesOutside source (elisionRanges source root) 0 source.size
  /-- The statements that stay and do not begin with a line break are all found in it, in order. -/
  intact : ∀ kept : List Node, kept.Sublist root.children →
    (∀ node ∈ kept, isDependency node = false ∧ ¬ BeginsWithBreak source node) →
    HoldsInOrder (elideImports source root) (kept.map (·.bytes source))

/-- Where the statements stand one behind the other, the elision takes out the imports and
re-exports, each with one line break, and nothing else. -/
theorem elides_exactly {source : ByteArray} {root : Node} {start stop : Nat}
    (follows : Node.Follows start stop root.children) : ElidesExactly source root where
  taken := takes_elisionRanges source root
  ordered := elisionRanges_pairwise follows
  left := elideImports_eq follows
  intact := fun _ among plain =>
    holdsInOrder_keptFrom follows (Or.inl (Nat.zero_le _)) among plain

/-- Two statements that go, with a line break of each kind behind them, and one that stays and ends
the source. -/
private def importsAhead : String := "import 'a';\r\nexport * from 'b';\nlet c;"

/-- Its tree. -/
private def importsAheadTree : Node :=
  { kind := .program, start := 0, stop := 38,
    children := [.leaf .importStatement 0 11,
      { kind := .exportStatement, start := 13, stop := 31,
        children := [(Node.leaf .stringLiteral 27 30).as .source] },
      .leaf .lexicalDeclaration 32 38] }

/-- Neighbouring ranges that meet behind a line break. -/
theorem elides_exactly_neighbours :
    Node.Follows 0 38 importsAheadTree.children ∧
      ElidesExactly importsAhead.toUTF8 importsAheadTree ∧
      elisionRanges importsAhead.toUTF8 importsAheadTree = [(0, 13), (13, 32)] :=
  ⟨by decide, elides_exactly (show Node.Follows 0 38 _ by decide), by decide +kernel⟩

end Lectern.Module
