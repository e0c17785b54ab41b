import RefExpand.Proofs.Expand.ItemStretches
import RefExpand.Proofs.Expand.Run
import RefExpand.Proofs.Text.Wildcards

namespace RefExpand

/-!
# The patterns that files are looked for with

Whether the spec of an item is a pattern is told from its escaped form, but the
file system is asked for the spec read back. The two show the same wildcards as
long as the spec holds no wildcard that is escaped; an escaped one beside a real
one turns into a wildcard of the pattern.
-/

namespace ItemPhase

/-- The phase on a file system that answers patterns in another way. -/
def answering
    (phase : ItemPhase)
    (answer : (base pattern : Text) → Except IoFailure (List Text)) :
    ItemPhase :=
  { phase with
    context :=
      { phase.context with
        fileSystem := { phase.context.fileSystem with matchWildcards := answer } } }

/--
The file system is asked for a pattern when an item starts: two answers that
differ on this pattern only make a difference.
-/
def AsksFor
    (phase : ItemPhase)
    (item : Item)
    (pattern : Text) :
    Prop :=
  ∃ answer other,
    (∀ base asked, asked ≠ pattern → answer base asked = other base asked) ∧
      (phase.answering answer).startOf item ≠ (phase.answering other).startOf item

/-- The directory that the pattern of an item is read from. -/
def patternBase
    (phase : ItemPhase)
    (item : Item) :
    Except ExpandError Text :=
  match item.directory with
  | some directory => .ok directory
  | none => SpecModifier.currentDirectory phase.context.fileSystem

variable {phase : ItemPhase} {item : Item}

/-- An item with wildcards to expand starts with the files that its spec read back names. -/
theorem startOf_of_pattern
    (itemizes : phase.context.itemizesWildcards = true)
    (wild : item.spec.hasWildcards = true) :
    phase.startOf item = do
      let base ← phase.patternBase item
      let files ←
        (phase.context.fileSystem.matchWildcards base item.spec.unescape).mapError
          fun failure => .fileSystem item.spec.unescape failure.message
      return files.map fun file => .of file.escape (some item) := by
  unfold startOf patternBase
  rw [itemizes, wild]
  cases item.directory <;> rfl

theorem startOf_answering
    (itemizes : phase.context.itemizesWildcards = true)
    (wild : item.spec.hasWildcards = true)
    (answer : (base pattern : Text) → Except IoFailure (List Text)) :
    (phase.answering answer).startOf item = do
      let base ← phase.patternBase item
      let files ←
        (answer base item.spec.unescape).mapError
          fun failure => .fileSystem item.spec.unescape failure.message
      return files.map fun file => .of file.escape (some item) :=
  startOf_of_pattern itemizes wild

/-- The file system is asked for one pattern, which is the spec read back. -/
theorem asksFor_iff
    {pattern : Text} :
    phase.AsksFor item pattern ↔
      phase.context.itemizesWildcards = true ∧ item.spec.hasWildcards = true ∧
        pattern = item.spec.unescape ∧ ∃ base, phase.patternBase item = .ok base := by
  constructor
  · rintro ⟨answer, other, agree, differ⟩
    have wild : (phase.context.itemizesWildcards && item.spec.hasWildcards) = true := by
      by_contra taken
      rw [Bool.not_eq_true] at taken
      have starts (answer : (base pattern : Text) → Except IoFailure (List Text)) :
          (phase.answering answer).startOf item = .ok [.of item.spec (some item)] :=
        startOf_of_spec taken
      exact differ ((starts answer).trans (starts other).symm)
    obtain ⟨itemizes, wild⟩ := Bool.and_eq_true_iff.mp wild
    rw [startOf_answering itemizes wild, startOf_answering itemizes wild] at differ
    refine ⟨itemizes, wild, ?_, ?_⟩
    · by_contra otherPattern
      simp only [agree _ _ (Ne.symm otherPattern)] at differ
      exact differ rfl
    · cases found : phase.patternBase item with
      | ok base =>
          exact ⟨base, rfl⟩
      | error failure =>
          rw [found] at differ
          exact absurd rfl differ
  · rintro ⟨itemizes, wild, rfl, base, found⟩
    -- One answer names no file, the other a single one.
    let one (_base asked : Text) : Except IoFailure (List Text) :=
      .ok (if asked = item.spec.unescape then [[]] else [])
    refine ⟨fun _ _ => .ok [], one, fun _ asked differs => ?_, ?_⟩
    · simp only [one, if_neg differs]
    · rw [startOf_answering itemizes wild, startOf_answering itemizes wild, found]
      simp [one, bind, Except.bind, Except.mapError, pure, Except.pure]

/--
A pattern shows the wildcards of the spec and, on top of these, one for every
wildcard that the spec holds in escaped form. So it shows as many as the spec if
and only if the spec holds none that is escaped.
-/
theorem wildcards_of_pattern
    {pattern : Text}
    (asked : phase.AsksFor item pattern) :
    pattern.count '*' = item.spec.count '*' + item.spec.escapedCount '*' ∧
      pattern.count '?' = item.spec.count '?' + item.spec.escapedCount '?' ∧
      (pattern.count '*' = item.spec.count '*' ∧ pattern.count '?' = item.spec.count '?' ↔
        item.spec.hasEscapedWildcards = false) := by
  obtain ⟨-, -, rfl, -⟩ := asksFor_iff.mp asked
  have starReserved : Text.isReserved '*' = true :=
    rfl
  have markReserved : Text.isReserved '?' = true :=
    rfl
  have stars := Text.count_unescape starReserved (by decide) item.spec
  have marks := Text.count_unescape markReserved (by decide) item.spec
  refine ⟨stars, marks, ?_⟩
  rw [stars, marks, Text.hasEscapedWildcards_eq_false_iff, Nat.add_eq_left, Nat.add_eq_left]

/-- The phase without items on a file system, with the wildcards of items to be expanded. -/
def itemizing
    (fileSystem : FileSystem) :
    ItemPhase :=
  { items := fun _ => []
    options := .items
    context := { ExpandContext.onEmptyMachine with fileSystem, itemizesWildcards := true } }

/-- A star and a question mark, with a semicolon between them that is escaped. -/
theorem wildcards_of_pattern_of_semicolon :
    let phase := itemizing ({} : ListedFiles).toFileSystem
    let item : Item := { itemType := "A", spec := "src/*%3b?.cs" }
    let pattern : Text := "src/*;?.cs"
    phase.AsksFor item pattern ∧
      pattern.count '*' = 1 ∧ pattern.count '?' = 1 := by
  intro phase item pattern
  have asked : phase.AsksFor item pattern :=
    asksFor_iff.mpr ⟨rfl, by decide, by decide, "/cwd".toList, rfl⟩
  have noneEscaped : item.spec.hasEscapedWildcards = false := by
    decide
  obtain ⟨-, -, asMany⟩ := wildcards_of_pattern asked
  obtain ⟨stars, marks⟩ := asMany.mpr noneEscaped
  exact ⟨asked, stars.trans (by decide), marks.trans (by decide)⟩

/-- An escaped star beside a question mark turns into a star of the pattern. -/
theorem not_every_pattern_shows_as_many :
    ¬ ∀ (phase : ItemPhase) (item : Item) (pattern : Text),
        phase.context.itemizesWildcards = true →
        phase.AsksFor item pattern →
        pattern.count '*' = item.spec.count '*' ∧ pattern.count '?' = item.spec.count '?' := by
  intro every
  let phase := itemizing ({} : ListedFiles).toFileSystem
  let item : Item := { itemType := "A", spec := "a%2A?.txt" }
  have asked : phase.AsksFor item "a*?.txt".toList :=
    asksFor_iff.mpr ⟨rfl, by decide, by decide, "/cwd".toList, rfl⟩
  have shown : Text.hasWildcards item.spec = true := by
    decide
  have noStar : item.spec.count '*' = 0 := by
    decide
  have star : "a*?.txt".toList.count '*' = 1 := by
    decide
  have asMany := (every phase item _ rfl asked).1
  rw [star, noStar] at asMany
  cases asMany

end ItemPhase

end RefExpand
