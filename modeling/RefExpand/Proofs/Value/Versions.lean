import RefExpand.Library.SystemTypes
import RefExpand.Proofs.Expand.StepNames
import RefExpand.Proofs.Number.Decimal
import RefExpand.Proofs.Text.Pieces

namespace RefExpand

/-!
# Versions

A version that was read or made has components of 32 bits, and a revision only beside a
build. So its text is its components between points: both readers find them there, and
each shorter text is a beginning of it. Versions are in the order of their components, from
the major one on, where one that is not defined stands at the bottom.
-/

namespace Version

/-- How a version comes about: it is read from a text, or made of numbers. -/
inductive IsGiven : Version → Prop
  | read {text : Text} {v : Version} (found : read? text = some v) : IsGiven v
  | made {call : Invocation} {v : Version}
      (found : SystemTypes.newVersion call = .ok (.version v)) : IsGiven v

/-- The version has a revision only beside a build, and components of 32 bits. -/
structure IsProper (v : Version) : Prop where
  defined : v.build = none → v.revision = none
  small : ∀ n ∈ v.components, n < UInt32.size

/-- The four components, as far as they are defined. -/
def fields (v : Version) : List (Option Nat) :=
  [some v.major, some v.minor, v.build, v.revision]

section Components

variable {v : Version} {numbers : List Nat}

/-- A version of some numbers has them as its components. -/
theorem components_of_ofComponents?
    (made : ofComponents? numbers = some v) :
    v.components = numbers ∧ (v.build = none → v.revision = none) := by
  unfold ofComponents? at made
  split at made
  · cases made
    exact ⟨rfl, fun _ => rfl⟩
  · cases made
    exact ⟨rfl, nofun⟩
  · cases made
    exact ⟨rfl, nofun⟩
  · cases made

/-- Where no revision stands without a build, there are two, three or four components. -/
theorem exists_shape
    (defined : v.build = none → v.revision = none) :
    (∃ major minor, v = { major, minor }) ∨
      (∃ major minor build, v = { major, minor, build := some build }) ∨
      ∃ major minor build revision,
        v = { major, minor, build := some build, revision := some revision } := by
  obtain ⟨major, minor, build, revision⟩ := v
  cases build with
  | none =>
      cases defined rfl
      exact .inl ⟨major, minor, rfl⟩
  | some build =>
      cases revision with
      | none =>
          exact .inr (.inl ⟨major, minor, build, rfl⟩)
      | some revision =>
          exact .inr (.inr ⟨major, minor, build, revision, rfl⟩)

theorem ofComponents?_components
    (defined : v.build = none → v.revision = none) :
    ofComponents? v.components = some v := by
  rcases exists_shape defined with ⟨_, _, rfl⟩ | ⟨_, _, _, rfl⟩ | ⟨_, _, _, _, rfl⟩ <;> rfl

theorem padComponents_components
    (defined : v.build = none → v.revision = none) :
    padComponents v.components =
      some [v.major, v.minor, v.build.getD 0, v.revision.getD 0] := by
  rcases exists_shape defined with ⟨_, _, rfl⟩ | ⟨_, _, _, rfl⟩ | ⟨_, _, _, _, rfl⟩ <;> rfl

/-- A version has as many components as are defined. -/
theorem fieldCount_eq_countP
    (defined : v.build = none → v.revision = none) :
    v.fieldCount = v.fields.countP Option.isSome := by
  rcases exists_shape defined with ⟨_, _, rfl⟩ | ⟨_, _, _, rfl⟩ | ⟨_, _, _, _, rfl⟩ <;> rfl

/-- The components are those that are defined, with nothing defined behind them. -/
theorem exists_fields_eq
    (defined : v.build = none → v.revision = none) :
    ∃ undefined, v.fields = v.components.map some ++ undefined := by
  rcases exists_shape defined with ⟨_, _, rfl⟩ | ⟨_, _, _, rfl⟩ | ⟨_, _, _, _, rfl⟩
  · exact ⟨[none, none], rfl⟩
  · exact ⟨[none], rfl⟩
  · exact ⟨[], rfl⟩

theorem components_ne_nil
    (v : Version) :
    v.components ≠ [] := by
  unfold components
  split <;> exact List.cons_ne_nil _ _

end Components

section Given

variable {v : Version} {numbers : List Nat}

/--
If each single result has a property, so has each one in the list of the results for some
items. This holds in every monad in which a computation that succeeds succeeded in its first
part, and then went on from there.
-/
theorem forall_of_mapM
    {m : Type → Type}
    [Monad m]
    [LawfulMonad m]
    (same : ∀ {γ : Type} {a b : γ}, (pure a : m γ) = pure b → a = b)
    (peel : ∀ {γ δ : Type} {action : m γ} {next : γ → m δ} {result : δ},
      (action >>= next) = pure result → ∃ value, action = pure value ∧ next value = pure result)
    {α β : Type}
    {read : α → m β}
    {property : β → Prop}
    (each : ∀ item result, read item = pure result → property result)
    {items : List α}
    {results : List β}
    (ran : items.mapM read = pure results) :
    ∀ result ∈ results, property result := by
  induction items generalizing results with
  | nil =>
      rw [← same ran]
      exact fun result isMember => absurd isMember List.not_mem_nil
  | cons item items inductionHypothesis =>
      rw [List.mapM_cons] at ran
      obtain ⟨first, ranFirst, ran⟩ := peel ran
      obtain ⟨others, ranOthers, ran⟩ := peel ran
      rw [← same ran, List.forall_mem_cons]
      exact ⟨each item first ranFirst, inductionHypothesis ranOthers⟩

theorem small_of_readComponents
    {parts : List Text}
    (found : parts.mapM (fun part => readComponent? part.trim) = some numbers) :
    ∀ n ∈ numbers, n < UInt32.size := by
  refine forall_of_mapM Option.some.inj Option.bind_eq_some_iff.mp ?_ found
  intro part n foundOne
  rw [readComponent?] at foundOne
  exact of_decide_eq_true (Option.filter_eq_some_iff.mp foundOne).2

theorem small_of_components
    {call : Invocation}
    {indices : List Nat}
    (found : indices.mapM (SystemTypes.component call) = .ok numbers) :
    ∀ n ∈ numbers, n < UInt32.size := by
  refine forall_of_mapM Except.ok.inj exists_of_bind_eq_ok ?_ found
  intro index n foundOne
  obtain ⟨m, -, chosen⟩ := exists_of_bind_eq_ok foundOne
  split at chosen
  · rename_i small
    cases chosen
    exact small
  · cases chosen

theorem isProper_of_ofComponents?
    (small : ∀ n ∈ numbers, n < UInt32.size)
    (made : ofComponents? numbers = some v) :
    IsProper v := by
  obtain ⟨rfl, defined⟩ := components_of_ofComponents? made
  exact ⟨defined, small⟩

/-- Whether it was read or made, a version is proper. -/
theorem IsGiven.isProper
    (given : IsGiven v) :
    IsProper v := by
  cases given with
  | read found =>
      obtain ⟨numbers, foundNumbers, made⟩ := Option.bind_eq_some_iff.mp found
      exact isProper_of_ofComponents? (small_of_readComponents foundNumbers) made
  | made found =>
      obtain ⟨numbers, foundNumbers, made⟩ := exists_of_bind_eq_ok found
      refine isProper_of_ofComponents? (small_of_components foundNumbers) ?_
      split at made
      · rename_i isMade
        cases made
        exact isMade
      · cases made

end Given

section Text

variable {v : Version}

theorem mem_text
    {c : Char}
    (isMember : c ∈ v.text) :
    c = '.' ∨ c.isDigit = true := by
  rcases Text.mem_of_mem_join isMember with isPoint | ⟨piece, isPiece, inPiece⟩
  · exact .inl (List.mem_singleton.mp isPoint)
  · obtain ⟨n, -, rfl⟩ := List.mem_map.mp isPiece
    exact .inr (Decimal.isDigit_of_mem_ofNat inPiece)

theorem ne_of_mem_text
    {c d : Char}
    (isMember : c ∈ v.text)
    (noPoint : d ≠ '.')
    (noDigit : d.isDigit = false) :
    c ≠ d := by
  rintro rfl
  rcases mem_text isMember with isPoint | isDigit
  · exact noPoint isPoint
  · rw [noDigit] at isDigit
    cases isDigit

theorem trim_text
    (v : Version) :
    v.text.trim = v.text := by
  apply Text.trim_of_not_blank
  intro c isMember
  rcases mem_text isMember with rfl | isDigit
  · rfl
  · exact Text.isBlank_of_isNameContinue (by simp [Text.isNameContinue, isDigit])

theorem splitAtChars_text
    (v : Version) :
    Text.splitAtChars (· == '.') v.text = v.components.map Decimal.ofNat := by
  apply Text.splitAtChars_join
  · simpa using v.components_ne_nil
  · intro piece isPiece
    obtain ⟨n, -, rfl⟩ := List.mem_map.mp isPiece
    exact Decimal.not_mem_ofNat rfl n

/-- Nothing in front of the text of a version is left aside, and nothing behind it. -/
theorem simpleCore_text
    (v : Version) :
    simpleCore v.text = v.text := by
  have whole : v.text.takeWhile (fun c => !(c == '-' || c == '+')) = v.text := by
    rw [List.takeWhile_eq_self_iff]
    intro c isMember
    have noDash := ne_of_mem_text isMember (d := '-') (by decide) rfl
    have noPlus := ne_of_mem_text isMember (d := '+') (by decide) rfl
    simp [noDash, noPlus]
  unfold simpleCore
  rw [trim_text]
  dsimp only
  split
  · rename_i rest shape
    have isMember : 'v' ∈ v.text := by
      rw [shape]
      exact List.mem_cons_self
    exact absurd rfl (ne_of_mem_text isMember (by decide) rfl)
  · rename_i rest shape
    have isMember : 'V' ∈ v.text := by
      rw [shape]
      exact List.mem_cons_self
    exact absurd rfl (ne_of_mem_text isMember (by decide) rfl)
  · exact whole

theorem readComponent?_ofNat
    {n : Nat}
    (small : n < UInt32.size) :
    readComponent? (Decimal.ofNat n) = some n := by
  rw [readComponent?, Decimal.readDigits?_ofNat, Option.filter_some, if_pos (decide_eq_true small)]

/-- What reads one component reads them all. -/
theorem mapM_read
    {read : Text → Option Nat}
    (reads : ∀ n < UInt32.size, read (Decimal.ofNat n) = some n)
    {numbers : List Nat}
    (small : ∀ n ∈ numbers, n < UInt32.size) :
    (numbers.map Decimal.ofNat).mapM read = some numbers := by
  induction numbers with
  | nil =>
      rfl
  | cons n numbers inductionHypothesis =>
      rw [List.forall_mem_cons] at small
      rw [List.map_cons, List.mapM_cons, reads n small.1, inductionHypothesis small.2]
      rfl

namespace IsProper

theorem read?_text
    (proper : IsProper v) :
    read? v.text = some v := by
  have reads : ∀ n < UInt32.size, readComponent? (Decimal.ofNat n).trim = some n := by
    intro n small
    have trimmed : (Decimal.ofNat n).trim = Decimal.ofNat n :=
      Decimal.trim_ofInt n
    rw [trimmed, readComponent?_ofNat small]
  rw [read?, trim_text, splitAtChars_text, mapM_read reads proper.small, Option.bind_some,
    ofComponents?_components proper.defined]

theorem readSimple?_text
    (proper : IsProper v) :
    readSimple? v.text = some [v.major, v.minor, v.build.getD 0, v.revision.getD 0] := by
  have reads : ∀ n < UInt32.size, readComponent? (Decimal.ofNat n) = some n :=
    fun n => readComponent?_ofNat
  rw [readSimple?, simpleCore_text, splitAtChars_text, mapM_read reads proper.small,
    Option.bind_some, padComponents_components proper.defined]

end IsProper

theorem textOfFields?_isPrefix
    {count : Nat}
    {text : Text}
    (isShorter : v.textOfFields? count = some text) :
    text <+: v.text := by
  unfold textOfFields? at isShorter
  split at isShorter
  · cases isShorter
    have beginning := List.take_prefix count v.components
    exact Text.join_prefix _ (beginning.map Decimal.ofNat)
  · cases isShorter

/-- A shorter text shows the first components, as many as are asked for. -/
theorem eq_of_textOfFields?
    (defined : v.build = none → v.revision = none)
    {count : Nat}
    {text : Text}
    (isShorter : v.textOfFields? count = some text) :
    text = Text.join ['.'] ((v.fields.take count).filterMap (Option.map Decimal.ofNat)) := by
  unfold textOfFields? at isShorter
  split at isShorter
  · rename_i enough
    obtain ⟨undefined, shape⟩ := exists_fields_eq defined
    have first : v.fields.take count = (v.components.take count).map some := by
      rw [shape, List.take_append_of_le_length (by simpa [fieldCount] using enough),
        List.map_take]
    have written : Option.map Decimal.ofNat ∘ some = some ∘ Decimal.ofNat :=
      rfl
    cases isShorter
    rw [first, List.filterMap_map, written, List.filterMap_eq_map]
  · cases isShorter

theorem isSome_textOfFields?
    {count : Nat} :
    (v.textOfFields? count).isSome = true ↔ count ≤ v.fieldCount := by
  unfold textOfFields?
  split
  · rename_i enough
    exact iff_of_true rfl enough
  · rename_i tooMany
    exact iff_of_false Bool.false_ne_true tooMany

end Text

section Order

theorem compareOption_eq_compare :
    compareOption = compare := by
  funext left right
  cases left <;> cases right <;> rfl

/-- What is not defined is below what is. -/
theorem compareOption_eq_lt_iff
    {left right : Option Nat} :
    compareOption left right = .lt ↔ left < right := by
  cases left <;> cases right <;> simp [compareOption, Nat.compare_eq_lt]

theorem order_eq_compareLex :
    order =
      compareLex (compareOn major)
        (compareLex (compareOn minor) (compareLex (compareOn build) (compareOn revision))) := by
  funext left right
  rw [order, compareOption_eq_compare]
  rfl

instance : Std.TransCmp order := by
  rw [order_eq_compareLex]
  infer_instance

theorem order_eq_eq_iff
    {left right : Version} :
    left.order right = .eq ↔ left = right := by
  obtain ⟨major, minor, build, revision⟩ := left
  obtain ⟨major', minor', build', revision'⟩ := right
  simp [order, compareOption_eq_compare, Ordering.then_eq_eq]

instance : Std.LawfulEqCmp order where
  compare_self := order_eq_eq_iff.mpr rfl
  eq_of_compare := order_eq_eq_iff.mp

theorem order_eq_lt_iff
    {left right : Version} :
    left.order right = .lt ↔ left.fields < right.fields := by
  obtain ⟨major, minor, build, revision⟩ := left
  obtain ⟨major', minor', build', revision'⟩ := right
  have sameBuild : compareOption build build' = .eq ↔ build = build' := by
    rw [compareOption_eq_compare, Std.compare_eq_iff_eq]
  simp [order, fields, Ordering.then_eq_lt, List.cons_lt_cons_iff, compareOption_eq_lt_iff,
    Nat.compare_eq_lt, sameBuild]

end Order

/--
A version that was read or made is read back from its text, and leniently read as its
components with zeros for those that are not defined. The order of versions is total, calls
no two of them equal, and goes by their components, of which an undefined one is below
all others. A version has a text of so many components exactly up to the number of those
that are defined. It shows the first of them, and is a beginning of the whole text.
-/
theorem versions_read_back_in_order
    {v : Version}
    (given : v.IsGiven) :
    (read? v.text = some v ∧
        readSimple? v.text = some [v.major, v.minor, v.build.getD 0, v.revision.getD 0]) ∧
      (Std.TransCmp order ∧ Std.LawfulEqCmp order ∧
        ∀ left right, order left right = .lt ↔ left.fields < right.fields) ∧
      ∀ count,
        ((v.textOfFields? count).isSome = true ↔ count ≤ v.fields.countP Option.isSome) ∧
          ∀ text ∈ v.textOfFields? count,
            text = Text.join ['.'] ((v.fields.take count).filterMap (Option.map Decimal.ofNat)) ∧
              text <+: v.text := by
  have proper := given.isProper
  refine ⟨⟨proper.read?_text, proper.readSimple?_text⟩, ?_, ?_⟩
  · exact ⟨inferInstance, inferInstance, fun _ _ => order_eq_lt_iff⟩
  · intro count
    constructor
    · rw [isSome_textOfFields?, fieldCount_eq_countP proper.defined]
    · intro text isShorter
      exact ⟨eq_of_textOfFields? proper.defined isShorter, textOfFields?_isPrefix isShorter⟩

/-- A version that is read with blanks and a leading zero. -/
theorem versions_read_back_in_order_of_padded :
    read? " 1 .02. 3 " = some { major := 1, minor := 2, build := some 3 } ∧
      read? "1.2.3" = some { major := 1, minor := 2, build := some 3 } ∧
      readSimple? "1.2.3" = some [1, 2, 3, 0] := by
  have found : read? " 1 .02. 3 " = some { major := 1, minor := 2, build := some 3 } := by
    decide
  obtain ⟨readBack, -⟩ := versions_read_back_in_order (.read found)
  exact ⟨found, readBack⟩

end Version

end RefExpand
