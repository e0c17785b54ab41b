import RefExpand.Proofs.Call.ArgumentLists
import RefExpand.Proofs.Call.TextChain
import RefExpand.Proofs.Expand.SplitBodies

namespace RefExpand

/-!
# Indexers

An indexer ends at the first closing bracket behind its opening one, whatever the
brackets, parentheses and quotes between them are. So an argument text is read as the
argument of an indexer exactly if it holds no closing bracket, and the indexer is then
applied to the value of the argument.
-/

namespace CallLink

/-- An argument text in brackets. -/
def indexerBody
    (content : Text) :
    Text :=
  '[' :: (content ++ [']'])

/-- The link that an argument text in brackets is, if it is read as a whole. -/
def indexerLink
    (content : Text)
    (arguments : List Argument) :
    CallLink :=
  { expression := indexerBody content
    target := .index
    name := []
    kind := .indexer
    arguments
    remainder := [] }

variable {content : Text}

/-- A link that begins with a bracket and is chained is read as an indexer. -/
theorem read_indexerBody_eq
    (content : Text) :
    read true (indexerBody content) = readIndexer (indexerBody content) (content ++ [']']) := by
  have trimmed : (indexerBody content).trim = indexerBody content :=
    Text.trim_cons_append_singleton (by decide) (by decide) _
  have ink :
      (Text.trim ((indexerBody content).takeWhile (· != '('))).isEmpty = false := by
    have front :
        (indexerBody content).takeWhile (· != '(') =
          '[' :: (content ++ [']']).takeWhile (· != '(') :=
      rfl
    rw [front, List.isEmpty_eq_false_iff]
    exact Text.trim_cons_ne_nil (by decide) _
  rw [read, trimmed, readTrimmed]
  simp only [ink]
  rfl

/-- Without a closing bracket in it, an argument text is read up to the last one. -/
theorem read_indexerBody
    (noBracket : ']' ∉ content)
    {arguments : List Argument}
    (parsed : Argument.parseAll content = .ok arguments) :
    read true (indexerBody content) = .ok (indexerLink content arguments) := by
  have others : ∀ c ∈ content, (c == ']') = false := by
    intro c isMember
    rw [beq_eq_false_iff_ne]
    rintro rfl
    exact noBracket isMember
  rw [read_indexerBody_eq, readIndexer, Text.breakAt?_append_cons others (by decide)]
  dsimp only
  rw [readArguments, parsed]
  rfl

/-- With a closing bracket in it, an argument text leaves a remainder or is not read. -/
theorem remainder_ne_nil_of_bracket
    (bracket : ']' ∈ content)
    {link : CallLink}
    (found : read true (indexerBody content) = .ok link) :
    link.remainder ≠ [] := by
  obtain ⟨front, back, rfl, notEarlier⟩ := List.eq_append_cons_of_mem bracket
  have others : ∀ c ∈ front, (c == ']') = false := by
    intro c isMember
    rw [beq_eq_false_iff_ne]
    rintro rfl
    exact notEarlier isMember
  rw [read_indexerBody_eq, readIndexer, List.append_assoc, List.cons_append,
    Text.breakAt?_append_cons others (by decide)] at found
  dsimp only at found
  cases parsed : readArguments front with
  | error fault =>
      rw [parsed] at found
      cases found
  | ok arguments =>
      rw [parsed] at found
      simp only [bind, Except.bind, pure, Except.pure] at found
      split at found
      · cases found
        have ink : isBlank ']' = false :=
          rfl
        exact Text.trim_ne_nil_of_mem ink (by simp)
      · cases found

/-- An argument text in one piece is read as the argument of an indexer if no bracket is in it. -/
theorem read_indexerBody_iff
    {piece : Text}
    (present : content ≠ [])
    (onePiece : splitCommas content = .ok [piece]) :
    read true (indexerBody content) = .ok (indexerLink content [Argument.ofText piece]) ↔
      ']' ∉ content := by
  constructor
  · intro found bracket
    exact remainder_ne_nil_of_bracket bracket found rfl
  · intro noBracket
    have parsed : Argument.parseAll content = .ok [Argument.ofText piece] := by
      rw [Argument.parseAll, onePiece, if_neg (by simpa using present)]
      rfl
    exact read_indexerBody noBracket parsed

end CallLink

/-- A property with an indexer behind it asks for the indexer to be applied to its value. -/
theorem Request.read_indexer
    {property content : Text}
    (named : property.isName = true)
    (whole : ¬Stretch.Splits (property ++ CallLink.indexerBody content))
    {arguments : List Argument}
    (found :
      CallLink.read true (CallLink.indexerBody content) =
        .ok (CallLink.indexerLink content arguments)) :
    read (property ++ CallLink.indexerBody content) =
      .call (some property)
        (.link (CallLink.indexerLink content arguments) (arguments.map .ofArgument) .done) := by
  obtain ⟨first, tail, shape, starts, -⟩ := Text.exists_cons_of_isName named
  have trimmed :
      (property ++ CallLink.indexerBody content).trim =
        property ++ CallLink.indexerBody content := by
    have firstInk : isBlank first = false :=
      Text.isBlank_of_isNameContinue (Text.isNameContinue_of_isNameStart starts)
    have lastInk : isBlank ']' = false :=
      rfl
    have between := Text.trim_cons_append_singleton firstInk lastInk (tail ++ '[' :: content)
    simpa [shape, CallLink.indexerBody] using between
  have uncut :
      Text.cutsCharacter Template.registryWord.length
        (property ++ CallLink.indexerBody content) = false := by
    rw [Stretch.Splits, ← Text.cutsCharacter_iff, trimmed, Bool.not_eq_true] at whole
    exact whole
  have taken :
      Text.takeName (property ++ CallLink.indexerBody content) =
        (property, CallLink.indexerBody content) :=
    Text.takeName_append_of_ends named (.stop (by decide) (by decide) _)
  have present : (property ++ CallLink.indexerBody content).isEmpty = false := by
    simp [shape]
  have noRegistry :
      Template.namesRegistry (property ++ CallLink.indexerBody content) = false :=
    Template.namesRegistry_append named (by decide) (by decide) _
  have notEmptyBody :
      Template.emptyBodies.any
          (Text.sameName (property ++ CallLink.indexerBody content)) = false :=
    Template.emptyBodies_of_foreign (c := '[') (by decide) (by decide)
      (by simp [CallLink.indexerBody])
  have shorter :
      (CallLink.indexerBody content).length <
        (property ++ CallLink.indexerBody content).length := by
    rw [shape, List.length_append, List.length_cons]
    omega
  have bracket : ((CallLink.indexerBody content).head? == some '[') = true :=
    rfl
  have some : CallLink.indexerBody content ≠ [] :=
    List.cons_ne_nil _ _
  have chain :
      CallChain.read true (CallLink.indexerBody content) =
        .link (CallLink.indexerLink content arguments) (arguments.map .ofArgument) .done := by
    rw [CallChain.read_of_link some found, CallLink.indexerLink, CallChain.read_nil]
  rw [read]
  simp only [trimmed, taken, present, uncut, noRegistry, notEmptyBody, shorter, bracket, chain]
  simp

theorem CallLink.nested_indexerBody
    {content : Text}
    (nested : Nested content) :
    Nested (indexerBody content) :=
  .plain (by decide) (by decide) (by decide)
    (nested.append (.plain (by decide) (by decide) (by decide) .nil))

namespace PropertyPhase

variable (phase : PropertyPhase)

/-- What a call receives for an argument: the value of its text, if it has one. -/
def operandFor : Argument → Expansion Operand
  | .null => pure (.value .null)
  | .out => pure .out
  | .text content => operandOf <$> phase.value content

theorem evaluate_ofArgument
    (argument : Argument) :
    (TemplateArgument.ofArgument argument).evaluate phase = phase.operandFor argument := by
  cases argument with
  | null =>
      rfl
  | out =>
      rfl
  | text content =>
      rw [TemplateArgument.ofArgument, TemplateArgument.evaluate, operandFor, map_eq_pure_bind]
      rfl

/-- A link with one argument and nothing behind it is called on the value of its argument. -/
theorem run_link_one
    (reference : Text)
    (receiver : Option Value)
    (link : CallLink)
    (argument : Argument) :
    CallChain.run phase reference receiver
        (.link link [TemplateArgument.ofArgument argument] .done) =
      phase.operandFor argument >>= fun operand =>
        phase.context.callLink reference receiver link [operand] := by
  rw [CallChain.run, TemplateArgument.evaluateAll, TemplateArgument.evaluateAll,
    phase.evaluate_ofArgument]
  simp [CallChain.run]

/-- An indexer that is read is applied to the values of the property and of its argument. -/
theorem value_indexer
    {property content : Text}
    (named : property.isName = true)
    (nested : Nested content)
    (whole : ¬Stretch.Splits (property ++ CallLink.indexerBody content))
    {argument : Argument}
    (found :
      CallLink.read true (CallLink.indexerBody content) =
        .ok (CallLink.indexerLink content [argument])) :
    let written := Stretch.written (property ++ CallLink.indexerBody content)
    phase.value written =
      phase.guarded written
        (phase.lookup property >>= fun receiver =>
          Expansion.located phase.context.location
            (phase.operandFor argument >>= fun operand =>
              phase.context.callLink written (some receiver)
                (CallLink.indexerLink content [argument]) [operand])) := by
  intro written
  have nestedName : Nested property :=
    (Balanced.ofNameContinue (Text.continues_of_isName named)).nested
  rw [phase.value_written (nestedName.append (CallLink.nested_indexerBody nested)),
    Request.read_indexer named whole found, Request.evaluate]
  congr 1
  simp [List.map, run_link_one, written]

end PropertyPhase

namespace CallLink

/--
An argument text in one piece is read as the argument of an indexer exactly if it holds no
closing bracket, and then the indexer is applied to the value that the argument has.
-/
theorem indexer_read_iff_no_bracket
    {content piece : Text}
    (present : content ≠ [])
    (nested : Nested content)
    (onePiece : splitCommas content = .ok [piece]) :
    (read true (indexerBody content) = .ok (indexerLink content [Argument.ofText piece]) ↔
        ']' ∉ content) ∧
      (']' ∉ content →
        ∀ (phase : PropertyPhase) (property : Text),
          property.isName = true →
          ¬Stretch.Splits (property ++ indexerBody content) →
          let written := Stretch.written (property ++ indexerBody content)
          phase.value written =
            phase.guarded written
              (phase.lookup property >>= fun receiver =>
                Expansion.located phase.context.location
                  (phase.operandFor (Argument.ofText piece) >>= fun operand =>
                    phase.context.callLink written (some receiver)
                      (indexerLink content [Argument.ofText piece]) [operand]))) := by
  have readIff := read_indexerBody_iff present onePiece
  refine ⟨readIff, fun noBracket phase property named whole => ?_⟩
  exact phase.value_indexer named nested whole (readIff.mpr noBracket)

/-- A property is the argument of an indexer. -/
theorem indexer_read_of_reference :
    let content : Text := "$(I)"
    let phase : PropertyPhase :=
      { table := { entries := [("P".toList, "abc".toList), ("I".toList, "1".toList)] }
        options := .properties
        context := .onEmptyMachine }
    let written := Stretch.written ("P" ++ indexerBody content)
    read true (indexerBody content) = .ok (indexerLink content [.text content]) ∧
      phase.value written =
        phase.guarded written
          (phase.lookup "P" >>= fun receiver =>
            Expansion.located phase.context.location
              (phase.operandFor (.text content) >>= fun operand =>
                phase.context.callLink written (some receiver)
                  (indexerLink content [.text content]) [operand])) := by
  intro content phase written
  have present : content ≠ [] := by
    decide
  have whole : ¬Stretch.Splits ("P" ++ indexerBody content) := by
    rw [Stretch.Splits, ← Text.cutsCharacter_iff]
    decide +kernel
  have applied := indexer_read_iff_no_bracket present (.of_closes rfl) rfl
  exact ⟨applied.1.mpr (by decide), applied.2 (by decide) phase "P" rfl whole⟩

/-- The bracket of a nested indexer ends the outer one. -/
theorem not_every_balanced_indexer_read :
    ¬ ∀ content piece : Text,
        content.trim ≠ [] → Nested content → splitCommas content = .ok [piece] →
          ∃ link,
            read true (indexerBody content) = .ok link ∧
              link.arguments = [Argument.ofText piece] ∧ link.remainder = [] := by
  intro always
  obtain ⟨link, found, -, whole⟩ :=
    always "$(X[0])" "$(X[0])" (by decide) (.of_closes rfl) rfl
  exact remainder_ne_nil_of_bracket (by decide) found whole

end CallLink

end RefExpand
