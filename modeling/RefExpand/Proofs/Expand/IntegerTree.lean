import RefExpand.Expand.Expander
import RefExpand.Proofs.Call.Arithmetic
import RefExpand.Proofs.Call.StaticCall
import RefExpand.Proofs.Expand.LinkRuns
import RefExpand.Proofs.Expand.PropertyReads
import RefExpand.Proofs.Expand.PropertyStretches
import RefExpand.Proofs.Text.Escaping

namespace RefExpand

/-!
# Trees of integer operations

A tree of operations is written as calls inside calls. Every level is scanned,
cut at its comma, evaluated and printed for the level above, and none of this
changes an integer: the written tree expands to the value of the tree, and is
refused exactly when some division in it has no quotient of 64 bits.
-/

/-- An operation is written as a reference with a call. -/
def IntegerOperation.written
    (op : IntegerOperation)
    (left right : Text) :
    Text :=
  "$([MSBuild]::".toList ++ op.name.toList ++ "(".toList ++ left ++ ", ".toList ++ right ++
    "))".toList

/-- Integers of 64 bits under operations. -/
inductive IntegerTree where
  | leaf (n : Int64)
  | node (op : IntegerOperation) (left right : IntegerTree)
  deriving Repr, DecidableEq

namespace IntegerTree

/-- The tree as an expression: decimal leaves, and a call for every operation. -/
def written : IntegerTree → Text
  | .leaf n => Decimal.ofInt64 n
  | .node op left right => op.written left.written right.written

/-- The value of the tree. -/
def value : IntegerTree → Int
  | .leaf n => n.toInt
  | .node op left right => op.value left.value right.value

/-- Some operation of the tree has no result. -/
def fails : IntegerTree → Bool
  | .leaf _ => false
  | .node op left right => left.fails || right.fails || op.fails left.value right.value

section Text

/-- What stands between the parentheses of a call. -/
def operands
    (left right : IntegerTree) :
    Text :=
  left.written ++ ", ".toList ++ right.written

/-- The body of the reference to an operation. -/
def body
    (op : IntegerOperation)
    (left right : IntegerTree) :
    Text :=
  CallLink.staticBody "MSBuild" op.name (operands left right)

/-- An operation is a reference with a call on the engine's own type as its body. -/
theorem written_node
    (op : IntegerOperation)
    (left right : IntegerTree) :
    (node op left right).written = '$' :: '(' :: (body op left right ++ [')']) := by
  rw [written]
  unfold IntegerOperation.written
  simp [body, operands, CallLink.staticBody]

theorem continues_leaf
    (n : Int64) :
    ∀ c ∈ Decimal.ofInt64 n, Text.isNameContinue c = true :=
  fun _ isMember => Decimal.isNameContinue_of_mem_ofInt isMember

theorem balanced_pair
    {left right : Text}
    (leftBalanced : Balanced left)
    (rightBalanced : Balanced right) :
    Balanced (left ++ ", ".toList ++ right) := by
  have comma : Balanced ", ".toList :=
    .ofPlain (by simp [isQuote])
  exact (leftBalanced.append comma).append rightBalanced

theorem balanced_body
    {op : IntegerOperation}
    {left right : IntegerTree}
    (inside : Balanced (operands left right)) :
    Balanced (body op left right) := by
  have front : Balanced "[MSBuild]::".toList :=
    .ofPlain (by simp [isQuote])
  have member : Balanced op.name.toList :=
    .ofNameContinue (Text.continues_of_isName op.isName_name)
  have shape :
      body op left right =
        "[MSBuild]::".toList ++ op.name.toList ++ '(' :: (operands left right ++ ')' :: []) := by
    simp [body, CallLink.staticBody]
  rw [shape]
  exact (front.append member).append (.parens inside .nil)

theorem balanced_written
    (tree : IntegerTree) :
    Balanced tree.written := by
  induction tree with
  | leaf n =>
      exact .ofNameContinue (continues_leaf n)
  -- The parentheses that a call adds are around operands whose own match.
  | node op left right leftHypothesis rightHypothesis =>
      have inside : Balanced (operands left right) :=
        balanced_pair leftHypothesis rightHypothesis
      rw [written_node]
      exact .plain rfl (by decide) (by decide) (.parens (balanced_body inside) .nil)

theorem balanced_operands
    (left right : IntegerTree) :
    Balanced (operands left right) :=
  balanced_pair left.balanced_written right.balanced_written

/-- A written tree is one argument, whatever commas stand in it. -/
theorem kept_written
    (tree : IntegerTree) :
    KeptByCommas tree.written := by
  cases tree with
  | leaf n =>
      exact .ofNameContinue (continues_leaf n)
  | node op left right =>
      rw [written_node]
      exact .ofReference (balanced_body (balanced_operands left right))

/-- As an argument a written tree stands for its own text. -/
theorem ofText_written
    (tree : IntegerTree) :
    Argument.ofText tree.written.trim = .text tree.written := by
  cases tree with
  | leaf n =>
      obtain ⟨first, rest, shape⟩ := List.exists_cons_of_ne_nil (Decimal.ofInt_ne_nil n.toInt)
      have isMember : first ∈ Decimal.ofInt n.toInt := by
        rw [shape]
        exact List.mem_cons_self
      have noQuote := isQuote_of_isNameContinue (continues_leaf n first isMember)
      rw [written, Decimal.ofInt64, Decimal.trim_ofInt, shape]
      exact Argument.ofText_cons (Decimal.isAlpha_of_mem_ofInt isMember) noQuote rest
  | node op left right =>
      rw [written_node]
      exact Argument.ofText_trim_reference (body op left right)

theorem parseAll_operands
    (left right : IntegerTree) :
    Argument.parseAll (operands left right) = .ok [.text left.written, .text right.written] := by
  rw [operands, Argument.parseAll_pair left.kept_written right.kept_written, ofText_written,
    ofText_written]

/-- The link that an operation is called by. -/
def link
    (op : IntegerOperation)
    (left right : IntegerTree) :
    CallLink :=
  CallLink.staticLink "MSBuild" op.name (operands left right)
    [.text left.written, .text right.written]

/-- The body of an operation asks for one call with the templates of its operands. -/
theorem read_body
    (op : IntegerOperation)
    (left right : IntegerTree) :
    Request.read (body op left right) =
      .call none
        (.link (link op left right)
          [.template (Template.read left.written), .template (Template.read right.written)]
          .done) := by
  have typeNamed : CallLink.TypeNamed "MSBuild" :=
    { some := by decide
      trimmed := rfl
      noOpen := by decide
      noBracket := by decide }
  exact
    Request.read_staticBody typeNamed op.isName_name (balanced_operands left right).nested
      (parseAll_operands left right) rfl

theorem read_node
    (op : IntegerOperation)
    (left right : IntegerTree) :
    Template.read (node op left right).written =
      .mixed
        [.literal [],
          .reference (node op left right).written (Request.read (body op left right)),
          .literal []] := by
  have balanced : Balanced (body op left right) :=
    balanced_body (balanced_operands left right)
  have nothing : Segment.readAll [] = [.literal []] :=
    Segment.readAll_of_unopened rfl
  rw [written_node, Template.read_reference, Segment.readAll_reference balanced, nothing]

theorem read_leaf
    (n : Int64) :
    Template.read (leaf n).written = .plain (Decimal.ofInt64 n) := by
  refine Template.read_of_not_mem fun isMember => ?_
  exact Text.ne_of_isNameContinue (continues_leaf n _ isMember) (by decide) rfl

end Text

/-- What the cache of types remembers, the standard catalog lists. -/
def WellCached
    (trace : Trace) :
    Prop :=
  trace.types.Faithful Catalog.standard

end IntegerTree

/-- The failure is an invalid function, wherever it was met. -/
def Failure.IsInvalidFunction
    (failure : Failure) :
    Prop :=
  ∃ cause, failure = .error cause ∧ cause.kind = .invalidFunction

/-- A location does not change what was met there. -/
theorem Failure.IsInvalidFunction.withLocation
    {failure : Failure}
    (invalid : failure.IsInvalidFunction)
    (location : Location) :
    (failure.withLocation location).IsInvalidFunction := by
  obtain ⟨cause, rfl, kind⟩ := invalid
  refine ⟨cause.withLocation location, rfl, ?_⟩
  cases cause <;> exact kind

namespace IntegerTree

/-- A computation makes something of the value of a tree, or is refused if there is none. -/
structure Yields
    (tree : IntegerTree)
    (make : Int64 → α)
    (action : Expansion α) : Prop where
  value :
    tree.fails = false →
      ∃ n : Int64, n.toInt = tree.value ∧ action.Ends WellCached (· = .ok (make n))
  refusal :
    tree.fails = true →
      action.Ends WellCached fun result =>
        ∃ failure, result = .error failure ∧ failure.IsInvalidFunction

namespace Yields

variable {tree left right : IntegerTree} {make : Int64 → α} {action : Expansion α}

/-- What is made of the value by another computation. -/
theorem bind
    (yields : Yields tree make action)
    {next : α → Expansion β}
    {remake : Int64 → β}
    (goesOn : ∀ n, (next (make n)).Ends WellCached (· = .ok (remake n))) :
    Yields tree remake (action >>= next) where
  value := by
    intro succeeds
    obtain ⟨n, isValue, ends⟩ := yields.value succeeds
    exact ⟨n, isValue, ends.bind (goesOn n)⟩
  refusal := by
    intro fails
    exact (yields.refusal fails).bind_error

theorem located
    (yields : Yields tree make action)
    (location : Location) :
    Yields tree make (Expansion.located location action) where
  value := by
    intro succeeds
    obtain ⟨n, isValue, ends⟩ := yields.value succeeds
    exact ⟨n, isValue, ends.located location⟩
  refusal := by
    intro fails
    exact (yields.refusal fails).located_error fun _ invalid => invalid.withLocation location

end Yields

section Evaluation

variable {phase : PropertyPhase}

/-- The value of a written tree: a leaf stays a text, and an operation gives an integer. -/
def asValue : IntegerTree → Int64 → Value
  | .leaf _, n => .str (Decimal.ofInt64 n)
  | .node .., n => .int n

/-- Either way the call above receives the decimal text. -/
theorem operandOf_asValue
    (tree : IntegerTree)
    (n : Int64) :
    PropertyPhase.operandOf (tree.asValue n) = .decimal n := by
  cases tree with
  | leaf m =>
      have noPercent : '%' ∉ Decimal.ofInt64 n :=
        fun isMember => Text.ne_of_isNameContinue (continues_leaf n _ isMember) (by decide) rfl
      exact congrArg (Operand.value ∘ Value.str) (Text.unescape_of_not_mem noPercent)
  | node op left right =>
      exact congrArg (Operand.value ∘ Value.str) (Text.unescape_escape _)

/-- A call on the engine's own type ends as the member does, whatever the cache holds. -/
theorem callLink_ends
    {context : ExpandContext}
    (isStandard : context.resolver.catalog = Catalog.standard)
    {op : IntegerOperation}
    {left right : IntegerTree}
    {operands : List Operand}
    {reference : Text}
    {outcome : Except Failure Value → Prop}
    (calls :
      ∀ surroundings,
        outcome
          (context.resolver.callStatic (some Intrinsics.entry) "MSBuild" op.name operands
            surroundings reference)) :
    (context.callLink reference none (link op left right) operands).Ends WellCached outcome := by
  have isListed : context.resolver.catalog.type? "MSBuild" = some Intrinsics.entry := by
    rw [isStandard]
    rfl
  have onType : (link op left right).target = .type "MSBuild" :=
    rfl
  have ends :
      (context.callLink reference none (link op left right) operands).Ends
        (Trace.FaithfulTo context.resolver.catalog) outcome :=
    ExpandContext.callLink_type_ends onType isListed calls none
  rwa [isStandard] at ends

/-- A call on the operands of an operation yields the operation, if these yield its parts. -/
theorem Yields.node
    (isStandard : phase.context.resolver.catalog = Catalog.standard)
    (op : IntegerOperation)
    {left right : IntegerTree}
    {first second : Expansion Operand}
    (firstYields : Yields left Operand.decimal first)
    (secondYields : Yields right Operand.decimal second)
    (reference : Text) :
    Yields (.node op left right) Value.int
      (first >>= fun x =>
        second >>= fun y =>
          phase.context.callLink reference none (link op left right) [x, y]) where
  value := by
    intro succeeds
    simp only [fails, Bool.or_eq_false_iff] at succeeds
    obtain ⟨⟨leftSucceeds, rightSucceeds⟩, succeedsHere⟩ := succeeds
    obtain ⟨leftNumber, leftValue, leftEnds⟩ := firstYields.value leftSucceeds
    obtain ⟨rightNumber, rightValue, rightEnds⟩ := secondYields.value rightSucceeds
    rw [← leftValue, ← rightValue] at succeedsHere
    obtain ⟨n, isValue, calls⟩ :=
      IntegerOperation.callStatic_of_not_fails isStandard succeedsHere reference
    refine ⟨n, ?_, leftEnds.bind (rightEnds.bind (callLink_ends isStandard calls))⟩
    rw [isValue, leftValue, rightValue, IntegerTree.value]
  refusal := by
    intro fails
    -- The first of the three that fails ends the call.
    cases leftFails : left.fails with
    | true =>
        exact (firstYields.refusal leftFails).bind_error
    | false =>
        obtain ⟨leftNumber, leftValue, leftEnds⟩ := firstYields.value leftFails
        refine leftEnds.bind ?_
        cases rightFails : right.fails with
        | true =>
            exact (secondYields.refusal rightFails).bind_error
        | false =>
            obtain ⟨rightNumber, rightValue, rightEnds⟩ := secondYields.value rightFails
            refine rightEnds.bind (callLink_ends isStandard fun surroundings => ?_)
            rw [IntegerTree.fails, leftFails, rightFails, ← leftValue, ← rightValue] at fails
            obtain ⟨message, refuses⟩ :=
              IntegerOperation.callStatic_of_fails isStandard fails surroundings reference
            exact ⟨_, refuses, _, rfl, rfl⟩

/-- The template of a written tree yields the tree. -/
theorem evaluate_yields
    (strict : phase.options.contains .leaveOnError = false)
    (isStandard : phase.context.resolver.catalog = Catalog.standard)
    (tree : IntegerTree) :
    Yields tree tree.asValue ((Template.read tree.written).evaluate phase true) := by
  induction tree with
  | leaf n =>
      -- A leaf is text all the way; it becomes an integer in the call above.
      rw [read_leaf, Template.evaluate]
      refine ⟨fun _ => ⟨n, rfl, .pure _⟩, fun fails => ?_⟩
      cases fails
  | node op left right leftHypothesis rightHypothesis =>
      have operands :
          ∀ tree : IntegerTree,
            Yields tree tree.asValue ((Template.read tree.written).evaluate phase true) →
              Yields tree Operand.decimal
                (TemplateArgument.evaluate phase (.template (Template.read tree.written))) := by
        intro tree yields
        rw [TemplateArgument.evaluate]
        refine yields.bind fun n => ?_
        rw [operandOf_asValue]
        exact .pure _
      have called :=
        Yields.node isStandard op (operands left leftHypothesis)
          (operands right rightHypothesis) (node op left right).written
      have remade : (node op left right).asValue = Value.int :=
        rfl
      rw [remade, read_node, PropertyPhase.evaluate_lone, read_body, Request.evaluate,
        PropertyPhase.guarded_eq_self strict]
      simpa [CallChain.run, TemplateArgument.evaluateAll] using
        called.located phase.context.location

end Evaluation

end IntegerTree

namespace Expander

/-- With properties only, an integer is the value of an expression as the phase yields it. -/
theorem value_yields
    {expander : Expander}
    {tree : IntegerTree}
    {expression : Text}
    (yields :
      IntegerTree.Yields tree Value.int ((expander.propertyPhase .properties).value expression)) :
    IntegerTree.Yields tree Value.int (expander.value .properties expression) := by
  have noMetadata : ExpandOptions.properties.intersects .metadata = false :=
    rfl
  have asked : ExpandOptions.properties.contains .properties = true :=
    rfl
  rw [value, expandMetadata, noMetadata, asked]
  exact yields.bind fun n => .pure (Value.int n)

/--
Nested integer arithmetic is right through all its texts: an operation written as
a call with calls inside expands to the value of its tree, and is an invalid
function exactly if a division in it has no quotient of 64 bits. Neither the
earlier uses of the cache of types nor the rest of the expander matter.
-/
theorem value_of_integerTree
    (expander : Expander)
    (isStandard : expander.context.resolver.catalog = Catalog.standard)
    (op : IntegerOperation)
    (left right : IntegerTree)
    (earlier : List CacheCall)
    (before : Trace) :
    let tree := IntegerTree.node op left right
    let start := { before with types := TypeCache.history Catalog.standard earlier }
    let result := ((expander.value .properties tree.written).runFrom start).1
    (tree.fails = false → ∃ n : Int64, result = .ok (.int n) ∧ n.toInt = tree.value) ∧
      (tree.fails = true →
        ∃ cause, result = .error (.error cause) ∧ cause.kind = .invalidFunction) := by
  intro tree start result
  have strict : (expander.propertyPhase .properties).options.contains .leaveOnError = false := by
    change ExpandOptions.properties.contains .leaveOnError = false
    rfl
  have wellCached : IntegerTree.WellCached start :=
    TypeCache.Faithful.history Catalog.standard earlier
  have yields : IntegerTree.Yields tree Value.int (expander.value .properties tree.written) :=
    value_yields (tree.evaluate_yields strict isStandard)
  constructor
  · intro succeeds
    obtain ⟨n, isValue, ends⟩ := yields.value succeeds
    exact ⟨n, (ends start wellCached).1, isValue⟩
  · intro fails
    obtain ⟨failure, isFailure, cause, rfl, kind⟩ := (yields.refusal fails start wellCached).1
    exact ⟨cause, isFailure, kind⟩

/--
The least integer less one is the greatest one, and dividing the least one by minus
one is refused, a level below the operation at the root.
-/
theorem value_of_integerTree_at_the_ends :
    let expander : Expander := { context := .onEmptyMachine }
    let wraps := IntegerTree.node .subtract (.leaf Int64.minValue) (.leaf 1)
    let overflows :=
      IntegerTree.node .add (.leaf 2) (.node .divide (.leaf Int64.minValue) (.leaf (-1)))
    wraps.fails = false ∧ wraps.value = Int64.maxValue.toInt ∧ overflows.fails = true ∧
      (∃ n : Int64,
        ((expander.value .properties wraps.written).runFrom {}).1 = .ok (.int n) ∧
          n.toInt = wraps.value) ∧
      ∃ cause,
        ((expander.value .properties overflows.written).runFrom {}).1 = .error (.error cause) ∧
          cause.kind = .invalidFunction := by
  intro expander wraps overflows
  have wrapped :=
    value_of_integerTree expander rfl .subtract (.leaf Int64.minValue) (.leaf 1) [] {}
  have overflowed :=
    value_of_integerTree expander rfl .add (.leaf 2)
      (.node .divide (.leaf Int64.minValue) (.leaf (-1))) [] {}
  exact ⟨by decide, by decide, by decide, wrapped.1 (by decide), overflowed.2 (by decide)⟩

end Expander

end RefExpand
