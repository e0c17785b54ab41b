import RefExpand.Proofs.Expand.PropertyStretches

namespace RefExpand

/-!
# The properties that an expression reads

The names that a template looks up, from left to right, can be listed without
a property table. A run of the property phase that succeeds looks up exactly
these, whatever the values are: a value ends up in a receiver, in an argument
or in the result, and is never read for references again.
-/

/-- The names of the properties that were looked up. -/
def Trace.names (trace : Trace) : List Text :=
  trace.usage.map (·.1)

mutual

/-- The names that a template looks up, in their order. -/
def Template.reads : Template → List Text
  | .plain _ => []
  | .mixed segments => Segment.readsAll segments

/-- The names that segments look up. -/
def Segment.readsAll : List Segment → List Text
  | [] => []
  | segment :: rest => Segment.reads segment ++ Segment.readsAll rest

/-- The names that a segment looks up. -/
def Segment.reads : Segment → List Text
  | .literal _ => []
  | .reference _ request => Request.reads request

/-- The names that a request looks up. -/
def Request.reads : Request → List Text
  | .nothing => []
  | .cutInside _ _ => []
  | .registry key => Template.reads key
  | .property name => [name]
  | .call receiver chain => receiver.toList ++ CallChain.reads chain
  | .uncallable _ _ => []
  | .malformed _ => []

/-- The names that the arguments of the links of a call look up. -/
def CallChain.reads : CallChain → List Text
  | .done => []
  | .broken _ => []
  | .link _ arguments next => TemplateArgument.readsAll arguments ++ CallChain.reads next

/-- The names that arguments look up. -/
def TemplateArgument.readsAll : List TemplateArgument → List Text
  | [] => []
  | argument :: rest => TemplateArgument.reads argument ++ TemplateArgument.readsAll rest

/-- The names that an argument looks up. -/
def TemplateArgument.reads : TemplateArgument → List Text
  | .null => []
  | .out => []
  | .template content => Template.reads content

end

namespace Expansion

/-- Every run that succeeds looks up these names, one after the other. -/
def Reads
    (action : Expansion α)
    (names : List Text) :
    Prop :=
  ∀ before value after,
    action.runFrom before = (.ok value, after) →
      after.names = before.names ++ names

namespace Reads

/-- A computation that keeps the usage as it is reads nothing. -/
theorem nothing
    {action : Expansion α}
    (keepsUsage :
      ∀ before, (action.runFrom before).2.usage = before.usage) :
    action.Reads [] := by
  intro before value after run
  have kept := keepsUsage before
  rw [run] at kept
  simpa [Trace.names] using congrArg (List.map (·.1)) kept

theorem pure
    (value : α) :
    (Pure.pure value : Expansion α).Reads [] :=
  nothing fun _ => rfl

/-- A failure never succeeds, so it reads whatever is asked of it. -/
theorem throw
    (failure : Failure)
    (names : List Text) :
    (MonadExcept.throw failure : Expansion α).Reads names := by
  intro before value after run
  rw [runFrom_throw] at run
  cases run

/-- What two computations read is what the first reads, and then the second. -/
theorem bind
    {action : Expansion α}
    {next : α → Expansion β}
    {first second : List Text}
    (actionReads : action.Reads first)
    (nextReads : ∀ value, (next value).Reads second) :
    (action >>= next).Reads (first ++ second) := by
  intro before value after run
  rw [runFrom_bind] at run
  rcases actionRun : action.runFrom before with ⟨result, middle⟩
  rw [actionRun] at run
  cases result with
  | error failure =>
      cases run
  | ok found =>
      have firstHalf := actionReads before found middle actionRun
      have secondHalf := nextReads found middle value after run
      rw [secondHalf, firstHalf, List.append_assoc]

theorem bind_pure
    {action : Expansion α}
    {names : List Text}
    (actionReads : action.Reads names)
    (make : α → β) :
    (action >>= fun value => Pure.pure (make value)).Reads names := by
  simpa using actionReads.bind fun value => pure (make value)

/-- A computation after one that reads nothing reads what it reads alone. -/
theorem after_nothing
    {action : Expansion α}
    {next : α → Expansion β}
    {names : List Text}
    (actionReads : action.Reads [])
    (nextReads : ∀ value, (next value).Reads names) :
    (action >>= next).Reads names := by
  simpa using actionReads.bind nextReads

theorem located
    {action : Expansion α}
    {names : List Text}
    (actionReads : action.Reads names)
    (location : Location) :
    (Expansion.located location action).Reads names := by
  intro before value after run
  rw [runFrom_located] at run
  rcases actionRun : action.runFrom before with ⟨result, middle⟩
  rw [actionRun] at run
  cases result with
  | error failure =>
      cases run
  | ok found =>
      cases run
      exact actionReads before value middle actionRun

end Reads

end Expansion

namespace PropertyPhase

variable {phase : PropertyPhase}

theorem lookup_reads
    (name : Text) :
    (phase.lookup name).Reads [name] := by
  intro before value after run
  cases run
  simp [Trace.names]

theorem receiver_reads
    (receiver : Option Text) :
    (receiver.mapM phase.lookup).Reads receiver.toList := by
  cases receiver with
  | none =>
      exact Expansion.Reads.pure none
  | some name =>
      exact (lookup_reads name).bind_pure some

theorem guarded_eq_self
    (strict : phase.options.contains .leaveOnError = false)
    (written : Text)
    (action : Expansion Value) :
    phase.guarded written action = action := by
  simp [guarded, strict]

end PropertyPhase

/-- Calling a link reads nothing: receiver and arguments are values already. -/
theorem ExpandContext.callLink_reads
    (context : ExpandContext)
    (reference : Text)
    (receiver : Option Value)
    (link : CallLink)
    (operands : List Operand) :
    (context.callLink reference receiver link operands).Reads [] := by
  unfold ExpandContext.callLink
  refine Expansion.Reads.after_nothing (.nothing fun _ => rfl) fun turn => ?_
  cases link.target with
  | type typeName =>
      refine Expansion.Reads.after_nothing (.nothing fun _ => rfl) fun found => ?_
      exact .nothing fun _ => rfl
  | property _ | result | index =>
      cases receiver with
      | none =>
          exact .throw _ []
      | some value =>
          exact .nothing fun _ => rfl

mutual

/-- Evaluating a template reads the names of the template. -/
theorem Template.evaluate_reads
    {phase : PropertyPhase}
    (strict : phase.options.contains .leaveOnError = false)
    (adjusts : Bool) :
    ∀ template : Template,
      (template.evaluate phase adjusts).Reads template.reads
  | .plain _ => .pure _
  | .mixed segments => (Segment.evaluateAll_reads strict segments).bind_pure _

theorem Segment.evaluateAll_reads
    {phase : PropertyPhase}
    (strict : phase.options.contains .leaveOnError = false) :
    ∀ segments : List Segment,
      (Segment.evaluateAll phase segments).Reads (Segment.readsAll segments)
  | [] => .pure _
  | segment :: rest =>
      (Segment.evaluate_reads strict segment).bind fun _ =>
        (Segment.evaluateAll_reads strict rest).bind_pure _

theorem Segment.evaluate_reads
    {phase : PropertyPhase}
    (strict : phase.options.contains .leaveOnError = false) :
    ∀ segment : Segment,
      (segment.evaluate phase).Reads segment.reads
  | .literal _ => .pure _
  | .reference written request => (Request.evaluate_reads strict written request).bind_pure _

theorem Request.evaluate_reads
    {phase : PropertyPhase}
    (strict : phase.options.contains .leaveOnError = false)
    (written : Text) :
    ∀ request : Request,
      (request.evaluate phase written).Reads request.reads
  | .nothing => .pure _
  | .cutInside _ _ => .throw _ _
  | .registry key => (Template.evaluate_reads strict false key).bind_pure _
  | .property name => PropertyPhase.lookup_reads name
  | .call receiver chain => by
      rw [Request.evaluate, PropertyPhase.guarded_eq_self strict]
      exact (PropertyPhase.receiver_reads receiver).bind fun value =>
        (CallChain.run_reads strict written value chain).located _
  | .uncallable _ _ => by
      rw [Request.evaluate, PropertyPhase.guarded_eq_self strict]
      exact .throw _ _
  | .malformed _ => by
      rw [Request.evaluate, PropertyPhase.guarded_eq_self strict]
      exact .throw _ _

/-- Running the links of a call reads the names of their arguments. -/
theorem CallChain.run_reads
    {phase : PropertyPhase}
    (strict : phase.options.contains .leaveOnError = false)
    (reference : Text)
    (receiver : Option Value) :
    ∀ chain : CallChain,
      (chain.run phase reference receiver).Reads chain.reads
  | .done => .pure _
  | .broken _ => .throw _ _
  | .link call arguments next =>
      (TemplateArgument.evaluateAll_reads strict arguments).bind fun operands =>
        (phase.context.callLink_reads reference receiver call operands).after_nothing
          fun result => CallChain.run_reads strict reference (some result) next

theorem TemplateArgument.evaluateAll_reads
    {phase : PropertyPhase}
    (strict : phase.options.contains .leaveOnError = false) :
    ∀ arguments : List TemplateArgument,
      (TemplateArgument.evaluateAll phase arguments).Reads
        (TemplateArgument.readsAll arguments)
  | [] => .pure _
  | argument :: rest =>
      (TemplateArgument.evaluate_reads strict argument).bind fun _ =>
        (TemplateArgument.evaluateAll_reads strict rest).bind_pure _

theorem TemplateArgument.evaluate_reads
    {phase : PropertyPhase}
    (strict : phase.options.contains .leaveOnError = false) :
    ∀ argument : TemplateArgument,
      (argument.evaluate phase).Reads argument.reads
  | .null => .pure _
  | .out => .pure _
  | .template content => (Template.evaluate_reads strict true content).bind_pure _

end

namespace PropertyPhase

/-- The value of an expression is found by reading the names of the expression. -/
theorem value_reads
    {phase : PropertyPhase}
    (strict : phase.options.contains .leaveOnError = false)
    (expression : Text) :
    (phase.value expression).Reads (Template.read expression).reads :=
  Template.evaluate_reads strict true (Template.read expression)

theorem text_reads
    {phase : PropertyPhase}
    (strict : phase.options.contains .leaveOnError = false)
    (expression : Text) :
    (phase.text expression).Reads (Template.read expression).reads :=
  (value_reads strict expression).bind_pure _

/--
Two runs of the property phase over one expression that both succeed look up
the same names in the same order, whatever their tables hold, and these are
the names that stand in the text of the expression.
-/
theorem names_decided_by_expression
    {left right : PropertyPhase}
    (leftStrict : left.options.contains .leaveOnError = false)
    (rightStrict : right.options.contains .leaveOnError = false)
    {expression leftText rightText : Text}
    {leftBefore leftAfter rightBefore rightAfter : Trace}
    (leftRun :
      (left.text expression).runFrom leftBefore = (.ok leftText, leftAfter))
    (rightRun :
      (right.text expression).runFrom rightBefore = (.ok rightText, rightAfter)) :
    leftAfter.names = leftBefore.names ++ (Template.read expression).reads ∧
      rightAfter.names = rightBefore.names ++ (Template.read expression).reads :=
  ⟨text_reads leftStrict expression _ _ _ leftRun,
    text_reads rightStrict expression _ _ _ rightRun⟩

/-- A value that looks like a reference is not read, whatever another table holds. -/
theorem names_decided_by_expression_of_two_tables :
    let left : PropertyPhase :=
      { table := { entries := [("A".toList, "$(B)".toList)] }
        options := .properties
        context := .onEmptyMachine }
    let right : PropertyPhase :=
      { table := { entries := [("A".toList, "1".toList), ("B".toList, "2".toList)] }
        options := .properties
        context := .onEmptyMachine }
    ∃ leftAfter rightAfter,
      (left.text "$(A)".toList).runFrom {} = (.ok "$(B)".toList, leftAfter) ∧
        (right.text "$(A)".toList).runFrom {} = (.ok "1".toList, rightAfter) ∧
        leftAfter.names = [] ++ (Template.read "$(A)".toList).reads ∧
        rightAfter.names = [] ++ (Template.read "$(A)".toList).reads := by
  intro left right
  have named : Text.isName "A".toList = true :=
    rfl
  have leftRun := left.runFrom_text_property named (by decide) {}
  have rightRun := right.runFrom_text_property named (by decide) {}
  have strict : ExpandOptions.properties.contains .leaveOnError = false :=
    rfl
  have names := names_decided_by_expression strict strict leftRun rightRun
  exact ⟨_, _, leftRun, rightRun, names⟩

end PropertyPhase

end RefExpand
