import RefExpand.Proofs.Call.TextCalls
import RefExpand.Proofs.Call.TextChain
import RefExpand.Proofs.Expand.SingleItem
import RefExpand.Proofs.Expand.StretchRuns
import RefExpand.Proofs.Expand.ValueForm

namespace RefExpand

/-!
# Members of texts behind a property and behind an item type

A chain on a property is run in one piece, each call on the result before it; the
transforms of a vector are run one by one, each on the spec that the one before wrote
out. A text is escaped when it is given and unescaped when it is called on, on both
ways, so the chain gives the same text as long as no result is empty.
-/

namespace Text

theorem holds_opening_append_right
    {part : Text}
    (opened : holds "$(" part = true)
    (front : Text) :
    holds "$(" (front ++ part) = true := by
  induction front with
  | nil =>
      exact opened
  | cons c front inductionHypothesis =>
      rw [List.cons_append, holds_opening_cons, inductionHypothesis, Bool.or_true]

theorem holds_opening_append_left
    {part : Text}
    (opened : holds "$(" part = true)
    (rest : Text) :
    holds "$(" (part ++ rest) = true := by
  induction part with
  | nil =>
      cases opened
  | cons c part inductionHypothesis =>
      rw [holds_opening_cons, Bool.or_eq_true] at opened
      rw [List.cons_append, holds_opening_cons, Bool.or_eq_true]
      rcases opened with here | later
      · cases part with
        | nil =>
            simp at here
        | cons d part =>
            exact Or.inl here
      · exact Or.inr (inductionHypothesis later)

/-- Where nothing is opened, nothing is opened in a part. -/
theorem unopened_of_isInfix
    {part whole : Text}
    (inside : part <:+: whole)
    (unopened : holds "$(" whole = false) :
    holds "$(" part = false := by
  obtain ⟨front, rest, rfl⟩ := inside
  rw [← Bool.not_eq_true] at unopened ⊢
  intro opened
  exact unopened (holds_opening_append_left (holds_opening_append_right opened front) rest)

end Text

/-- Arguments without references stand for themselves. -/
theorem TemplateArgument.evaluateAll_literal
    (phase : PropertyPhase)
    {arguments : List Argument}
    (plain : ∀ part ∈ Argument.texts arguments, Text.holds "$(" part = false) :
    evaluateAll phase (arguments.map .ofArgument) =
      pure (arguments.map Pipeline.literalOperand) := by
  induction arguments with
  | nil =>
      rfl
  | cons argument arguments inductionHypothesis =>
      have later :
          evaluateAll phase (arguments.map .ofArgument) =
            pure (arguments.map Pipeline.literalOperand) := by
        apply inductionHypothesis
        intro part isPart
        apply plain part
        cases argument with
        | text content =>
            exact List.mem_cons_of_mem _ isPart
        | null =>
            exact isPart
        | out =>
            exact isPart
      have here :
          evaluate phase (.ofArgument argument) = pure (Pipeline.literalOperand argument) := by
        cases argument with
        | text content =>
            have unopened := plain content List.mem_cons_self
            have asWritten : Template.read content = .plain content := by
              rw [Template.read, unopened, if_neg Bool.false_ne_true]
            rw [ofArgument, asWritten]
            rfl
        | null =>
            rfl
        | out =>
            rfl
      rw [List.map_cons, evaluateAll, here, later]
      rfl

namespace TextCall

/-- The call on a text gives this value, wherever it is made. -/
def Gives
    (resolver : Resolver)
    (call : TextCall)
    (receiver : Text)
    (result : Value) :
    Prop :=
  ∃ arguments,
    Argument.parseAll call.arguments = .ok arguments ∧
      ∀ surroundings context,
        resolver.callInstance .method call.name (.str receiver)
          (arguments.map Pipeline.literalOperand) surroundings context = .ok result

/-- Each call gives a text that is not empty, and the next one is made on it. -/
inductive GiveAll
    (resolver : Resolver) :
    Text → List TextCall → Text → Prop where
  | done (text : Text) : GiveAll resolver text [] text
  | call {call : TextCall} {calls : List TextCall} {receiver first result : Text}
      (gives : call.Gives resolver receiver (.str first))
      (some : first ≠ [])
      (later : GiveAll resolver first calls result) :
      GiveAll resolver receiver (call :: calls) result

theorem Gives.unique
    {resolver : Resolver}
    {call : TextCall}
    {receiver : Text}
    {result result' : Value}
    (gives : call.Gives resolver receiver result)
    (gives' : call.Gives resolver receiver result')
    (surroundings : Surroundings) :
    result = result' := by
  obtain ⟨arguments, parsed, called⟩ := gives
  obtain ⟨arguments', parsed', called'⟩ := gives'
  rw [parsed] at parsed'
  cases parsed'
  exact Except.ok.inj ((called surroundings []).symm.trans (called' surroundings []))

theorem arguments_unopened
    {call : TextCall}
    {arguments : List Argument}
    (parsed : Argument.parseAll call.arguments = .ok arguments) :
    ∀ part ∈ Argument.texts arguments, Text.holds "$(" part = false := by
  intro part isPart
  exact Text.unopened_of_isInfix (Argument.parseAll_isInfix parsed part isPart) call.noReference

/-- What a chain does for its first call, on a property or on a result alike. -/
def callOn
    (context : ExpandContext)
    (reference : Text)
    (call : TextCall)
    (arguments : List Argument)
    (receiver : Text) :
    Expansion Value := do
  let turn ← Expansion.takeTurn
  Expansion.ofExcept <|
    context.resolver.callInstance .method call.name (.str receiver)
      (arguments.map Pipeline.literalOperand) { context.surroundings with turn } reference

variable {phase : PropertyPhase} {chained : Bool} {front : Text}

theorem run_of_parsed
    (phase : PropertyPhase)
    (start : ChainStart chained front)
    {call : TextCall}
    {arguments : List Argument}
    (parsed : Argument.parseAll call.arguments = .ok arguments)
    (later : List TextCall)
    (reference receiver : Text) :
    (CallChain.read chained (front ++ textBehind (call :: later))).run phase reference
        (some (.str receiver)) =
      callOn phase.context reference call arguments receiver >>= fun result =>
        (CallChain.read true (textBehind later)).run phase reference (some result) := by
  have read : CallLink.readArguments call.arguments = .ok arguments := by
    rw [CallLink.readArguments, parsed]
    rfl
  rw [readChain start, read, CallChain.run,
    TemplateArgument.evaluateAll_literal phase (arguments_unopened parsed), pure_bind]
  cases start <;> rfl

theorem run_of_unparsed
    (phase : PropertyPhase)
    {call : TextCall}
    {fault : SplitFault}
    (parsed : Argument.parseAll call.arguments = .error fault)
    (later : List TextCall)
    (reference : Text)
    (receiver : Option Value) :
    ∃ failure,
      (CallChain.read true (textBehind (call :: later))).run phase reference receiver =
        throw failure := by
  have read : CallLink.readArguments call.arguments = .error (.badArguments fault) := by
    rw [CallLink.readArguments, parsed]
    rfl
  have chain := readChain .result call later
  rw [read, List.nil_append] at chain
  rw [chain]
  exact ⟨_, rfl⟩

theorem runFrom_callOn
    (context : ExpandContext)
    (reference : Text)
    (call : TextCall)
    (arguments : List Argument)
    (receiver : Text)
    (before : Trace) :
    (callOn context reference call arguments receiver).runFrom before =
      (context.resolver.callInstance .method call.name (.str receiver)
          (arguments.map Pipeline.literalOperand)
          { context.surroundings with turn := before.calls } reference,
        { before with calls := before.calls + 1 }) :=
  rfl

/-- Calls on a value that end with this value, in one run at least. -/
def End
    (phase : PropertyPhase)
    (receiver : Value)
    (calls : List TextCall)
    (value : Value) :
    Prop :=
  ∃ reference before after,
    ((CallChain.read true (textBehind calls)).run phase reference
      (some receiver)).runFrom before = (.ok value, after)

theorem End.eq_of_nil
    {receiver value : Value}
    (ends : End phase receiver [] value) :
    receiver = value := by
  obtain ⟨reference, before, after, ran⟩ := ends
  rw [textBehind, List.flatMap_nil, CallChain.read_nil] at ran
  exact Except.ok.inj (Prod.mk.inj ran).1

/-- The first call of a chain that ends gives a value, and the other ones end from there. -/
theorem End.exists_first
    (standard : phase.context.resolver.catalog = .standard)
    {receiver : Text}
    {call : TextCall}
    {later : List TextCall}
    {value : Value}
    (ends : End phase (.str receiver) (call :: later) value) :
    ∃ first,
      call.Gives phase.context.resolver receiver first ∧ End phase first later value := by
  obtain ⟨reference, before, after, ran⟩ := ends
  cases parsed : Argument.parseAll call.arguments with
  | error fault =>
      obtain ⟨failure, fails⟩ :=
        run_of_unparsed phase parsed later reference (some (.str receiver))
      rw [fails] at ran
      cases ran
  | ok arguments =>
      have step := run_of_parsed phase .result parsed later reference receiver
      rw [List.nil_append] at step
      rw [step] at ran
      obtain ⟨first, middle, called, ranLater⟩ := Expansion.exists_of_runFrom_bind ran
      rw [runFrom_callOn, Prod.mk.injEq] at called
      refine ⟨first, ⟨arguments, parsed, ?_⟩, reference, middle, after, ranLater⟩
      intro surroundings context
      exact Resolver.callInstance_elsewhere standard called.1 surroundings context

/-- If every beginning of a chain ends with a text that is not empty, so does each call. -/
theorem exists_giveAll
    (standard : phase.context.resolver.catalog = .standard)
    {receiver : Text}
    {calls : List TextCall}
    (ends :
      ∀ front, front ≠ [] → front <+: calls →
        ∃ result, result ≠ [] ∧ End phase (.str receiver) front (.str result)) :
    ∃ result, GiveAll phase.context.resolver receiver calls result := by
  induction calls generalizing receiver with
  | nil =>
      exact ⟨receiver, .done receiver⟩
  | cons call later inductionHypothesis =>
      have isBeginning : [call] <+: call :: later :=
        ⟨later, rfl⟩
      obtain ⟨result, some, endsHere⟩ := ends [call] (List.cons_ne_nil _ _) isBeginning
      obtain ⟨first, gives, endsNow⟩ := endsHere.exists_first standard
      obtain rfl := endsNow.eq_of_nil
      have endsLater :
          ∀ front, front ≠ [] → front <+: later →
            ∃ last, last ≠ [] ∧ End phase (.str result) front (.str last) := by
        intro front _ inLater
        have inCalls : call :: front <+: call :: later :=
          List.prefix_cons_inj call |>.mpr inLater
        obtain ⟨last, lastSome, endsLast⟩ := ends (call :: front) (List.cons_ne_nil _ _) inCalls
        obtain ⟨first', gives', endsFront⟩ := endsLast.exists_first standard
        obtain rfl := gives.unique gives' phase.context.surroundings
        exact ⟨last, lastSome, endsFront⟩
      obtain ⟨last, giveAll⟩ := inductionHypothesis endsLater
      exact ⟨last, .call gives some giveAll⟩

/-- Where each call gives a text, the chain ends with the last one, wherever it is run. -/
theorem GiveAll.run
    {receiver result : Text}
    {calls : List TextCall}
    (giveAll : GiveAll phase.context.resolver receiver calls result)
    (reference : Text)
    (before : Trace) :
    ∃ after,
      ((CallChain.read true (textBehind calls)).run phase reference
        (some (.str receiver))).runFrom before = (.ok (.str result), after) := by
  induction giveAll generalizing before with
  | done text =>
      rw [textBehind, List.flatMap_nil, CallChain.read_nil]
      exact ⟨before, rfl⟩
  | @call call calls receiver first result gives _ _ inductionHypothesis =>
      obtain ⟨arguments, parsed, called⟩ := gives
      have step := run_of_parsed phase .result parsed calls reference receiver
      rw [List.nil_append] at step
      rw [step, Expansion.runFrom_bind, runFrom_callOn, called]
      exact inductionHypothesis _

section Properties

variable {property text : Text}

/-- A reference to a chain has the value of its body. -/
theorem value_reference
    (named : property.isName = true)
    (calls : List TextCall) :
    phase.value (reference property calls) =
      (Request.read (property ++ textBehind calls)).evaluate phase
        (reference property calls) := by
  have nestedName : Nested property :=
    (Balanced.ofNameContinue (Text.continues_of_isName named)).nested
  exact phase.value_written (nestedName.append (nested_textBehind calls))

/-- The property that a chain is called on is looked up, and the chain run on its value. -/
theorem runFrom_lookup_located
    (valued : phase.table.value? property = some text)
    (run : Option Value → Expansion Value)
    (before : Trace) :
    ((some property).mapM phase.lookup >>= fun receiver =>
        Expansion.located phase.context.location (run receiver)).runFrom before =
      (Expansion.located phase.context.location (run (some (.str text)))).runFrom
        { before with usage := before.usage ++ [(property, .found)] } := by
  have lookedUp :
      (phase.lookup property).runFrom before =
        (.ok (.str text), { before with usage := before.usage ++ [(property, .found)] }) := by
    rw [PropertyPhase.lookup, PropertyPhase.valueOf, valued]
    rfl
  have receiver :
      ((some property).mapM phase.lookup).runFrom before =
        (.ok (some (.str text)),
          { before with usage := before.usage ++ [(property, .found)] }) := by
    change (some <$> phase.lookup property).runFrom before = _
    rw [Expansion.runFrom_map, lookedUp]
    rfl
  rw [Expansion.runFrom_bind, receiver]

/-- A chain is run in the same way on a property as on a result. -/
theorem run_of_property
    (named : property.isName = true)
    {call : TextCall}
    {arguments : List Argument}
    (parsed : Argument.parseAll call.arguments = .ok arguments)
    (later : List TextCall)
    (reference receiver : Text) :
    (CallChain.read false (property ++ textBehind (call :: later))).run phase reference
        (some (.str receiver)) =
      (CallChain.read true (textBehind (call :: later))).run phase reference
        (some (.str receiver)) := by
  have onResult := run_of_parsed phase .result parsed later reference receiver
  rw [List.nil_append] at onResult
  rw [run_of_parsed phase (.property named) parsed, onResult]

/-- A reference to a chain that has a value is whole, and the chain ends with the value. -/
theorem End.of_value
    (keepsErrors : phase.options.contains .leaveOnError = false)
    (named : property.isName = true)
    (valued : phase.table.value? property = some text)
    {call : TextCall}
    {later : List TextCall}
    {before : Trace}
    {value : Value}
    (ran :
      ((phase.value (reference property (call :: later))).runFrom before).1 = .ok value) :
    Text.cutsCharacter Template.registryWord.length
        (property ++ textBehind (call :: later)) = false ∧
      End phase (.str text) (call :: later) value := by
  rw [value_reference named, readRequest named] at ran
  cases cuts :
      Text.cutsCharacter Template.registryWord.length
        (property ++ textBehind (call :: later)) with
  | true =>
      rw [cuts, if_pos rfl, Request.evaluate] at ran
      cases ran
  | false =>
      refine ⟨rfl, ?_⟩
      rw [cuts, if_neg Bool.false_ne_true] at ran
      cases parsed : Argument.parseAll call.arguments with
      | error fault =>
          rw [CallLink.readArguments, parsed] at ran
          simp only [Except.mapError, Request.evaluate, PropertyPhase.guarded, keepsErrors,
            Bool.false_eq_true, if_false] at ran
          cases ran
      | ok arguments =>
          rw [CallLink.readArguments, parsed] at ran
          simp only [Except.mapError, Request.evaluate, PropertyPhase.guarded, keepsErrors,
            Bool.false_eq_true, if_false] at ran
          rw [runFrom_lookup_located valued, Expansion.runFrom_located,
            run_of_property named parsed] at ran
          exact ⟨_, _, _, Prod.ext (eq_ok_of_mapError ran) rfl⟩

/-- Where a chain runs to a value on the text of a property, so does the reference to it. -/
theorem runFrom_value_of_run
    (phase : PropertyPhase)
    (named : property.isName = true)
    (valued : phase.table.value? property = some text)
    {call : TextCall}
    {later : List TextCall}
    (uncut :
      Text.cutsCharacter Template.registryWord.length
        (property ++ textBehind (call :: later)) = false)
    {arguments : List Argument}
    (parsed : Argument.parseAll call.arguments = .ok arguments)
    {before after : Trace}
    {value : Value}
    (ran :
      ((CallChain.read true (textBehind (call :: later))).run phase
          (reference property (call :: later)) (some (.str text))).runFrom
        { before with usage := before.usage ++ [(property, .found)] } =
        (.ok value, after)) :
    (phase.value (reference property (call :: later))).runFrom before = (.ok value, after) := by
  have read : CallLink.readArguments call.arguments = .ok arguments := by
    rw [CallLink.readArguments, parsed]
    rfl
  have onProperty :
      ((some property).mapM phase.lookup >>= fun receiver =>
        Expansion.located phase.context.location
          ((CallChain.read false (property ++ textBehind (call :: later))).run phase
            (reference property (call :: later)) receiver)).runFrom before =
        (.ok value, after) := by
    rw [runFrom_lookup_located valued, Expansion.runFrom_located,
      run_of_property named parsed, ran]
    rfl
  rw [value_reference named, readRequest named, uncut, if_neg Bool.false_ne_true, read,
    Request.evaluate, PropertyPhase.guarded]
  split
  · rw [Expansion.runFrom_orElseValue, onProperty]
  · exact onProperty

/-- Where each call gives a text, a reference to the chain has the last one as its value. -/
theorem GiveAll.value
    (phase : PropertyPhase)
    (named : property.isName = true)
    (valued : phase.table.value? property = some text)
    {call : TextCall}
    {later : List TextCall}
    (uncut :
      Text.cutsCharacter Template.registryWord.length
        (property ++ textBehind (call :: later)) = false)
    {result : Text}
    (giveAll : GiveAll phase.context.resolver text (call :: later) result)
    (before : Trace) :
    ∃ after,
      (phase.value (reference property (call :: later))).runFrom before =
        (.ok (.str result), after) := by
  have parsed : ∃ arguments, Argument.parseAll call.arguments = .ok arguments := by
    cases giveAll with
    | call gives some later =>
        exact ⟨gives.choose, gives.choose_spec.1⟩
  obtain ⟨arguments, parsed⟩ := parsed
  obtain ⟨after, ran⟩ :=
    giveAll.run (reference property (call :: later))
      { before with usage := before.usage ++ [(property, .found)] }
  exact ⟨after, runFrom_value_of_run phase named valued uncut parsed ran⟩

/-- A reference to one call on a property has what the call gives as its value. -/
theorem Gives.runFrom_value
    (phase : PropertyPhase)
    (named : property.isName = true)
    (valued : phase.table.value? property = some text)
    {call : TextCall}
    (uncut :
      Text.cutsCharacter Template.registryWord.length (property ++ textBehind [call]) = false)
    {value : Value}
    (gives : call.Gives phase.context.resolver text value)
    (before : Trace) :
    (phase.value (reference property [call])).runFrom before =
      (.ok value,
        { before with
          usage := before.usage ++ [(property, .found)]
          calls := before.calls + 1 }) := by
  obtain ⟨arguments, parsed, called⟩ := gives
  have step := run_of_parsed phase .result parsed [] (reference property [call]) text
  rw [List.nil_append] at step
  refine runFrom_value_of_run phase named valued uncut parsed ?_
  rw [step, Expansion.runFrom_bind, runFrom_callOn, called, textBehind, List.flatMap_nil,
    CallChain.read_nil]
  rfl

/--
If every beginning of a chain on a property has a text that is not empty for its value,
the body of the reference is not cut in a character, and each call gives a text.
-/
theorem exists_giveAll_of_values
    (standard : phase.context.resolver.catalog = .standard)
    (keepsErrors : phase.options.contains .leaveOnError = false)
    (named : property.isName = true)
    (valued : phase.table.value? property = some text)
    {calls : List TextCall}
    (someCalls : calls ≠ [])
    {before : Trace}
    (givesTexts :
      ∀ front, front ≠ [] → front <+: calls →
        ∃ result, result ≠ [] ∧
          ((phase.value (reference property front)).runFrom before).1 = .ok (.str result)) :
    Text.cutsCharacter Template.registryWord.length (property ++ textBehind calls) = false ∧
      ∃ result, GiveAll phase.context.resolver text calls result := by
  have ends :
      ∀ front, front ≠ [] → front <+: calls →
        Text.cutsCharacter Template.registryWord.length (property ++ textBehind front) = false ∧
          ∃ result, result ≠ [] ∧ End phase (.str text) front (.str result) := by
    intro front some inCalls
    obtain ⟨result, resultSome, ran⟩ := givesTexts front some inCalls
    cases front with
    | nil =>
        exact absurd rfl some
    | cons call later =>
        obtain ⟨uncut, endsHere⟩ := End.of_value keepsErrors named valued ran
        exact ⟨uncut, result, resultSome, endsHere⟩
  exact ⟨(ends calls someCalls (List.prefix_refl calls)).1,
    exists_giveAll standard fun front some inCalls => (ends front some inCalls).2⟩

end Properties

end TextCall

end RefExpand
