import Mathlib.Logic.Function.Iterate
import RefExpand.Proofs.Call.StaticCall
import RefExpand.Proofs.Expand.PropertyStretches
import RefExpand.Proofs.Expand.Run

namespace RefExpand

/-!
# The recursion of the property phase

The value of an expression can be had without reading all of its template first:
the text is cut one level deep, and what is cut out of it is entered again, as an
expression or as the links of a call. `PropertyPhase.level` is one such level, with
whatever runs the inner entries as its parameter. The inner entries are proper parts
of the outer text; the value a call is run on comes along with its links, and is
never read as a text. So the levels below a text are no more than its characters.
-/

theorem Text.takeName_isSuffix
    (text : Text) :
    (takeName text).2 <:+ text :=
  ⟨(takeName text).1, takeName_append text⟩

/-- A stretch of an expression to copy, or the inside of a reference, not read any further. -/
inductive Stretch where
  | literal (text : Text)
  | reference (inside : Text)

namespace Stretch

/-- The written form of a reference. -/
def written
    (inside : Text) :
    Text :=
  '$' :: '(' :: (inside ++ [')'])

/-- Cut an expression into literal stretches and references. -/
def cut
    (text : Text) :
    List Stretch :=
  match _opened : Text.breakOn? "$(" text with
  | none => [.literal text]
  | some (before, after) =>
      match _closed : closeParen? after with
      | none => [.literal text]
      | some span => .literal before :: .reference span.inside :: cut span.rest
termination_by text.length
decreasing_by exact (Template.length_of_reference _opened _closed).2

/-- The segment that a stretch is read as. -/
def segment : Stretch → Segment
  | .literal text => .literal text
  | .reference inside => .reference (written inside) (Request.read inside)

/-- The segments of an expression are its stretches, each read on its own. -/
theorem readAll_eq_map_cut
    (text : Text) :
    Segment.readAll text = (cut text).map segment := by
  fun_induction cut text with
  | case1 text unopened =>
      exact Segment.readAll_of_unopened unopened
  | case2 text before after opened unclosed =>
      exact Segment.readAll_of_unclosed opened unclosed
  | case3 text before after opened span closed inductionHypothesis =>
      rw [Segment.readAll_of_closed opened closed, inductionHypothesis]
      rfl

/-- The text holds `$(`, this inside, and the parenthesis that closes it. -/
structure StandsIn
    (inside text : Text) : Prop where
  nested : Nested inside
  isInfix : written inside <:+: text

theorem StandsIn.inInfix
    {inside inner outer : Text}
    (stands : StandsIn inside inner)
    (part : inner <:+: outer) :
    StandsIn inside outer :=
  { stands with isInfix := stands.isInfix.trans part }

/-- The references that an expression is cut into stand in it. -/
theorem standsIn_of_mem_cut
    {inside text : Text}
    (isReference : reference inside ∈ cut text) :
    StandsIn inside text := by
  fun_induction cut text with
  | case1 text unopened =>
      simp at isReference
  | case2 text before after opened unclosed =>
      simp at isReference
  | case3 text before after opened span closed inductionHypothesis =>
      have shape : text = before ++ "$(".toList ++ (span.inside ++ ')' :: span.rest) := by
        rw [← closeParen?_eq_append closed]
        exact Text.breakOn?_eq_append opened
      rw [List.mem_cons, List.mem_cons] at isReference
      rcases isReference with isLiteral | isHere | isLater
      · cases isLiteral
      · cases isHere
        exact ⟨.of_closeParen? closed, before, span.rest, by rw [shape, written]; simp⟩
      · have rest : span.rest <:+: text :=
          ⟨before ++ "$(".toList ++ span.inside ++ [')'], [], by rw [shape]; simp⟩
        exact (inductionHypothesis isLater).inInfix rest

/-- The inside of a reference is a proper part of the expression. -/
theorem properPart_of_mem_cut
    {inside text : Text}
    (isReference : Stretch.reference inside ∈ cut text) :
    ProperPart inside text := by
  have part : ProperPart inside (written inside) :=
    .between "$(".toList inside [')'] (by simp)
  exact part.inInfix (standsIn_of_mem_cut isReference).isInfix

end Stretch

namespace PropertyPhase

/-- What the phase is entered with: an expression, or the links of a call and what they run on. -/
inductive Entry where
  | expression (adjusts : Bool) (text : Text)
  | links (reference : Text) (receiver : Option Value) (chained : Bool) (text : Text)

/-- The text that is read in an entry. -/
def Entry.text : Entry → Text
  | .expression _ text => text
  | .links _ _ _ text => text

/-- What an entry gives: all of its text is read, and then evaluated. -/
def enter
    (phase : PropertyPhase) :
    Entry → Expansion Value
  | .expression adjusts text => (Template.read text).evaluate phase adjusts
  | .links reference receiver chained text =>
      (CallChain.read chained text).run phase reference receiver

section Level

variable (phase : PropertyPhase)

/-- Evaluate an argument, its text being entered. -/
def argumentLevel
    (inner : Entry → Expansion Value) :
    Argument → Expansion Operand
  | .null => pure (.value .null)
  | .out => pure .out
  | .text content => do
      return operandOf (← inner (.expression true content))

/-- Run the first link of a call, and enter the links behind it with the result. -/
def linksLevel
    (inner : Entry → Expansion Value)
    (reference : Text)
    (receiver : Option Value)
    (chained : Bool)
    (text : Text) :
    Expansion Value :=
  if text.isEmpty then
    pure (receiver.getD .null)
  else
    match CallLink.read chained text with
    | .error fault => throw (.error (.invalidFunction reference fault.message))
    | .ok link => do
        let operands ← link.arguments.mapM (argumentLevel inner)
        let result ← phase.context.callLink reference receiver link operands
        inner (.links reference (some result) true link.remainder)

/-- Evaluate the body of a reference, its key or its links being entered. -/
def bodyLevel
    (inner : Entry → Expansion Value)
    (inside : Text) :
    Expansion Value :=
  let written := Stretch.written inside
  let body := inside.trim
  let rest := (Text.takeName body).2
  if body.isEmpty then
    pure (.str [])
  else if Text.cutsCharacter Template.registryWord.length body then
    throw (.halt (.cutCharacter Template.registryWord.length body))
  else if Template.namesRegistry body then do
    let key ← inner (.expression false (body.drop Template.registryWord.length))
    return phase.registryValue key.escaped
  else if Template.emptyBodies.any (Text.sameName body) then
    pure (.str [])
  else if rest.length < body.length && rest.head? == some '[' then
    phase.guarded written do
      let receiver ← phase.lookup (Text.takeName body).1
      Expansion.located phase.context.location <|
        inner (.links written (some receiver) true rest)
  else if body.head? == some '[' || Template.goesOn rest then
    phase.guarded written <|
      match CallLink.read false body with
      | .error fault =>
          throw <| phase.context.locate <|
            .invalidFunction ('$' :: '(' :: (body ++ [')'])) fault.message
      | .ok link => do
          let receiver ← link.receiverName?.mapM phase.lookup
          Expansion.located phase.context.location <|
            inner (.links written receiver false body)
  else if rest.isEmpty then
    phase.lookup body
  else
    phase.guarded written <|
      throw <| phase.context.locate <|
        .invalidExpression written <|
          ExpandError.quoted body ++ " is not a valid property name".toList

/-- Evaluate a stretch of an expression. -/
def stretchLevel
    (inner : Entry → Expansion Value) :
    Stretch → Expansion Piece
  | .literal text => pure (.literal text)
  | .reference inside => do
      return .value (← phase.bodyLevel inner inside)

/-- One level of the recursion: run an entry, and the entries cut out of its text by `inner`. -/
def level
    (inner : Entry → Expansion Value) :
    Entry → Expansion Value
  | .expression adjusts text =>
      if Text.holds "$(" text then do
        return Piece.assemble adjusts (← (Stretch.cut text).mapM (phase.stretchLevel inner))
      else
        pure (.str text)
  | .links reference receiver chained text =>
      phase.linksLevel inner reference receiver chained text

theorem bodyLevel_enter
    (inside : Text) :
    phase.bodyLevel phase.enter inside =
      (Request.read inside).evaluate phase (Stretch.written inside) := by
  -- The kinds of bodies are told apart by the same tests in the same order.
  rw [bodyLevel, Request.read]
  split_ifs
  · rw [Request.evaluate]
  · rw [Request.evaluate]
  · rw [Request.evaluate]
    rfl
  · rw [Request.evaluate]
  · rw [Request.evaluate]
    rfl
  · cases CallLink.read false inside.trim with
    | error fault =>
        dsimp only
        rw [Request.evaluate]
    | ok link =>
        dsimp only
        rw [Request.evaluate]
        rfl
  · rw [Request.evaluate]
  · rw [Request.evaluate]

theorem stretchLevel_enter
    (stretch : Stretch) :
    phase.stretchLevel phase.enter stretch = stretch.segment.evaluate phase := by
  cases stretch with
  | literal text =>
      rw [Stretch.segment, Segment.evaluate, stretchLevel]
  | reference inside =>
      rw [Stretch.segment, Segment.evaluate, stretchLevel, bodyLevel_enter]

theorem mapM_stretchLevel_enter
    (stretches : List Stretch) :
    stretches.mapM (phase.stretchLevel phase.enter) =
      Segment.evaluateAll phase (stretches.map Stretch.segment) := by
  induction stretches with
  | nil =>
      simp [Segment.evaluateAll]
  | cons stretch rest inductionHypothesis =>
      simp [Segment.evaluateAll, inductionHypothesis, stretchLevel_enter, List.mapM_cons]

theorem argumentLevel_enter
    (argument : Argument) :
    argumentLevel phase.enter argument =
      (TemplateArgument.ofArgument argument).evaluate phase := by
  cases argument with
  | null =>
      rw [TemplateArgument.ofArgument, TemplateArgument.evaluate, argumentLevel]
  | out =>
      rw [TemplateArgument.ofArgument, TemplateArgument.evaluate, argumentLevel]
  | text content =>
      rw [TemplateArgument.ofArgument, TemplateArgument.evaluate, argumentLevel]
      rfl

theorem mapM_argumentLevel_enter
    (arguments : List Argument) :
    arguments.mapM (argumentLevel phase.enter) =
      TemplateArgument.evaluateAll phase (arguments.map .ofArgument) := by
  induction arguments with
  | nil =>
      simp [TemplateArgument.evaluateAll]
  | cons argument rest inductionHypothesis =>
      simp [TemplateArgument.evaluateAll, inductionHypothesis, argumentLevel_enter, List.mapM_cons]

theorem linksLevel_enter
    (reference : Text)
    (receiver : Option Value)
    (chained : Bool)
    (text : Text) :
    phase.linksLevel phase.enter reference receiver chained text =
      (CallChain.read chained text).run phase reference receiver := by
  by_cases blank : text = []
  · subst blank
    rw [CallChain.read_nil, CallChain.run]
    rfl
  · have present : ¬ text.isEmpty = true := by
      simpa using blank
    rw [linksLevel, if_neg present]
    cases found : CallLink.read chained text with
    | error fault =>
        rw [CallChain.read_of_error blank found, CallChain.run]
    | ok link =>
        rw [CallChain.read_of_link blank found, CallChain.run]
        simp only [mapM_argumentLevel_enter]
        rfl

/-- One level above what the entries give is what the entries give. -/
theorem level_enter :
    phase.level phase.enter = phase.enter := by
  funext entry
  cases entry with
  | expression adjusts text =>
      rw [level, enter, Template.read, mapM_stretchLevel_enter, Stretch.readAll_eq_map_cut]
      split
      · rw [Template.evaluate]
      · rw [Template.evaluate]
  | links reference receiver chained text =>
      exact phase.linksLevel_enter reference receiver chained text

/--
An entry may enter another: what that one reads is cut out of the text of the first.
The receivers are whatever the lookups and the calls give, and decide nothing.
-/
inductive Entry.Enters : Entry → Entry → Prop where
  | registry {adjusts : Bool} {text inside : Text}
      (isReference : Stretch.reference inside ∈ Stretch.cut text)
      (isRegistry : Template.namesRegistry inside.trim = true) :
      Enters (.expression adjusts text)
        (.expression false (inside.trim.drop Template.registryWord.length))
  | indexed {adjusts : Bool} {text inside : Text}
      (isReference : Stretch.reference inside ∈ Stretch.cut text)
      (receiver : Value) :
      Enters (.expression adjusts text)
        (.links (Stretch.written inside) (some receiver) true (Text.takeName inside.trim).2)
  | call {adjusts : Bool} {text inside : Text} {link : CallLink}
      (isReference : Stretch.reference inside ∈ Stretch.cut text)
      (isCall : CallLink.read false inside.trim = .ok link)
      (receiver : Option Value) :
      Enters (.expression adjusts text)
        (.links (Stretch.written inside) receiver false inside.trim)
  | argument {reference text content : Text} {receiver : Option Value} {chained : Bool}
      {link : CallLink}
      (isLink : CallLink.read chained text = .ok link)
      (isArgument : Argument.text content ∈ link.arguments) :
      Enters (.links reference receiver chained text) (.expression true content)
  | next {reference text : Text} {receiver : Option Value} {chained : Bool} {link : CallLink}
      (isLink : CallLink.read chained text = .ok link)
      (result : Value) :
      Enters (.links reference receiver chained text)
        (.links reference (some result) true link.remainder)

namespace Entry

/-- What an inner entry reads is a proper part of what the outer one reads. -/
theorem Enters.properPart
    {outer inner : Entry}
    (enters : Enters outer inner) :
    ProperPart inner.text outer.text := by
  cases enters with
  | @registry adjusts text inside isReference isRegistry =>
      have key : inside.trim.drop Template.registryWord.length <:+: inside :=
        (List.drop_suffix _ _).isInfix.trans (Text.trim_isInfix inside)
      exact .ofInfix key (Stretch.properPart_of_mem_cut isReference)
  | @indexed adjusts text inside isReference receiver =>
      have links : (Text.takeName inside.trim).2 <:+: inside :=
        (Text.takeName_isSuffix inside.trim).isInfix.trans (Text.trim_isInfix inside)
      exact .ofInfix links (Stretch.properPart_of_mem_cut isReference)
  | @call adjusts text inside link isReference isCall receiver =>
      exact .ofInfix (Text.trim_isInfix inside) (Stretch.properPart_of_mem_cut isReference)
  | @argument reference text content receiver chained link isLink isArgument =>
      exact (CallLink.read_within isLink).2 content
        (List.mem_filterMap.mpr ⟨.text content, isArgument, rfl⟩)
  | next isLink result =>
      exact (CallLink.read_within isLink).1

theorem properPart_of_transGen
    {outer inner : Entry}
    (enters : Relation.TransGen Enters outer inner) :
    ProperPart inner.text outer.text := by
  induction enters with
  | single enters =>
      exact enters.properPart
  | tail _ enters inductionHypothesis =>
      exact enters.properPart.trans inductionHypothesis

theorem wellFounded_enters :
    WellFounded fun inner outer : Entry => Enters outer inner :=
  Subrelation.wf
    (fun enters => enters.properPart.2)
    (InvImage.wf (fun entry : Entry => entry.text.length) Nat.lt_wfRel.wf)

end Entry

variable {first second : Entry → Expansion Value}

theorem linksLevel_congr
    {reference : Text}
    {receiver : Option Value}
    {chained : Bool}
    {text : Text}
    (same :
      ∀ inner, Entry.Enters (.links reference receiver chained text) inner →
        first inner = second inner) :
    phase.linksLevel first reference receiver chained text =
      phase.linksLevel second reference receiver chained text := by
  cases isLink : CallLink.read chained text with
  | error fault =>
      simp only [linksLevel, isLink]
  | ok link =>
      have arguments :
          link.arguments.mapM (argumentLevel first) =
            link.arguments.mapM (argumentLevel second) := by
        refine Expansion.mapM_congr fun argument isArgument => ?_
        cases argument with
        | null =>
            rfl
        | out =>
            rfl
        | text content =>
            simp only [argumentLevel, same _ (.argument isLink isArgument)]
      simp only [linksLevel, isLink, arguments, same _ (.next isLink _)]

theorem bodyLevel_congr
    {adjusts : Bool}
    {text inside : Text}
    (isReference : Stretch.reference inside ∈ Stretch.cut text)
    (same :
      ∀ inner, Entry.Enters (.expression adjusts text) inner → first inner = second inner) :
    phase.bodyLevel first inside = phase.bodyLevel second inside := by
  rw [bodyLevel, bodyLevel]
  split_ifs with _ _ isRegistry
  · rfl
  · rfl
  · rw [same _ (.registry isReference isRegistry)]
  · rfl
  · simp only [same _ (.indexed isReference _)]
  · cases isCall : CallLink.read false inside.trim with
    | error fault =>
        rfl
    | ok link =>
        simp only [same _ (.call isReference isCall _)]
  · rfl
  · rfl

/-- A level depends on the inner entries that may be entered, and on no others. -/
theorem level_congr
    {outer : Entry}
    (same : ∀ inner, Entry.Enters outer inner → first inner = second inner) :
    phase.level first outer = phase.level second outer := by
  cases outer with
  | expression adjusts text =>
      have stretches :
          (Stretch.cut text).mapM (phase.stretchLevel first) =
            (Stretch.cut text).mapM (phase.stretchLevel second) := by
        refine Expansion.mapM_congr fun stretch isStretch => ?_
        cases stretch with
        | literal text =>
            rfl
        | reference inside =>
            rw [stretchLevel, stretchLevel, phase.bodyLevel_congr isStretch same]
      rw [level, level, stretches]
  | links reference receiver chained text =>
      exact phase.linksLevel_congr same

/-- More levels than a text has characters give its value, whatever is beyond them. -/
theorem iterate_level
    (beyond : Entry → Expansion Value)
    (entry : Entry)
    {depth : Nat}
    (deep : entry.text.length < depth) :
    phase.level^[depth] beyond entry = phase.enter entry := by
  induction depth generalizing entry with
  | zero =>
      cases deep
  | succ depth inductionHypothesis =>
      -- An inner entry reads less than the outer one, so one level fewer is deep enough for it.
      have below (inner : Entry) (enters : Entry.Enters entry inner) :
          phase.level^[depth] beyond inner = phase.enter inner :=
        inductionHypothesis inner (Nat.lt_of_lt_of_le enters.properPart.2 (Nat.le_of_lt_succ deep))
      rw [Function.iterate_succ_apply', phase.level_congr below, phase.level_enter]

end Level

/--
Property expansion ends, whatever the table, the options and the context hold. All that is
ever read is cut out of the expression, one proper part out of the other, so no chain of
entries is endless. One level of the recursion depends on the entries that it cuts out, and
more levels than the expression has characters give its value, whatever is beyond them.
-/
theorem property_expansion_ends
    (phase : PropertyPhase) :
    (∀ outer inner, Relation.TransGen Entry.Enters outer inner →
        ProperPart inner.text outer.text) ∧
      (WellFounded fun inner outer : Entry => Entry.Enters outer inner) ∧
      (∀ outer first second, (∀ inner, Entry.Enters outer inner → first inner = second inner) →
        phase.level first outer = phase.level second outer) ∧
      ∀ expression depth beyond, expression.length < depth →
        phase.level^[depth] beyond (.expression true expression) = phase.value expression :=
  ⟨fun _ _ => Entry.properPart_of_transGen,
    Entry.wellFounded_enters,
    fun _ _ _ => phase.level_congr,
    fun expression _ beyond => phase.iterate_level beyond (.expression true expression)⟩

/-- A value that is its own reference is not entered, and a chain is entered link by link. -/
theorem property_expansion_ends_of_own_reference :
    let phase : PropertyPhase :=
      { table := { entries := [("A".toList, "$(A)".toList)] }
        options := .properties
        context := .onEmptyMachine }
    let halts : Entry → Expansion Value := fun _ => throw (.halt .noMetadataTable)
    let chain : Entry := .links [] (some (.str "$(A)")) true ".Trim().Length".toList
    let length : Entry := .links [] (some .null) true ".Length".toList
    let atEnd : Entry → Expansion Value := fun entry =>
      if entry.text = [] then phase.enter entry else halts entry
    Relation.TransGen Entry.Enters chain length ∧
      ProperPart length.text chain.text ∧
      phase.level phase.enter length = phase.level atEnd length ∧
      (Value.escaped <$> phase.level^[5] halts (.expression true "$(A)".toList)).runFrom {} =
        (.ok "$(A)".toList, { usage := [("A".toList, .found)] }) := by
  intro phase halts chain length atEnd
  have ends := property_expansion_ends phase
  obtain ⟨trim, isTrim, behindTrim⟩ :
      ∃ link, CallLink.read true ".Trim().Length".toList = .ok link ∧
        link.remainder = ".Length".toList :=
    ⟨_, rfl, rfl⟩
  have toLength : Relation.TransGen Entry.Enters chain length := by
    have toNext : Entry.Enters chain _ :=
      .next isTrim .null
    rw [behindTrim] at toNext
    exact .single toNext
  have sameAtEnd : ∀ inner, Entry.Enters length inner → phase.enter inner = atEnd inner := by
    intro inner enters
    unfold length at enters
    cases enters with
    | argument isLink isArgument =>
        cases isLink
        cases isArgument
    | next isLink result =>
        cases isLink
        rfl
  have value := ends.2.2.2 "$(A)".toList 5 halts (by decide)
  have text :=
    phase.runFrom_text_property (show Text.isName "A".toList = true from rfl) (by decide) {}
  refine ⟨toLength, ends.1 _ _ toLength, ends.2.2.1 _ _ _ sameAtEnd, ?_⟩
  rw [value, map_eq_pure_bind]
  exact text

end PropertyPhase

end RefExpand
