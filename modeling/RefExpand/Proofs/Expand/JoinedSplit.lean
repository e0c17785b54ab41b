import RefExpand.Proofs.Call.ChainForm
import RefExpand.Proofs.Expand.Indexers
import RefExpand.Proofs.Expand.LinkRuns
import RefExpand.Proofs.Expand.TextChains
import RefExpand.Proofs.Text.Pieces
import RefExpand.Proofs.Value.EscapedForm

namespace RefExpand

/-!
# Joining what a call has split

Whatever the value of an argument is, a call receives a text for it. A sequence that one
call gives is written out with semicolons, read back, and joined by the next call as the
one text that it is by then; so the separator of that call is never used.
-/

/-- What a call receives for a value that is no text is the raw text of the value. -/
theorem PropertyPhase.operandOf_of_noText
    {value : Value}
    (noText : value.text? = none)
    (present : value.isNull = false) :
    operandOf value = .value (.str value.raw) := by
  have received : operandOf value = .value (.str value.escaped.unescape) := by
    cases value with
    | null =>
        cases present
    | _ =>
        rfl
  rw [received, (Value.readsBack_escaped noText).unescape_eq]

/-- The reference that splits the text of a property at a character. -/
def splitReference
    (property : Text)
    (separator : Char) :
    Text :=
  "$(".toList ++ property ++ ".Split('".toList ++ separator :: "'))".toList

/-- The reference that joins what an argument stands for by a separator. -/
def joinReference
    (separator argument : Text) :
    Text :=
  "$([System.String]::Join('".toList ++ separator ++ "', ".toList ++ argument ++ "))".toList

namespace Expansion.Ends

variable {keeps : Trace → Prop} {action : Expansion Value} {value : Value}

/-- What succeeds is the same with errors left in the text. -/
theorem guarded
    (ends : Ends keeps action (· = .ok value))
    (phase : PropertyPhase)
    (written : Text) :
    Ends keeps (phase.guarded written action) (· = .ok value) := by
  rw [PropertyPhase.guarded]
  split
  · intro before start
    obtain ⟨result, after⟩ := ends before start
    rcases run : action.runFrom before with ⟨found, middle⟩
    rw [run] at result after
    dsimp only at result after
    subst result
    rw [runFrom_orElseValue, run]
    exact ⟨rfl, after⟩
  · exact ends

end Expansion.Ends

namespace Resolver

variable {resolver : Resolver}

/-- A text is split at a character. -/
theorem callOnPlain_split
    (isStandard : resolver.catalog = .standard)
    (separator : Char)
    (text : Text)
    (surroundings : Surroundings)
    (context : Text) :
    resolver.callOnPlain (.str text) "Split" [.value (.str [separator])] surroundings context =
      .ok (.seq ((Text.splitAtChars (· == separator) text).map .str)) := by
  have isSeparator : (fun c => [separator].contains c) = (· == separator) := by
    funext c
    simp [beq_eq_decide]
  have called :
      resolver.callOnPlain (.str text) "Split" [.value (.str [separator])] surroundings context =
        .ok (.seq
          ((Text.splitAtChars (fun c => [separator].contains c) text).map .str)) := by
    obtain ⟨catalog, policy, probe⟩ := resolver
    cases isStandard
    rfl
  rw [called, isSeparator]

/-- One text is joined to itself, whatever the separator is. -/
theorem callStatic_join
    (isStandard : resolver.catalog = .standard)
    (separator text : Text)
    (surroundings : Surroundings)
    (context : Text) :
    resolver.callStatic (some TextTypes.textType) "System.String" "Join"
        [.value (.str separator), .value (.str text)] surroundings context =
      .ok (.str text.escape) := by
  have alone : Text.join separator [text] = text := by
    simp [Text.join]
  have called :
      resolver.callStatic (some TextTypes.textType) "System.String" "Join"
          [.value (.str separator), .value (.str text)] surroundings context =
        .ok (.str (Text.join separator [text]).escape) := by
    obtain ⟨catalog, policy, probe⟩ := resolver
    cases isStandard
    rfl
  rw [called, alone]

end Resolver

section Splitting

variable {separator : Char}

/-- An argument that is one character in quotes. -/
def ArgumentForm.quotedChar
    (notQuote : separator ≠ '\'') :
    ArgumentForm :=
  .quoted '\'' [separator] rfl (by simpa using Ne.symm notQuote)

/-- The call that splits a text at a character. -/
def TextCall.splitAt
    (notQuote : separator ≠ '\'') :
    TextCall where
  name := "Split"
  arguments := (ArgumentForm.quotedChar notQuote).text
  isMember := rfl
  nested := (ArgumentForm.quotedChar notQuote).nested
  noReference := by
    change Text.holds "$(" ('\'' :: [separator, '\'']) = false
    rw [Text.holds_opening_cons, Text.holds_opening_cons, Text.holds_opening_cons]
    simp [show Text.holds ['$', '('] [] = false from rfl]

theorem reference_splitAt
    (notQuote : separator ≠ '\'')
    (property : Text) :
    TextCall.reference property [.splitAt notQuote] = splitReference property separator := by
  simp [TextCall.reference, TextCall.textBehind, TextCall.text, TextCall.splitAt,
    ArgumentForm.quotedChar, ArgumentForm.text, splitReference]

/-- A split of an escaped text gives the pieces of the plain one. -/
theorem TextCall.splitAt_gives
    {resolver : Resolver}
    (isStandard : resolver.catalog = .standard)
    (notQuote : separator ≠ '\'')
    (text : Text) :
    (splitAt notQuote).Gives resolver text.escape
      (.seq ((Text.splitAtChars (· == separator) text).map .str)) := by
  have listed : (splitAt notQuote).arguments = ArgumentForm.textAll [.quotedChar notQuote] := by
    simp [splitAt, ArgumentForm.textAll, Text.join]
  refine ⟨[.text [separator]], ?_, fun surroundings context => ?_⟩
  · rw [listed, ArgumentForm.parseAll_textAll]
    rfl
  · have standsForItself : Text.unescape [separator] = [separator] := by
      simp [Text.unescape]
    rw [Resolver.callInstance_eq_ok_iff, Text.unescape_escape, List.map_singleton,
      Pipeline.literalOperand, standsForItself]
    exact ⟨rfl, _, Resolver.callOnPlain_split isStandard separator text surroundings context, rfl⟩

/-- The reference that splits a property has the pieces of its plain text as its value. -/
theorem PropertyPhase.runFrom_splitReference
    (phase : PropertyPhase)
    (isStandard : phase.context.resolver.catalog = .standard)
    {property text : Text}
    (named : property.isName = true)
    (valued : phase.table.value? property = some text.escape)
    (notQuote : separator ≠ '\'')
    (before : Trace) :
    (phase.value (splitReference property separator)).runFrom before =
      (.ok (.seq ((Text.splitAtChars (· == separator) text).map .str)),
        { before with
          usage := before.usage ++ [(property, .found)]
          calls := before.calls + 1 }) := by
  have shape :
      property ++ TextCall.textBehind [.splitAt notQuote] =
        (property ++ ".Split('".toList) ++ separator :: "')".toList := by
    simp [TextCall.textBehind, TextCall.text, TextCall.splitAt, ArgumentForm.quotedChar,
      ArgumentForm.text]
  have asciiMember : ∀ c ∈ ".Split('".toList, c.utf8Size = 1 :=
    Text.forall_mem_of_all rfl
  have short : ∀ c ∈ property ++ ".Split('".toList, c.utf8Size = 1 := by
    intro c isMember
    rcases List.mem_append.mp isMember with inName | inMember
    · exact Text.utf8Size_of_isNameContinue (Text.continues_of_isName named c inName)
    · exact asciiMember c inMember
  have long : Template.registryWord.length ≤ (property ++ ".Split('".toList).length := by
    have some : 0 < property.length :=
      List.length_pos_iff.mpr (Text.ne_nil_of_isName named)
    have eight : ".Split('".toList.length = 8 :=
      rfl
    have nine : Template.registryWord.length = 9 :=
      rfl
    rw [List.length_append, eight, nine]
    omega
  have uncut :
      Text.cutsCharacter Template.registryWord.length
        (property ++ TextCall.textBehind [.splitAt notQuote]) = false := by
    rw [shape]
    exact Text.cutsCharacter_append_of_utf8Size short long _
  rw [← reference_splitAt notQuote]
  exact
    (TextCall.splitAt_gives isStandard notQuote text).runFrom_value phase named valued uncut before

end Splitting

section Joining

variable {separator inside : Text}

theorem Stretch.nested_written
    (nested : Nested inside) :
    Nested (written inside) :=
  .plain (by decide) (by decide) (by decide) (.parens nested .nil)

/-- The argument list of a call that joins a reference. -/
def joinArguments
    (separator inside : Text) :
    Text :=
  '\'' :: (separator ++ ['\'']) ++ ", ".toList ++ Stretch.written inside

theorem joinReference_eq
    (separator inside : Text) :
    joinReference separator (Stretch.written inside) =
      Stretch.written
        (CallLink.staticBody "System.String" "Join" (joinArguments separator inside)) := by
  unfold joinReference
  simp [Stretch.written, CallLink.staticBody, joinArguments]

theorem nested_joinArguments
    (noQuote : '\'' ∉ separator)
    (nested : Nested inside) :
    Nested (joinArguments separator inside) := by
  have comma : Nested ", ".toList :=
    (Balanced.ofPlain (Text.forall_mem_of_all rfl)).nested
  have quoted : Nested ('\'' :: (separator ++ ['\''])) :=
    .quoted rfl noQuote .nil
  exact (quoted.append comma).append (Stretch.nested_written nested)

theorem nested_joinBody
    (noQuote : '\'' ∉ separator)
    (nested : Nested inside) :
    Nested (CallLink.staticBody "System.String" "Join" (joinArguments separator inside)) := by
  have front : Nested "[System.String]::Join".toList :=
    (Balanced.ofPlain (Text.forall_mem_of_all rfl)).nested
  have shape :
      CallLink.staticBody "System.String" "Join" (joinArguments separator inside) =
        "[System.String]::Join".toList ++ '(' :: (joinArguments separator inside ++ ')' :: []) := by
    simp [CallLink.staticBody]
  rw [shape]
  exact front.append (.parens (nested_joinArguments noQuote nested) .nil)

theorem parseAll_joinArguments
    (noQuote : '\'' ∉ separator)
    (nested : Nested inside) :
    Argument.parseAll (joinArguments separator inside) =
      .ok [.text separator, .text (Stretch.written inside)] := by
  let quoted : ArgumentForm := .quoted '\'' separator rfl noQuote
  have asWritten :
      Argument.ofText (Stretch.written inside).trim = .text (Stretch.written inside) :=
    Argument.ofText_trim_reference inside
  have kept : KeptByCommas (Stretch.written inside) :=
    .ofNestedReference nested
  have shape :
      joinArguments separator inside = quoted.text ++ ", ".toList ++ Stretch.written inside :=
    rfl
  rw [shape, Argument.parseAll_pair quoted.kept kept, quoted.trim_text, quoted.ofText_text,
    asWritten]
  rfl

/-- The link that joins a reference. -/
def joinLink
    (separator inside : Text) :
    CallLink :=
  CallLink.staticLink "System.String" "Join" (joinArguments separator inside)
    [.text separator, .text (Stretch.written inside)]

theorem read_joinBody
    (noQuote : '\'' ∉ separator)
    (nested : Nested inside) :
    Request.read (CallLink.staticBody "System.String" "Join" (joinArguments separator inside)) =
      .call none
        (.link (joinLink separator inside)
          [.ofArgument (.text separator), .ofArgument (.text (Stretch.written inside))]
          .done) := by
  have typeNamed : CallLink.TypeNamed "System.String" :=
    { some := by decide
      trimmed := rfl
      noOpen := by decide
      noBracket := by decide }
  exact
    Request.read_staticBody typeNamed rfl (nested_joinArguments noQuote nested)
      (parseAll_joinArguments noQuote nested) rfl

/-- A joined reference has the text that the reference hands over as its value, escaped. -/
theorem PropertyPhase.joinReference_ends
    (phase : PropertyPhase)
    (isStandard : phase.context.resolver.catalog = .standard)
    (noQuote : '\'' ∉ separator)
    (unopened : Text.holds "$(" separator = false)
    (nested : Nested inside)
    {value : Value}
    {text : Text}
    (ends :
      (phase.value (Stretch.written inside)).Ends (Trace.FaithfulTo .standard) (· = .ok value))
    (received : operandOf value = .value (.str text)) :
    (phase.value (joinReference separator (Stretch.written inside))).Ends
      (Trace.FaithfulTo .standard) (· = .ok (.str text.escape)) := by
  have separatorEnds :
      (phase.operandFor (.text separator)).Ends (Trace.FaithfulTo .standard)
        (· = .ok (.value (.str separator.unescape))) := by
    have asWritten : Template.read separator = .plain separator := by
      rw [Template.read, unopened, if_neg Bool.false_ne_true]
    rw [operandFor, PropertyPhase.value, asWritten, Template.evaluate]
    exact (Expansion.Ends.pure _).map _
  have argumentEnds :
      (phase.operandFor (.text (Stretch.written inside))).Ends (Trace.FaithfulTo .standard)
        (· = .ok (.value (.str text))) := by
    rw [operandFor, ← received]
    exact ends.map _
  have isListed :
      phase.context.resolver.catalog.type? "System.String" = some TextTypes.textType := by
    rw [isStandard]
    rfl
  have onType : (joinLink separator inside).target = .type "System.String" :=
    rfl
  have callEnds :
      (phase.context.callLink (joinReference separator (Stretch.written inside)) none
          (joinLink separator inside)
          [.value (.str separator.unescape), .value (.str text)]).Ends
        (Trace.FaithfulTo phase.context.resolver.catalog) (· = .ok (.str text.escape)) :=
    ExpandContext.callLink_type_ends onType isListed
      (fun surroundings => Resolver.callStatic_join isStandard _ text surroundings _) none
  rw [isStandard] at callEnds
  have runEnds :
      (phase.operandFor (.text separator) >>= fun first =>
        phase.operandFor (.text (Stretch.written inside)) >>= fun second =>
          phase.context.callLink (joinReference separator (Stretch.written inside)) none
            (joinLink separator inside) [first, second]).Ends
        (Trace.FaithfulTo .standard) (· = .ok (.str text.escape)) :=
    separatorEnds.bind (argumentEnds.bind callEnds)
  rw [joinReference_eq] at runEnds ⊢
  rw [phase.value_written (nested_joinBody noQuote nested), read_joinBody noQuote nested,
    Request.evaluate]
  refine .guarded ?_ phase _
  simpa [CallChain.run, TemplateArgument.evaluateAll, phase.evaluate_ofArgument] using
    runEnds.located phase.context.location

end Joining

namespace PropertyPhase

/-- A split that is joined gives the pieces with semicolons between them. -/
theorem joinedSplit_ends
    (phase : PropertyPhase)
    (isStandard : phase.context.resolver.catalog = .standard)
    {property text separator : Text}
    {cut : Char}
    (named : property.isName = true)
    (valued : phase.table.value? property = some text.escape)
    (cutNotQuote : cut ≠ '\'')
    (noQuote : '\'' ∉ separator)
    (unopened : Text.holds "$(" separator = false) :
    (phase.value (joinReference separator (splitReference property cut))).Ends
      (Trace.FaithfulTo .standard)
      (· = .ok (.str (Text.join ";" (Text.splitAtChars (· == cut) text)).escape)) := by
  let pieces := Text.splitAtChars (· == cut) text
  have splitEnds :
      (phase.value (splitReference property cut)).Ends (Trace.FaithfulTo .standard)
        (· = .ok (.seq (pieces.map .str))) := by
    intro before faithful
    rw [phase.runFrom_splitReference isStandard named valued cutNotQuote]
    exact ⟨rfl, faithful⟩
  have raw : (Value.seq (pieces.map .str)).raw = Text.join ";" pieces := by
    have each : Value.raw ∘ Value.str = id :=
      rfl
    rw [Value.raw, Value.rawItems_eq_map, List.map_map, each, List.map_id]
    rfl
  have received :
      operandOf (.seq (pieces.map .str)) = .value (.str (Text.join ";" pieces)) := by
    rw [operandOf_of_noText rfl rfl, raw]
  have nestedName : Nested property :=
    (Balanced.ofNameContinue (Text.continues_of_isName named)).nested
  rw [← reference_splitAt cutNotQuote] at splitEnds ⊢
  exact
    phase.joinReference_ends isStandard noQuote unopened
      (nestedName.append (TextCall.nested_textBehind _)) splitEnds received

/--
The text of a property that is split and then joined has the pieces with semicolons
between them as its value, whatever separator it is joined by: the call that joins them
receives one text. The earlier uses of the cache of types do not matter.
-/
theorem joined_split_is_one_text
    (phase : PropertyPhase)
    (isStandard : phase.context.resolver.catalog = .standard)
    {property text separator : Text}
    {cut : Char}
    (named : property.isName = true)
    (valued : phase.table.value? property = some text.escape)
    (cutNotQuote : cut ≠ '\'')
    (noQuote : '\'' ∉ separator)
    (unopened : Text.holds "$(" separator = false)
    (earlier : List CacheCall)
    (before : Trace) :
    let start := { before with types := TypeCache.history .standard earlier }
    let pieces := Text.splitAtChars (· == cut) text
    (Text.join [cut] pieces = text ∧ ∀ piece ∈ pieces, cut ∉ piece) ∧
      ((phase.value (joinReference separator (splitReference property cut))).runFrom start).1 =
        .ok (.str (Text.join ";" pieces).escape) := by
  intro start pieces
  have betweenCuts : Text.join [cut] pieces = text ∧ ∀ piece ∈ pieces, cut ∉ piece :=
    ⟨Text.join_splitAtChars cut text, fun _ => Text.not_mem_of_mem_splitAtChars⟩
  have faithful : start.FaithfulTo .standard :=
    TypeCache.Faithful.history .standard earlier
  have ends :=
    phase.joinedSplit_ends isStandard named valued cutNotQuote noQuote unopened start faithful
  exact ⟨betweenCuts, ends.1⟩

/-- A list with commas becomes a list with semicolons, and not one with hyphens. -/
theorem joined_split_is_one_text_of_commas :
    let phase : PropertyPhase :=
      { table := { entries := [("P".toList, "a,b".toList)] }
        options := .properties
        context := .onEmptyMachine }
    ((phase.value "$([System.String]::Join('-', $(P.Split(','))))").runFrom {}).1 =
      .ok (.str "a%3Bb") := by
  intro phase
  have named : Text.isName "P" = true :=
    rfl
  have valued : phase.table.value? "P" = some (Text.escape "a,b") :=
    rfl
  have cutNotQuote : ',' ≠ '\'' := by
    decide
  have noQuote : '\'' ∉ "-".toList := by
    decide
  exact (phase.joined_split_is_one_text rfl named valued cutNotQuote noQuote rfl [] {}).2

/-- The pieces are not joined by the separator that is written. -/
theorem not_every_split_joined_by_separator :
    ¬ ∀ (phase : PropertyPhase) (property text separator : Text) (cut : Char),
        phase.context.resolver.catalog = .standard →
        property.isName = true →
        phase.table.value? property = some text.escape →
        (∀ c ∈ cut :: separator, isQuote c = false ∧ c ≠ '%' ∧ c ≠ '$') →
          ((phase.value (joinReference separator (splitReference property cut))).runFrom {}).1 =
            .ok (.str (Text.join separator (Text.splitAtChars (· == cut) text)).escape) := by
  intro always
  let phase : PropertyPhase :=
    { table := { entries := [("P".toList, "a,b".toList)] }
      options := .properties
      context := .onEmptyMachine }
  have named : Text.isName "P" = true :=
    rfl
  have valued : phase.table.value? "P" = some (Text.escape "a,b") :=
    rfl
  have cutNotQuote : ',' ≠ '\'' := by
    decide
  have noQuote : '\'' ∉ "-".toList := by
    decide
  have faithful : Trace.FaithfulTo .standard {} :=
    TypeCache.Faithful.history .standard []
  have joined := always phase "P" "a,b" "-" ',' rfl named valued (Text.forall_mem_of_all rfl)
  have ends := phase.joinedSplit_ends rfl named valued cutNotQuote noQuote rfl {} faithful
  rw [ends.1] at joined
  have differ :
      (Text.join ";" (Text.splitAtChars (· == ',') "a,b")).escape ≠
        (Text.join "-" (Text.splitAtChars (· == ',') "a,b")).escape := by
    decide
  exact differ (Value.str.inj (Except.ok.inj joined))

end PropertyPhase

end RefExpand
