import RefExpand.Expand.Transform
import RefExpand.Library.TextMembers
import RefExpand.Proofs.Call.ChainForm
import RefExpand.Proofs.Scan.VectorForm

namespace RefExpand

/-!
# Chains of members of texts, as they are written

A chain of calls on texts is written behind a property with points, and behind an item
type with arrows. Both scanners read the members and their argument lists as they are
written, and no member of a text has the name of a modifier or of a list function.
-/

theorem Text.isAlpha_of_sameName
    {left right : Text}
    (same : sameName left right = true)
    (letters : ∀ c ∈ left, c.isAlpha = true) :
    ∀ c ∈ right, c.isAlpha = true := by
  intro c isMember
  cases isLetter : c.isAlpha with
  | true =>
      rfl
  | false =>
      rw [letters c (mem_of_sameName same isLetter isMember)] at isLetter
      cases isLetter

/-- Letters make a name. -/
theorem Text.isName_of_letters
    {name : Text}
    (some : name ≠ [])
    (letters : ∀ c ∈ name, c.isAlpha = true) :
    name.isName = true := by
  cases name with
  | nil =>
      exact absurd rfl some
  | cons first tail =>
      have starts : isNameStart first = true := by
        rw [isNameStart, letters first List.mem_cons_self]
        rfl
      have continues : ∀ c ∈ tail, isNameContinue c = true := by
        intro c isMember
        rw [isNameContinue, isNameStart, letters c (List.mem_cons_of_mem _ isMember)]
        rfl
      have taken := takeNameTail_append_of_ends continues .nil
      rw [List.append_nil] at taken
      simp [isName, takeName, starts, taken]

/--
A call of a member of texts as it is written: the name in any case, and an argument list
that is nested and holds no property reference.
-/
structure TextCall where
  name : Text
  arguments : Text
  isMember : (Member.find? TextMembers.members name).isSome = true
  nested : Nested arguments
  noReference : Text.holds "$(" arguments = false

namespace TextCall

/-- The call as it is written. -/
def text
    (call : TextCall) :
    Text :=
  call.name ++ '(' :: (call.arguments ++ [')'])

/-- Calls as they are written behind a property, or behind one another. -/
def textBehind
    (calls : List TextCall) :
    Text :=
  calls.flatMap fun call => '.' :: call.text

/-- The reference to the calls on a property. -/
def reference
    (property : Text)
    (calls : List TextCall) :
    Text :=
  '$' :: '(' :: (property ++ textBehind calls ++ [')'])

/-- The vector of an item type with the calls as its transforms. -/
def vector
    (itemType : Text)
    (calls : List TextCall) :
    Text :=
  '@' :: '(' :: (itemType ++ calls.flatMap (fun call => '-' :: '>' :: call.text) ++ [')'])

theorem textBehind_cons
    (call : TextCall)
    (later : List TextCall) :
    textBehind (call :: later) =
      '.' :: (call.name ++ '(' :: (call.arguments ++ ')' :: textBehind later)) := by
  simp [textBehind, text]

/-- The member that the call names. -/
theorem exists_member
    (call : TextCall) :
    ∃ member ∈ TextMembers.members, Text.sameName member.name call.name = true := by
  obtain ⟨member, found⟩ := Option.isSome_iff_exists.mp call.isMember
  exact ⟨member, List.mem_of_find?_eq_some found, by simpa using List.find?_some found⟩

theorem named
    (call : TextCall) :
    call.name.isName = true := by
  obtain ⟨member, isListed, same⟩ := call.exists_member
  have letters :
      ∀ member ∈ TextMembers.members,
        member.name ≠ [] ∧ member.name.all (·.isAlpha) = true := by
    decide
  obtain ⟨some, allLetters⟩ := letters member isListed
  apply Text.isName_of_letters
  · intro isNil
    rw [isNil, Text.sameName_iff] at same
    exact some (List.map_eq_nil_iff.mp same)
  · exact Text.isAlpha_of_sameName same (List.all_eq_true.mp allLetters)

/-- A table without the names of the members does not find the call, in whatever case. -/
theorem find?_eq_none
    {entries : List α}
    {nameOf : α → Text}
    (apart :
      ∀ member ∈ TextMembers.members,
        entries.find? (fun entry => Text.sameName (nameOf entry) member.name) = none)
    (call : TextCall) :
    entries.find? (fun entry => Text.sameName (nameOf entry) call.name) = none := by
  obtain ⟨member, isListed, same⟩ := call.exists_member
  rw [← apart member isListed]
  congr 1
  funext entry
  exact (Text.sameName_congr_right same (nameOf entry)).symm

/-- No member of texts is called as a modifier of specs is. -/
theorem notModifier
    (call : TextCall) :
    SpecModifier.ofName? call.name = none :=
  find?_eq_none (by decide) call

/-- No member of texts is called as a function on lists is. -/
theorem notListFunction
    (call : TextCall) :
    ListFunction.ofName? call.name = none :=
  find?_eq_none (by decide) call

end TextCall

/-- What stands in front of the first point: the name of a property, or nothing behind a link. -/
inductive ChainStart : (chained : Bool) → Text → Prop where
  | property {name : Text} (named : name.isName = true) : ChainStart false name
  | result : ChainStart true []

namespace ChainStart

variable {chained : Bool} {receiver : Text}

theorem continues
    (start : ChainStart chained receiver) :
    ∀ c ∈ receiver, Text.isNameContinue c = true := by
  cases start with
  | property named =>
      exact Text.continues_of_isName named
  | result =>
      exact List.forall_mem_nil _

/-- In front of the first point stands neither a blank nor a bracket. -/
theorem begins
    (start : ChainStart chained receiver)
    (rest : Text) :
    ∀ c ∈ (receiver ++ '.' :: rest).head?, c ≠ '[' ∧ isBlank c = false := by
  cases start with
  | property named =>
      obtain ⟨first, tail, rfl, starts, -⟩ := Text.exists_cons_of_isName named
      have firstContinues := Text.isNameContinue_of_isNameStart starts
      rintro c ⟨⟩
      exact
        ⟨Text.ne_of_isNameContinue firstContinues (by decide),
          Text.isBlank_of_isNameContinue firstContinues⟩
  | result =>
      rintro c ⟨⟩
      exact ⟨by decide, rfl⟩

theorem receives
    (start : ChainStart chained receiver) :
    chained = true ∨ receiver.isName = true := by
  cases start with
  | property named =>
      exact Or.inr named
  | result =>
      exact Or.inl rfl

end ChainStart

namespace TextCall

theorem trim_append_textBehind
    {chained : Bool}
    {receiver : Text}
    (start : ChainStart chained receiver)
    (call : TextCall)
    (later : List TextCall) :
    (receiver ++ textBehind (call :: later)).trim = receiver ++ textBehind (call :: later) := by
  have ends :
      ∀ front : Text, ∀ c ∈ (front ++ textBehind (call :: later)).getLast?, c = ')' := by
    induction later generalizing call with
    | nil =>
        intro front c isLast
        have shape :
            front ++ textBehind [call] =
              front ++ '.' :: call.name ++ '(' :: call.arguments ++ [')'] := by
          simp [textBehind, text]
        rw [shape, List.getLast?_concat] at isLast
        exact (Option.some.inj isLast).symm
    | cons second later inductionHypothesis =>
        intro front c isLast
        have shape :
            front ++ textBehind (call :: second :: later) =
              front ++ '.' :: call.text ++ textBehind (second :: later) := by
          simp [textBehind]
        rw [shape] at isLast
        exact inductionHypothesis second _ c isLast
  apply Text.trim_eq_self_iff.mpr
  constructor
  · intro c isHead
    rw [textBehind_cons] at isHead
    exact (start.begins _ c isHead).2
  · intro c isLast
    rw [ends receiver c isLast]
    rfl

theorem mayContinue_textBehind
    (calls : List TextCall) :
    CallLink.mayContinue (textBehind calls) = true := by
  cases calls with
  | nil =>
      rfl
  | cons call later =>
      rw [textBehind_cons]
      rfl

theorem trim_textBehind
    (calls : List TextCall) :
    (textBehind calls).trim = textBehind calls := by
  cases calls with
  | nil =>
      rfl
  | cons call later =>
      exact trim_append_textBehind .result call later

/-- The member of a call is read if its arguments are, and what stands behind it is left. -/
theorem readMember
    (call : TextCall)
    (later : List TextCall) :
    CallLink.readMember call.name
        ('(' :: (call.arguments ++ ')' :: textBehind later)) =
      (CallLink.readArguments call.arguments).map fun arguments =>
        { name := call.name
          kind := .method
          arguments
          remainder := textBehind later } := by
  have goesOn : CallLink.mayContinue (textBehind later).trim = true := by
    rw [trim_textBehind]
    exact mayContinue_textBehind later
  cases parsed : Argument.parseAll call.arguments with
  | ok arguments =>
      rw [CallLink.readMember_method call.named call.nested parsed goesOn, trim_textBehind,
        CallLink.readArguments, parsed]
      rfl
  | error fault =>
      have noPoint : call.name.contains '.' = false := by
        simpa using Text.not_mem_of_isName call.named (by decide)
      have unread : CallLink.readArguments call.arguments = .error (.badArguments fault) := by
        rw [CallLink.readArguments, parsed]
        rfl
      rw [unread, CallLink.readMember, noPoint]
      simp only [List.isEmpty_cons, Bool.or_false, Bool.false_eq_true, if_false,
        CallLink.readMethod, call.nested.readParens?, unread]
      rfl

/-- The first call of a chain is read if its arguments are, and the other ones are left. -/
theorem readLink
    {chained : Bool}
    {receiver : Text}
    (start : ChainStart chained receiver)
    (call : TextCall)
    (later : List TextCall) :
    CallLink.read chained (receiver ++ textBehind (call :: later)) =
      (CallLink.readArguments call.arguments).map fun arguments =>
        .ofMember (receiver ++ textBehind (call :: later))
          (if chained then .result else .property receiver)
          { name := call.name
            kind := .method
            arguments
            remainder := textBehind later } := by
  have noOpen : ∀ c ∈ receiver ++ '.' :: call.name, (c != '(') = true := by
    intro c isMember
    rw [bne_iff_ne]
    rintro rfl
    rcases List.mem_append.mp isMember with inReceiver | inName
    · exact absurd (start.continues _ inReceiver) (by decide)
    · rcases List.mem_cons.mp inName with isPoint | inName
      · cases isPoint
      · exact absurd (Text.continues_of_isName call.named _ inName) (by decide)
  have noPoint : ∀ c ∈ receiver, (c == '.') = false := by
    intro c isMember
    rw [beq_eq_false_iff_ne]
    exact Text.ne_of_isNameContinue (start.continues c isMember) (by decide)
  have shape :
      receiver ++ textBehind (call :: later) =
        (receiver ++ '.' :: call.name) ++
          '(' :: (call.arguments ++ ')' :: textBehind later) := by
    simp [textBehind_cons]
  have begins :
      ∀ c ∈ (receiver ++ textBehind (call :: later)).head?, c ≠ '[' ∧ isBlank c = false := by
    rw [textBehind_cons]
    exact start.begins _
  have before :
      (receiver ++ textBehind (call :: later)).takeWhile (· != '(') =
        receiver ++ '.' :: call.name := by
    rw [shape, List.takeWhile_append_of_pos noOpen]
    simp
  have behind :
      (receiver ++ textBehind (call :: later)).dropWhile (· != '(') =
        '(' :: (call.arguments ++ ')' :: textBehind later) := by
    rw [shape, List.dropWhile_append_of_pos noOpen]
    simp
  rw [CallLink.read, trim_append_textBehind start,
    CallLink.readTrimmed_at_point start.receives noPoint begins before behind, call.readMember]
  cases CallLink.readArguments call.arguments <;> rfl

/-- A chain is read call by call, up to one whose arguments cannot be read. -/
theorem readChain
    {chained : Bool}
    {receiver : Text}
    (start : ChainStart chained receiver)
    (call : TextCall)
    (later : List TextCall) :
    CallChain.read chained (receiver ++ textBehind (call :: later)) =
      match CallLink.readArguments call.arguments with
      | .error fault => .broken fault
      | .ok arguments =>
          .link
            (.ofMember (receiver ++ textBehind (call :: later))
              (if chained then .result else .property receiver)
              { name := call.name
                kind := .method
                arguments
                remainder := textBehind later })
            (arguments.map .ofArgument)
            (CallChain.read true (textBehind later)) := by
  have some : receiver ++ textBehind (call :: later) ≠ [] := by
    simp [textBehind_cons]
  have link := readLink start call later
  cases read : CallLink.readArguments call.arguments with
  | error fault =>
      rw [read] at link
      exact CallChain.read_of_error some link
  | ok arguments =>
      rw [read] at link
      exact CallChain.read_of_link some link

end TextCall

namespace Template

/-- The word of the registry holds nothing between its letters and its colon. -/
theorem namesRegistry_append
    {property : Text}
    (named : property.isName = true)
    {c : Char}
    (unlettered : c.isAlpha = false)
    (foreign : c ∉ registryWord)
    (rest : Text) :
    namesRegistry (property ++ c :: rest) = false := by
  rw [← Bool.not_eq_true]
  intro isRegistry
  have same :
      Text.sameName registryWord ((property ++ c :: rest).take registryWord.length) = true :=
    Text.sameName_iff.mpr (Text.sameName_iff.mp isRegistry).symm
  by_cases short : property.length < registryWord.length
  · have inFront : c ∈ (property ++ c :: rest).take registryWord.length := by
      obtain ⟨more, room⟩ := Nat.exists_eq_add_of_lt short
      have left : registryWord.length - property.length = more + 1 := by
        omega
      rw [List.take_append, left, List.take_succ_cons]
      exact List.mem_append_right _ List.mem_cons_self
    exact absurd (Text.mem_of_sameName same unlettered inFront) foreign
  · have inFront : ':' ∈ (property ++ c :: rest).take registryWord.length :=
      Text.mem_of_sameName isRegistry (by decide) (by decide)
    rw [List.take_append_of_le_length (Nat.le_of_not_lt short)] at inFront
    exact absurd (Text.continues_of_isName named _ (List.mem_of_mem_take inFront)) (by decide)

/-- The bodies that expand to nothing are names, points and digits. -/
theorem emptyBodies_of_foreign
    {c : Char}
    (unlettered : c.isAlpha = false)
    (foreign : ∀ known ∈ emptyBodies, c ∉ known)
    {body : Text}
    (inBody : c ∈ body) :
    emptyBodies.any (Text.sameName body) = false := by
  rw [List.any_eq_false]
  intro known isKnown same
  have sameBack : Text.sameName known body = true :=
    Text.sameName_iff.mpr (Text.sameName_iff.mp same).symm
  exact foreign known isKnown (Text.mem_of_sameName sameBack unlettered inBody)

end Template

namespace TextCall

/-- A body that is a chain on a property asks for the chain, if it is not cut in a character. -/
theorem readRequest
    {property : Text}
    (named : property.isName = true)
    (call : TextCall)
    (later : List TextCall) :
    let body := property ++ textBehind (call :: later)
    Request.read body =
      if Text.cutsCharacter Template.registryWord.length body then
        .cutInside Template.registryWord.length body
      else
        match CallLink.readArguments call.arguments with
        | .error fault => .uncallable body fault
        | .ok _ => .call (some property) (CallChain.read false body) := by
  intro body
  have start : ChainStart false property := .property named
  have trimmed : body.trim = body :=
    trim_append_textBehind start call later
  have pointed :
      ∃ rest, textBehind (call :: later) = '.' :: rest ∧ '(' ∈ rest :=
    ⟨_, textBehind_cons call later, by simp⟩
  obtain ⟨rest, shape, opens⟩ := pointed
  have taken : Text.takeName body = (property, textBehind (call :: later)) := by
    apply Text.takeName_append_of_ends named
    rw [shape]
    exact .stop (by decide) (by decide) rest
  have some : body.isEmpty = false := by
    simp [body, shape]
  have noRegistry : Template.namesRegistry body = false := by
    simp only [body, shape]
    exact Template.namesRegistry_append named (by decide) (by decide) rest
  have notEmptyBody : Template.emptyBodies.any (Text.sameName body) = false :=
    Template.emptyBodies_of_foreign (c := '(') (by decide) (by decide)
      (by simp [body, shape, opens])
  have link := readLink start call later
  rw [Request.read]
  simp only [trimmed, taken, some, noRegistry, notEmptyBody]
  rw [show CallLink.read false body = _ from link, shape]
  simp only [Template.goesOn, List.head?_cons]
  cases CallLink.readArguments call.arguments <;>
    simp [Except.map, CallLink.receiverName?, CallLink.ofMember]

theorem nested_textBehind
    (calls : List TextCall) :
    Nested (textBehind calls) := by
  induction calls with
  | nil =>
      exact .nil
  | cons call later inductionHypothesis =>
      have nestedName : Nested call.name :=
        (Balanced.ofNameContinue (Text.continues_of_isName call.named)).nested
      rw [textBehind_cons]
      apply Nested.plain (by decide) (by decide) (by decide)
      exact nestedName.append (.parens call.nested inductionHypothesis)

end TextCall

namespace Text

/-- Where a reference is opened: here, or further on. -/
theorem holds_opening_cons
    (c : Char)
    (text : Text) :
    holds "$(" (c :: text) = ((c == '$' && text.head? == some '(') || holds "$(" text) := by
  by_cases isDollar : c = '$'
  · subst isDollar
    cases text with
    | nil =>
        decide
    | cons d text =>
        by_cases opens : d = '('
        · subst opens
          rw [holds, show "$(".toList = ['$', '('] from rfl]
          simp [breakOn?, dropBeginning?]
        · simp [holds, breakOn?, dropBeginning?, opens, Ne.symm opens]
  · have notHere : (c == '$') = false :=
      beq_eq_false_iff_ne.mpr isDollar
    have later : breakOn? "$(".toList (c :: text) = (breakOn? "$(".toList text).map _ :=
      breakOn?_cons_of_ne isDollar ['('] text
    rw [notHere, Bool.false_and, Bool.false_or, holds, holds, later, Option.isSome_map]

/-- Nothing is opened across a border that no parenthesis stands behind. -/
theorem holds_opening_append
    {front rest : Text}
    (unopened : holds "$(" front = false)
    (noOpen : rest.head? ≠ some '(') :
    holds "$(" (front ++ rest) = holds "$(" rest := by
  induction front with
  | nil =>
      rfl
  | cons c front inductionHypothesis =>
      rw [holds_opening_cons, Bool.or_eq_false_iff] at unopened
      have head : (c == '$' && (front ++ rest).head? == some '(') = false := by
        cases front with
        | nil =>
            simp [noOpen]
        | cons d front =>
            exact unopened.1
      rw [List.cons_append, holds_opening_cons, head, Bool.false_or,
        inductionHypothesis unopened.2]

theorem holds_opening_of_not_mem
    {front : Text}
    (noDollar : '$' ∉ front)
    (rest : Text) :
    holds "$(" (front ++ rest) = holds "$(" rest := by
  induction front with
  | nil =>
      rfl
  | cons c front inductionHypothesis =>
      rw [List.mem_cons, not_or] at noDollar
      have head : (c == '$') = false :=
        beq_eq_false_iff_ne.mpr (Ne.symm noDollar.1)
      rw [List.cons_append, holds_opening_cons, head, Bool.false_and, Bool.false_or,
        inductionHypothesis noDollar.2]

end Text

namespace TextCall

/-- The step of a vector that the call is. -/
def step
    (call : TextCall) :
    StepForm where
  lead := .none
  transform := .call call.name call.named .none call.arguments call.nested
  trail := .none

/-- The vector of an item type with the calls as its transforms, as a form. -/
def vectorForm
    {itemType : Text}
    (named : itemType.isName = true)
    (calls : List TextCall) :
    VectorForm where
  lead := .none
  itemType
  named
  gap := .none
  steps := calls.map step
  separator := none

theorem text_vectorForm
    {itemType : Text}
    (named : itemType.isName = true)
    (calls : List TextCall) :
    (vectorForm named calls).text = vector itemType calls := by
  have steps :
      StepForm.textAll (calls.map step) = calls.flatMap fun call => '-' :: '>' :: call.text := by
    have each : ∀ call : TextCall, (step call).text = '-' :: '>' :: call.text := by
      intro call
      simp [StepForm.text, StepForm.front, step, TransformForm.text, Blanks.none, text]
    simp [StepForm.textAll, List.flatMap_map, each]
  simp [VectorForm.text, VectorForm.front, vectorForm, vector, steps, Blanks.none,
    SeparatorForm.optionText]

/-- The transforms of the vector are the functions of the calls. -/
theorem kinds_capturedAll
    (before : Text)
    (calls : List TextCall) :
    (StepForm.capturedAll before (calls.map step)).map (·.kind) =
      calls.map fun call => .function call.name call.arguments := by
  induction calls generalizing before with
  | nil =>
      rfl
  | cons call later inductionHypothesis =>
      simp only [List.map_cons, StepForm.capturedAll, inductionHypothesis]
      rfl

/-- No property reference is opened in the vector. -/
theorem unopened_vector
    {itemType : Text}
    (named : itemType.isName = true)
    (calls : List TextCall) :
    Text.holds "$(" (vector itemType calls) = false := by
  have noDollar :
      ∀ {name : Text}, name.isName = true → '$' ∉ name :=
    fun named => Text.not_mem_of_isName named (by decide)
  have inSteps :
      Text.holds "$("
        (calls.flatMap (fun call => '-' :: '>' :: call.text) ++ [')']) = false := by
    induction calls with
    | nil =>
        decide
    | cons call later inductionHypothesis =>
        have shape :
            (call :: later).flatMap (fun call => '-' :: '>' :: call.text) ++ [')'] =
              ('-' :: '>' :: (call.name ++ ['('])) ++
                (call.arguments ++
                  ([')'] ++ (later.flatMap (fun call => '-' :: '>' :: call.text) ++ [')']))) := by
          simp [text]
        rw [shape, Text.holds_opening_of_not_mem (by simp [noDollar call.named]),
          Text.holds_opening_append call.noReference (by simp),
          Text.holds_opening_of_not_mem (by simp), inductionHypothesis]
  have shape :
      vector itemType calls =
        ('@' :: '(' :: itemType) ++
          (calls.flatMap (fun call => '-' :: '>' :: call.text) ++ [')']) := by
    simp [vector]
  rw [shape, Text.holds_opening_of_not_mem (by simp [noDollar named]), inSteps]

end TextCall

end RefExpand
