import RefExpand.Call.Argument
import RefExpand.Error
import RefExpand.Text.Name
import RefExpand.Text.Part

namespace RefExpand

/-!
# Links of a call

A call is written as a chain: `[Type]::Member(…)` or `Name.Member(…)`, then any
number of `.Member(…)` and `[…]`. One link is read at a time. What it leaves is
shorter than what it was read from, and both what it leaves and the texts of its
arguments are parts of it.
-/

/-- What a link is called on. -/
inductive CallTarget where
  | type (name : Text)
  | property (name : Text)
  | result
  | index
  deriving Repr, DecidableEq, Inhabited

/-- How a member is written. -/
inductive MemberKind where
  | method
  | property
  | indexer
  deriving Repr, DecidableEq, Inhabited

/-- One link of a call, and what is written after it. -/
structure CallLink where
  expression : Text
  target : CallTarget
  name : Text
  kind : MemberKind
  arguments : List Argument
  remainder : Text
  deriving Repr, DecidableEq, Inhabited

/-- Why a text is not a link of a call. -/
inductive CallFault where
  | noCall
  | noStaticMember
  | openBracket
  | textAfterIndex
  | noMember
  | badReceiver
  | openParenthesis
  | noMemberName
  | textAfterCall
  | badArguments (fault : SplitFault)
  deriving Repr, DecidableEq

/-- The wording of a fault in a call. -/
def CallFault.message : CallFault → Text
  | .noCall => "expected a function call"
  | .noStaticMember => "expected \"[Type]::Member\""
  | .openBracket => "mismatched square brackets"
  | .textAfterIndex => "unexpected text after indexer"
  | .noMember => "expected \"Property.Member\""
  | .badReceiver => "the receiver is not a valid property name"
  | .openParenthesis => "mismatched parenthesis"
  | .noMemberName => "missing member name"
  | .textAfterCall => "unexpected text after call"
  | .badArguments fault => fault.message

/-- A member as it is written, and what is written after it. -/
structure WrittenMember where
  name : Text
  kind : MemberKind
  arguments : List Argument
  remainder : Text
  deriving Repr, DecidableEq

/-- Everything a member leaves to be read is a proper part of its text. -/
def WrittenMember.Within (member : WrittenMember) (text : Text) : Prop :=
  ProperPart member.remainder text ∧
    ∀ part ∈ Argument.texts member.arguments, ProperPart part text

namespace CallLink

/-- Another link may start here, or the chain ends. -/
def mayContinue (remainder : Text) : Bool :=
  match remainder with
  | [] => true
  | c :: _ => c == '.' || c == '['

/-- Read an argument list. -/
def readArguments (content : Text) : Except CallFault (List Argument) :=
  (Argument.parseAll content).mapError .badArguments

/-- Read a member with an argument list that starts `parens`. -/
def readMethod (name parens : Text) : Except CallFault WrittenMember :=
  match readParens? parens with
  | none => .error .openParenthesis
  | some (inside, rest) => do
      let arguments ← readArguments inside
      return { name := Text.trim name, kind := .method, arguments, remainder := Text.trim rest }

/-- Read a member without an argument list, up to the next link. -/
def readProperty (text : Text) : WrittenMember :=
  let inName c := c != '.' && c != '['
  { name := Text.trim (text.takeWhile inName)
    kind := .property
    arguments := []
    remainder := Text.trim (text.dropWhile inName) }

/--
Read a member. `front` is the text before the first opening parenthesis, and
`parens` is the text from there; the parenthesis belongs to this member unless
a point stands before it.
-/
def readMember (front parens : Text) : Except CallFault WrittenMember := do
  let member ←
    if parens.isEmpty || front.contains '.' then
      Except.ok (readProperty (front ++ parens))
    else
      readMethod front parens
  if member.name.isEmpty then
    .error .noMemberName
  else if !mayContinue member.remainder then
    .error .textAfterCall
  else
    return member

/-- The link that a member makes on a target. -/
def ofMember (expression : Text) (target : CallTarget) (member : WrittenMember) : CallLink :=
  { expression
    target
    name := member.name
    kind := member.kind
    arguments := member.arguments
    remainder := member.remainder }

/-- Cut `[Type]::Member` before its first parenthesis into the type and the member. -/
def splitStatic? (front : Text) : Option (Text × Text) := do
  let (typeName, rest) ← Text.breakAt? (· == ']') front
  let member ← Text.dropBeginning? "::" rest
  if typeName.trim.isEmpty || member.isEmpty then none
  else return (typeName.trim, member)

/-- Read an indexer, after its opening bracket. -/
def readIndexer (expression text : Text) : Except CallFault CallLink :=
  match Text.breakAt? (· == ']') text with
  | none => .error .openBracket
  | some (content, rest) => do
      let arguments ← readArguments content
      let remainder := rest.trim
      if mayContinue remainder then
        return { expression, target := .index, name := [], kind := .indexer, arguments, remainder }
      else
        .error .textAfterIndex

/--
Read the first link of a trimmed text. A chained link is called on the result
so far, and so it may be an indexer and names no receiver.
-/
def readTrimmed (chained : Bool) (expression : Text) : Except CallFault CallLink :=
  let front := expression.takeWhile (· != '(')
  let parens := expression.dropWhile (· != '(')
  if (Text.trim front).isEmpty then
    .error .noCall
  else if !chained && front.head? == some '[' then
    match splitStatic? front.tail with
    | none => .error .noStaticMember
    | some (typeName, member) =>
        (readMember member parens).map (ofMember expression (.type typeName))
  else if expression.head? == some '[' then
    readIndexer expression expression.tail
  else
    match Text.breakAt? (· == '.') front with
    | none => .error .noMember
    | some (receiver, member) =>
        if !chained && !receiver.trim.isName then
          .error .badReceiver
        else
          (readMember member parens).map
            (ofMember expression (if chained then .result else .property receiver.trim))

/-- Read the first link of a text. -/
def read (chained : Bool) (body : Text) : Except CallFault CallLink :=
  readTrimmed chained body.trim

/-- Read the first link of a text, a fault naming the whole reference and its place. -/
def extract (chained : Bool) (location : Location) (body : Text) : Except ExpandError CallLink :=
  (read chained body).mapError fun fault =>
    (ExpandError.invalidFunction ('$' :: '(' :: (body.trim ++ [')'])) fault.message).withLocation
      location

/-- The name of the property that the link is called on. -/
def receiverName? (link : CallLink) : Option Text :=
  match link.target with
  | .property name => some name
  | .type _ | .result | .index => none

/-- The link is called on a type. -/
def isStatic (link : CallLink) : Bool :=
  match link.target with
  | .type _ => true
  | .property _ | .result | .index => false

/-- Everything a link leaves to be read is a proper part of its text. -/
def Within (link : CallLink) (text : Text) : Prop :=
  ProperPart link.remainder text ∧
    ∀ part ∈ Argument.texts link.arguments, ProperPart part text

theorem readArguments_isInfix
    {content : Text} {arguments : List Argument}
    (read : readArguments content = .ok arguments) :
    ∀ part ∈ Argument.texts arguments, part <:+: content := by
  unfold readArguments at read
  cases parsed : Argument.parseAll content with
  | error fault => rw [parsed] at read; cases read
  | ok found =>
      rw [parsed] at read
      cases read
      exact Argument.parseAll_isInfix parsed

theorem readMethod_within
    {name parens : Text} {member : WrittenMember}
    (read : readMethod name parens = .ok member) :
    member.Within parens := by
  unfold readMethod at read
  split at read
  · cases read
  · rename_i inside rest parensRead
    cases argumentsRead : readArguments inside with
    | error fault => rw [argumentsRead] at read; cases read
    | ok arguments =>
        rw [argumentsRead] at read
        cases read
        rw [readParens?_eq_append parensRead]
        constructor
        · refine ProperPart.ofInfix (Text.trim_isInfix rest) ?_
          have := ProperPart.between ('(' :: (inside ++ [')'])) rest [] (by simp)
          simpa using this
        · intro part isPart
          refine ProperPart.ofInfix (readArguments_isInfix argumentsRead part isPart) ?_
          have := ProperPart.between ['('] inside (')' :: rest) (by simp only [List.length_cons, List.length_nil]; omega)
          simpa using this

theorem readProperty_within
    {text : Text} (named : (readProperty text).name ≠ []) :
    (readProperty text).Within text := by
  constructor
  · refine ProperPart.ofInfix (Text.trim_isInfix _) ?_
    have nonempty : text.takeWhile (fun c => c != '.' && c != '[') ≠ [] := by
      intro isNil
      simp [readProperty, isNil, Text.trim, Text.trimBy, Text.trimEndBy, Text.trimStartBy] at named
    have := ProperPart.between
      (text.takeWhile fun c => c != '.' && c != '[')
      (text.dropWhile fun c => c != '.' && c != '[') []
      (by have := List.length_pos_iff.mpr nonempty; simp only [List.length_nil]; omega)
    simpa using this
  · intro part isPart
    simp [readProperty, Argument.texts] at isPart

theorem readMember_within
    {front parens : Text} {member : WrittenMember}
    (read : readMember front parens = .ok member) :
    member.Within (front ++ parens) := by
  unfold readMember at read
  split at read
  · simp only [bind, Except.bind, pure, Except.pure] at read
    split at read
    · cases read
    · split at read
      · cases read
      · rename_i named _
        cases read
        exact readProperty_within (by simpa using named)
  · cases methodRead : readMethod front parens with
    | error fault => rw [methodRead] at read; cases read
    | ok found =>
        rw [methodRead] at read
        simp only [bind, Except.bind, pure, Except.pure] at read
        split at read
        · cases read
        · split at read
          · cases read
          · cases read
            have ⟨remainder, arguments⟩ := readMethod_within methodRead
            have inside : parens <:+: front ++ parens := (List.suffix_append _ _).isInfix
            exact ⟨remainder.inInfix inside, fun part isPart =>
              (arguments part isPart).inInfix inside⟩

theorem readIndexer_within
    {expression text : Text} {link : CallLink}
    (read : readIndexer expression text = .ok link) :
    link.Within ('[' :: text) := by
  unfold readIndexer at read
  split at read
  · cases read
  · rename_i content rest cut
    obtain ⟨c, _, rfl⟩ := Text.breakAt?_eq_append cut
    cases argumentsRead : readArguments content with
    | error fault => rw [argumentsRead] at read; cases read
    | ok arguments =>
        rw [argumentsRead] at read
        simp only [bind, Except.bind, pure, Except.pure] at read
        split at read
        · cases read
          constructor
          · refine ProperPart.ofInfix (Text.trim_isInfix rest) ?_
            have := ProperPart.between ('[' :: (content ++ [c])) rest [] (by simp)
            simpa using this
          · intro part isPart
            refine ProperPart.ofInfix (readArguments_isInfix argumentsRead part isPart) ?_
            have := ProperPart.between ['['] content (c :: rest) (by simp only [List.length_cons, List.length_nil]; omega)
            simpa using this
        · cases read

theorem Within.ofMember
    {expression text : Text} {target : CallTarget} {member : WrittenMember}
    (within : member.Within text) :
    (CallLink.ofMember expression target member).Within text :=
  within

theorem Within.inInfix
    {link : CallLink} {inner outer : Text}
    (within : link.Within inner) (inside : inner <:+: outer) :
    link.Within outer :=
  ⟨within.1.inInfix inside, fun part isPart => (within.2 part isPart).inInfix inside⟩

theorem splitStatic?_suffix
    {front typeName member : Text} (split : splitStatic? front = some (typeName, member)) :
    member <:+ front := by
  unfold splitStatic? at split
  simp only [bind, Option.bind] at split
  split at split
  · cases split
  · rename_i cut cutFound
    obtain ⟨written, rest⟩ := cut
    obtain ⟨c, _, rfl⟩ := Text.breakAt?_eq_append cutFound
    simp only at split
    split at split
    · cases split
    · rename_i found dropped
      have shape := Text.dropBeginning?_eq_append dropped
      simp only at split
      split at split
      · cases split
      · cases split
        subst shape
        exact ⟨written ++ c :: "::".toList, by simp⟩

theorem readTrimmed_within
    {chained : Bool} {expression : Text} {link : CallLink}
    (read : readTrimmed chained expression = .ok link) :
    link.Within expression := by
  unfold readTrimmed at read
  simp only at read
  have whole := List.takeWhile_append_dropWhile (p := (· != '(')) (l := expression)
  generalize expression.takeWhile (· != '(') = front at read whole
  generalize expression.dropWhile (· != '(') = parens at read whole
  split at read
  · cases read
  · split at read
    · split at read
      · cases read
      · rename_i typeName member split
        cases memberRead : readMember member parens with
        | error fault => rw [memberRead] at read; cases read
        | ok found =>
            rw [memberRead] at read
            simp only [Except.map, Except.ok.injEq] at read
            subst read
            refine (Within.ofMember (readMember_within memberRead)).inInfix ?_
            rw [← whole]
            have inTail := splitStatic?_suffix split
            have inFront : member <:+ front := inTail.trans (List.tail_suffix front)
            obtain ⟨before, rfl⟩ := inFront
            exact ⟨before, [], by simp⟩
    · split at read
      · rename_i bracket
        cases expression with
        | nil => simp at bracket
        | cons c text =>
            simp only [List.head?_cons, beq_iff_eq, Option.some.injEq] at bracket
            subst bracket
            exact readIndexer_within read
      · split at read
        · cases read
        · rename_i receiver member cut
          split at read
          · cases read
          · cases memberRead : readMember member parens with
            | error fault => rw [memberRead] at read; cases read
            | ok found =>
                rw [memberRead] at read
                simp only [Except.map, Except.ok.injEq] at read
                subst read
                refine (Within.ofMember (readMember_within memberRead)).inInfix ?_
                rw [← whole]
                obtain ⟨c, _, rfl⟩ := Text.breakAt?_eq_append cut
                exact ⟨receiver ++ [c], [], by simp⟩

/-- A link leaves only proper parts of its text to be read. -/
theorem read_within
    {chained : Bool} {body : Text} {link : CallLink} (read : read chained body = .ok link) :
    link.Within body :=
  (readTrimmed_within read).inInfix (Text.trim_isInfix body)

end CallLink

end RefExpand
