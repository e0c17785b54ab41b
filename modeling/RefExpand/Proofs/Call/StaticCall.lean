import RefExpand.Proofs.Scan.Commas
import RefExpand.Proofs.Template.Read

namespace RefExpand

/-!
# Reading a call on a type

A body `[Type]::Member(…)` with a nested argument list is one link of a call,
and nothing is left behind it. Its arguments become templates of their own.
-/

namespace Argument

/-- An argument that does not begin with a letter is neither null nor a placeholder. -/
theorem ofText_of_unlettered
    {first : Char}
    (unlettered : first.isAlpha = false)
    (rest : Text) :
    ofText (first :: rest) = .text (dequote (first :: rest)) := by
  have notNull : Text.sameName (first :: rest) "null" = false := by
    rw [← Bool.not_eq_true, Text.sameName_iff]
    intro same
    have inNull : first ∈ "null".toList :=
      Text.mem_of_sameName (Text.sameName_iff.mpr same.symm) unlettered List.mem_cons_self
    have lettered : ∀ c ∈ "null".toList, c.isAlpha = true := by
      simp
    rw [lettered first inNull] at unlettered
    cases unlettered
  have notOut : isOutPlaceholder (first :: rest) = false := by
    have differs : 'o' ≠ first := by
      rintro rfl
      cases unlettered
    simp [isOutPlaceholder, Text.dropBeginning?, differs]
  rw [ofText, notNull, notOut]
  rfl

/-- An argument that begins with neither a letter nor a quote stands for its own text. -/
theorem ofText_cons
    {first : Char}
    (unlettered : first.isAlpha = false)
    (noQuote : isQuote first = false)
    (rest : Text) :
    ofText (first :: rest) = .text (first :: rest) := by
  have undressed : dequote (first :: rest) = first :: rest := by
    simp [dequote, noQuote]
  rw [ofText_of_unlettered unlettered, undressed]

/-- A reference is an argument that stands for its own text. -/
theorem ofText_trim_reference
    (inside : Text) :
    ofText (Text.trim ('$' :: '(' :: (inside ++ [')']))) =
      .text ('$' :: '(' :: (inside ++ [')'])) := by
  have trimmed :
      Text.trim ('$' :: '(' :: (inside ++ [')'])) = '$' :: '(' :: (inside ++ [')']) :=
    Text.trim_cons_append_singleton (by decide) (by decide) ('(' :: inside)
  rw [trimmed]
  exact ofText_cons (by decide) (by decide) _

/-- A text that is kept whole, and others behind commas and blanks, are read as arguments. -/
theorem parseAll_join
    {first : Text}
    {others : List Text}
    (kept : ∀ piece ∈ first :: others, KeptByCommas piece)
    (some : Text.join ", " (first :: others) ≠ []) :
    parseAll (Text.join ", " (first :: others)) =
      .ok ((first :: others).map fun piece => ofText piece.trim) := by
  have present : (Text.join ", " (first :: others)).isEmpty = false := by
    simpa using some
  rw [parseAll, present, splitCommas_join kept]
  simp [Except.map]

/-- Two texts that are kept whole, with a comma and a blank between them, are read as arguments. -/
theorem parseAll_pair
    {first second : Text}
    (firstKept : KeptByCommas first)
    (secondKept : KeptByCommas second) :
    parseAll (first ++ ", ".toList ++ second) = .ok [ofText first.trim, ofText second.trim] := by
  have kept : ∀ piece ∈ [first, second], KeptByCommas piece := by
    simp [firstKept, secondKept]
  have shape : Text.join ", " [first, second] = first ++ ", ".toList ++ second := by
    simp [Text.join]
  have read := parseAll_join kept (by rw [shape]; simp)
  rwa [shape] at read

end Argument

/-- The body of a call on a type. -/
def CallLink.staticBody
    (typeName member inside : Text) :
    Text :=
  '[' :: (typeName ++ "]::".toList ++ member ++ '(' :: inside ++ [')'])

namespace CallLink

variable {typeName member inside : Text}

theorem trim_staticBody :
    (staticBody typeName member inside).trim = staticBody typeName member inside :=
  Text.trim_cons_append_singleton (by decide) (by decide) _

theorem cut_staticBody
    (typeNoOpen : '(' ∉ typeName)
    (memberNamed : member.isName = true)
    (inside : Text) :
    (staticBody typeName member inside).takeWhile (· != '(') =
        '[' :: (typeName ++ ']' :: ':' :: ':' :: member) ∧
      (staticBody typeName member inside).dropWhile (· != '(') =
        '(' :: (inside ++ [')']) := by
  have shape :
      staticBody typeName member inside =
        '[' :: (typeName ++ ']' :: ':' :: ':' :: member) ++ '(' :: (inside ++ [')']) := by
    simp [staticBody]
  have before :
      ∀ c ∈ '[' :: (typeName ++ ']' :: ':' :: ':' :: member), (c != '(') = true := by
    intro c isMember
    rw [bne_iff_ne]
    rintro rfl
    have inMember : '(' ∉ member :=
      Text.not_mem_of_isName memberNamed (by decide)
    simp [typeNoOpen, inMember] at isMember
  rw [shape, List.takeWhile_append_of_pos before, List.dropWhile_append_of_pos before]
  simp

theorem splitStatic?_front
    (typeNoBracket : ']' ∉ typeName)
    (typeTrimmed : typeName.trim = typeName)
    (typeSome : typeName ≠ [])
    (memberSome : member ≠ []) :
    splitStatic? (typeName ++ ']' :: ':' :: ':' :: member) = some (typeName, member) := by
  have noBracket : ∀ c ∈ typeName, (c == ']') = false := by
    intro c isMember
    rw [beq_eq_false_iff_ne]
    rintro rfl
    exact typeNoBracket isMember
  rw [splitStatic?, Text.breakAt?_append_cons noBracket (by decide)]
  simp [Text.dropBeginning?, typeTrimmed, typeSome, memberSome]

/-- A member with an argument list is read, and the rest of the chain is left. -/
theorem readMember_method
    (memberNamed : member.isName = true)
    (nested : Nested inside)
    {arguments : List Argument}
    (argumentsRead : Argument.parseAll inside = .ok arguments)
    {rest : Text}
    (goesOn : mayContinue rest.trim = true) :
    readMember member ('(' :: (inside ++ ')' :: rest)) =
      .ok { name := member, kind := .method, arguments, remainder := rest.trim } := by
  have noPoint : member.contains '.' = false := by
    simpa using Text.not_mem_of_isName memberNamed (by decide)
  have memberPresent : member.isEmpty = false := by
    simp [Text.ne_nil_of_isName memberNamed]
  have method :
      readMethod member ('(' :: (inside ++ ')' :: rest)) =
        .ok { name := member, kind := .method, arguments, remainder := rest.trim } := by
    rw [readMethod, nested.readParens? rest]
    dsimp only
    rw [readArguments, argumentsRead, Text.trim_of_isName memberNamed]
    rfl
  have isMethod :
      (List.isEmpty ('(' :: (inside ++ ')' :: rest)) || member.contains '.') = false := by
    rw [noPoint]
    rfl
  rw [readMember, isMethod, method]
  simp [bind, Except.bind, memberPresent, goesOn, pure, Except.pure]

/-- The link that the body of a call on a type is. -/
def staticLink
    (typeName member inside : Text)
    (arguments : List Argument) :
    CallLink :=
  { expression := staticBody typeName member inside
    target := .type typeName
    name := member
    kind := .method
    arguments
    remainder := [] }

/-- What a text needs to be the name of a type in a call. -/
structure TypeNamed
    (typeName : Text) : Prop where
  some :
    typeName ≠ []
  trimmed :
    typeName.trim = typeName
  noOpen :
    '(' ∉ typeName
  noBracket :
    ']' ∉ typeName

/-- A link on a type is read if its member is. -/
theorem readTrimmed_of_static
    (typeNamed : TypeNamed typeName)
    {expression front parens : Text}
    (before :
      expression.takeWhile (· != '(') = '[' :: (typeName ++ ']' :: ':' :: ':' :: front))
    (behind : expression.dropWhile (· != '(') = parens)
    (memberSome : front ≠ [])
    {member : WrittenMember}
    (memberRead : readMember front parens = .ok member) :
    readTrimmed false expression = .ok (ofMember expression (.type typeName) member) := by
  have frontInk :
      (Text.trim ('[' :: (typeName ++ ']' :: ':' :: ':' :: front))).isEmpty = false := by
    simp [Text.trim_cons_ne_nil (show isBlank '[' = false by decide)]
  have split :=
    splitStatic?_front typeNamed.noBracket typeNamed.trimmed typeNamed.some memberSome
  rw [readTrimmed, before, behind, frontInk]
  simp only [List.head?_cons, List.tail_cons, split, memberRead]
  rfl

/-- The body of a call on a type is one link. -/
theorem read_staticBody
    (typeNamed : TypeNamed typeName)
    (memberNamed : member.isName = true)
    (nested : Nested inside)
    {arguments : List Argument}
    (argumentsRead : Argument.parseAll inside = .ok arguments) :
    read false (staticBody typeName member inside) =
      .ok (staticLink typeName member inside arguments) := by
  obtain ⟨before, behind⟩ := cut_staticBody typeNamed.noOpen memberNamed inside
  have method : readMember member ('(' :: (inside ++ [')'])) = _ :=
    readMember_method memberNamed nested argumentsRead rfl
  rw [read, trim_staticBody]
  exact readTrimmed_of_static typeNamed before behind (Text.ne_nil_of_isName memberNamed) method

end CallLink

/-- The template of an argument, read from its text. -/
def TemplateArgument.ofArgument : Argument → TemplateArgument
  | .null => .null
  | .out => .out
  | .text content => .template (Template.read content)

theorem CallChain.read_nil
    (chained : Bool) :
    read chained [] = .done := by
  rw [read]
  rfl

/-- A text that does not begin with a link is a broken chain. -/
theorem CallChain.read_of_error
    {chained : Bool}
    {text : Text}
    {fault : CallFault}
    (some : text ≠ [])
    (failed : CallLink.read chained text = .error fault) :
    read chained text = .broken fault := by
  have present : text.isEmpty = false := by
    simp [some]
  rw [read, present, if_neg (by decide)]
  split
  · rename_i failed'
    rw [failed, Except.error.injEq] at failed'
    rw [failed']
  · rename_i found
    rw [failed] at found
    cases found

/-- A link is read with the templates of its arguments, and then the links behind it. -/
theorem CallChain.read_of_link
    {chained : Bool}
    {text : Text}
    {link : CallLink}
    (some : text ≠ [])
    (found : CallLink.read chained text = .ok link) :
    read chained text =
      .link link (link.arguments.map .ofArgument) (read true link.remainder) := by
  have present : text.isEmpty = false := by
    simp [some]
  have templates :
      (link.arguments.attach.map fun argument =>
          TemplateArgument.ofArgument argument.1) =
        link.arguments.map .ofArgument :=
    List.attach_map_val
  rw [read, present, if_neg (by decide), ← templates]
  split
  · rename_i found'
    rw [found] at found'
    cases found'
  · rename_i found'
    rw [found, Except.ok.injEq] at found'
    subst found'
    congr 1
    apply List.map_congr_left
    rintro ⟨argument, isArgument⟩ -
    cases argument <;> rfl

/-- The body of a call on a type asks for this call. -/
theorem Request.read_staticBody
    {typeName member inside : Text}
    (typeNamed : CallLink.TypeNamed typeName)
    (memberNamed : member.isName = true)
    (nested : Nested inside)
    {arguments : List Argument}
    (argumentsRead : Argument.parseAll inside = .ok arguments)
    (whole :
      Text.cutsCharacter Template.registryWord.length
        (CallLink.staticBody typeName member inside) = false) :
    read (CallLink.staticBody typeName member inside) =
      .call none
        (.link (CallLink.staticLink typeName member inside arguments)
          (arguments.map .ofArgument) .done) := by
  have link := CallLink.read_staticBody typeNamed memberNamed nested argumentsRead
  have some : CallLink.staticBody typeName member inside ≠ [] :=
    List.cons_ne_nil _ _
  have chain := CallChain.read_of_link some link
  have noName :
      Text.takeName (CallLink.staticBody typeName member inside) =
        ([], CallLink.staticBody typeName member inside) :=
    rfl
  have noRegistry :
      Template.namesRegistry (CallLink.staticBody typeName member inside) = false :=
    rfl
  have notEmptyBody :
      Template.emptyBodies.any
          (Text.sameName (CallLink.staticBody typeName member inside)) = false :=
    rfl
  have present : (CallLink.staticBody typeName member inside).isEmpty = false :=
    rfl
  have bracket :
      ((CallLink.staticBody typeName member inside).head? == Option.some '[') = true :=
    rfl
  have remainder : (CallLink.staticLink typeName member inside arguments).remainder = [] :=
    rfl
  rw [remainder, CallChain.read_nil] at chain
  rw [read]
  simp only [CallLink.trim_staticBody, noName, noRegistry, notEmptyBody, present, bracket, whole,
    link, chain]
  simp [CallLink.staticLink, CallLink.receiverName?]

end RefExpand
