import RefExpand.Proofs.Call.StaticCall

namespace RefExpand

/-!
# The written form of a call

A call is written as a type or a property with a chain of members behind it,
each with or without an argument list. Reading one link after the other gives
back the members, their arguments, and what each is called on: the first opening
parenthesis of a text belongs to a member only if no point stands between them,
and neither points nor parentheses in quotes count.
-/

/-- An argument with a written form: null, a placeholder, or a text in quotes that it is free of. -/
inductive ArgumentForm where
  | null
  | out
  | quoted (quote : Char) (content : Text)
      (opens : isQuote quote = true)
      (closesFirst : quote ∉ content)

namespace ArgumentForm

/-- The argument as it is written. -/
def text : ArgumentForm → Text
  | .null => "null"
  | .out => "out _"
  | .quoted quote content _ _ => quote :: (content ++ [quote])

/-- What the argument is read as. -/
def argument : ArgumentForm → Argument
  | .null => .null
  | .out => .out
  | .quoted _ content _ _ => .text content

/-- An argument list without its parentheses. -/
def textAll
    (forms : List ArgumentForm) :
    Text :=
  Text.join ", " (forms.map text)

theorem text_ne_nil
    (form : ArgumentForm) :
    form.text ≠ [] := by
  cases form <;> simp [text]

theorem kept
    (form : ArgumentForm) :
    KeptByCommas form.text := by
  cases form with
  | null =>
      exact .ofPlain (Text.forall_mem_of_all rfl)
  | out =>
      exact .ofPlain (Text.forall_mem_of_all rfl)
  | quoted quote content opens closesFirst =>
      exact .ofQuoted opens closesFirst

theorem nested
    (form : ArgumentForm) :
    Nested form.text := by
  cases form with
  | null =>
      exact (Balanced.ofPlain (Text.forall_mem_of_all rfl)).nested
  | out =>
      exact (Balanced.ofPlain (Text.forall_mem_of_all rfl)).nested
  | quoted quote content opens closesFirst =>
      exact .quoted opens closesFirst .nil

end ArgumentForm

/-- Parts that are nested make a nested list. -/
theorem Nested.join
    {separator : Text}
    (separates : Nested separator)
    {parts : List Text}
    (nested : ∀ part ∈ parts, Nested part) :
    Nested (Text.join separator parts) := by
  induction parts with
  | nil =>
      exact .nil
  | cons first rest inductionHypothesis =>
      have firstNested := nested first List.mem_cons_self
      have restNested :=
        inductionHypothesis fun part isMember => nested part (List.mem_cons_of_mem _ isMember)
      cases rest with
      | nil =>
          simpa [Text.join] using firstNested
      | cons second rest =>
          rw [Text.join_cons_cons]
          exact (firstNested.append separates).append restNested

/-- The quotes around a text that is free of them are dropped, and nothing else. -/
theorem Argument.dequote_quoted
    {quote : Char}
    {content : Text}
    (opens : isQuote quote = true)
    (closesFirst : quote ∉ content) :
    dequote (quote :: (content ++ [quote])) = content := by
  have other : ∀ c ∈ content, (c == quote) = false := by
    intro c isMember
    rw [beq_eq_false_iff_ne]
    rintro rfl
    exact closesFirst isMember
  have closed :
      (isQuote quote && (quote :: (content ++ [quote])).getLast? == some quote) = true := by
    rw [← List.cons_append, List.getLast?_concat, opens]
    simp
  have dropped : ∀ c ∈ [quote], (c == quote) = true := by
    simp
  have kept : Text.trimBy (· == quote) content = content := by
    rw [Text.trimBy_eq_self_iff]
    constructor
    · intro c isHead
      exact other c (List.mem_of_mem_head? isHead)
    · intro c isLast
      exact other c (List.mem_of_mem_getLast? isLast)
  have undressed : Text.trimBy (· == quote) (quote :: (content ++ [quote])) = content := by
    have between := Text.trimBy_between dropped dropped content
    rwa [List.append_assoc, List.singleton_append, kept] at between
  rw [dequote, List.head?_cons]
  dsimp only
  rw [if_pos closed, undressed]

namespace ArgumentForm

theorem trim_text
    (form : ArgumentForm) :
    form.text.trim = form.text := by
  cases form with
  | null =>
      exact Text.trim_of_not_blank (Text.forall_mem_of_all rfl)
  | out =>
      decide
  | quoted quote content opens closesFirst =>
      have ink : isBlank quote = false := by
        rw [← Bool.not_eq_true]
        intro blank
        rw [isQuote_of_isBlank blank] at opens
        cases opens
      exact Text.trim_cons_append_singleton ink ink content

/-- An argument is read as what it was written for. -/
theorem ofText_text
    (form : ArgumentForm) :
    Argument.ofText form.text = form.argument := by
  cases form with
  | null =>
      decide
  | out =>
      decide
  | quoted quote content opens closesFirst =>
      have unlettered : quote.isAlpha = false := by
        simp only [isQuote, Bool.or_eq_true, beq_iff_eq] at opens
        rcases opens with (rfl | rfl) | rfl <;> decide
      rw [text, Argument.ofText_of_unlettered unlettered,
        Argument.dequote_quoted opens closesFirst]
      rfl

theorem nested_textAll
    (forms : List ArgumentForm) :
    Nested (textAll forms) := by
  have separates : Nested ", ".toList :=
    (Balanced.ofPlain (Text.forall_mem_of_all rfl)).nested
  refine separates.join fun part isMember => ?_
  obtain ⟨form, -, rfl⟩ := List.mem_map.mp isMember
  exact form.nested

/-- An argument list is read as the arguments it was written for. -/
theorem parseAll_textAll
    (forms : List ArgumentForm) :
    Argument.parseAll (textAll forms) = .ok (forms.map argument) := by
  cases forms with
  | nil =>
      rfl
  | cons first others =>
      have kept : ∀ piece ∈ (first :: others).map text, KeptByCommas piece := by
        intro piece isMember
        obtain ⟨form, -, rfl⟩ := List.mem_map.mp isMember
        exact form.kept
      have some : Text.join ", " ((first :: others).map text) ≠ [] :=
        Text.join_ne_nil ", " List.mem_cons_self first.text_ne_nil
      have read := Argument.parseAll_join kept some
      rw [← List.map_cons, List.map_map] at read
      simpa [textAll, Function.comp_def, trim_text, ofText_text] using read

end ArgumentForm

/-- A member of a chain, with its argument list if it has one. -/
structure MemberForm where
  name : Text
  arguments : Option (List ArgumentForm)
  named :
    name.isName = true

namespace MemberForm

/-- The member as it is written. -/
def text
    (member : MemberForm) :
    Text :=
  match member.arguments with
  | none => member.name
  | some forms => member.name ++ '(' :: (ArgumentForm.textAll forms ++ [')'])

/-- How the member is written. -/
def kind
    (member : MemberForm) :
    MemberKind :=
  if member.arguments.isSome then .method else .property

/-- What the arguments of the member are read as. -/
def argumentList
    (member : MemberForm) :
    List Argument :=
  (member.arguments.getD []).map ArgumentForm.argument

/-- Members as they are written behind a link. -/
def textBehind
    (members : List MemberForm) :
    Text :=
  members.flatMap fun member => '.' :: member.text

theorem textBehind_cons
    (member : MemberForm)
    (behind : List MemberForm) :
    textBehind (member :: behind) = '.' :: (member.text ++ textBehind behind) := by
  simp [textBehind]

theorem text_ne_nil
    (member : MemberForm) :
    member.text ≠ [] := by
  have some := Text.ne_nil_of_isName member.named
  cases noted : member.arguments <;> simp [text, noted, some]

theorem ink_of_mem_getLast?
    (member : MemberForm) :
    ∀ c ∈ member.text.getLast?, isBlank c = false := by
  intro c isLast
  rcases noted : member.arguments with - | forms
  · rw [text, noted] at isLast
    have inName := List.mem_of_mem_getLast? isLast
    exact Text.isBlank_of_isNameContinue (Text.continues_of_isName member.named c inName)
  · have shape :
        member.text = member.name ++ '(' :: ArgumentForm.textAll forms ++ [')'] := by
      simp [text, noted]
    rw [shape, List.getLast?_concat, Option.mem_some_iff] at isLast
    subst isLast
    rfl

/-- A text that ends with members has no blank at its end. -/
theorem ink_of_mem_getLast?_append
    (front : Text)
    (member : MemberForm)
    (behind : List MemberForm) :
    ∀ c ∈ (front ++ (member.text ++ textBehind behind)).getLast?, isBlank c = false := by
  induction behind generalizing front member with
  | nil =>
      have ends : (front ++ (member.text ++ textBehind [])).getLast? = member.text.getLast? := by
        simp [textBehind, List.getLast?_append, List.getLast?_eq_some_getLast member.text_ne_nil]
      rw [ends]
      exact member.ink_of_mem_getLast?
  | cons second behind inductionHypothesis =>
      have later := inductionHypothesis (front ++ member.text ++ ['.']) second
      have shape :
          front ++ (member.text ++ textBehind (second :: behind)) =
            front ++ member.text ++ ['.'] ++ (second.text ++ textBehind behind) := by
        simp [textBehind_cons]
      rwa [shape]

theorem trim_textBehind
    (members : List MemberForm) :
    (textBehind members).trim = textBehind members := by
  cases members with
  | nil =>
      rfl
  | cons member behind =>
      rw [Text.trim_eq_self_iff, textBehind_cons]
      constructor
      · simp [isBlank]
      · exact ink_of_mem_getLast?_append ['.'] member behind

/-- Behind a member the chain goes on, or it ends. -/
theorem mayContinue_textBehind
    (members : List MemberForm) :
    CallLink.mayContinue (textBehind members) = true := by
  cases members with
  | nil =>
      rfl
  | cons member behind =>
      rw [textBehind_cons]
      rfl

/-- What is read from the member, and what it leaves. -/
def written
    (member : MemberForm)
    (behind : List MemberForm) :
    WrittenMember :=
  { name := member.name
    kind := member.kind
    arguments := member.argumentList
    remainder := textBehind behind }

/-- A name is read up to the next link. -/
theorem readProperty_append
    {name : Text}
    (named : name.isName = true)
    (behind : List MemberForm) :
    CallLink.readProperty (name ++ textBehind behind) =
      { name, kind := .property, arguments := [], remainder := textBehind behind } := by
  have inName : ∀ c ∈ name, (c != '.' && c != '[') = true := by
    intro c isMember
    have continues := Text.continues_of_isName named c isMember
    simp [Text.ne_of_isNameContinue continues (show Text.isNameContinue '.' = false by decide),
      Text.ne_of_isNameContinue continues (show Text.isNameContinue '[' = false by decide)]
  have stops :
      (textBehind behind).takeWhile (fun c => c != '.' && c != '[') = [] ∧
        (textBehind behind).dropWhile (fun c => c != '.' && c != '[') = textBehind behind := by
    cases behind with
    | nil =>
        exact ⟨rfl, rfl⟩
    | cons member behind =>
        rw [textBehind_cons]
        exact ⟨rfl, rfl⟩
  rw [CallLink.readProperty, List.takeWhile_append_of_pos inName,
    List.dropWhile_append_of_pos inName, stops.1, stops.2, List.append_nil,
    Text.trim_of_isName named, trim_textBehind]

theorem noOpen
    (member : MemberForm) :
    ∀ c ∈ member.name, (c != '(') = true := by
  intro c isMember
  have continues := Text.continues_of_isName member.named c isMember
  simp [Text.ne_of_isNameContinue continues (show Text.isNameContinue '(' = false by decide)]

/-- The name of a member stands in front of the first parenthesis. -/
theorem takeWhile_text_ne_nil
    (member : MemberForm)
    (behind : List MemberForm) :
    (member.text ++ textBehind behind).takeWhile (· != '(') ≠ [] := by
  have some := Text.ne_nil_of_isName member.named
  rcases noted : member.arguments with - | forms <;>
    simp [text, noted, List.takeWhile_append_of_pos member.noOpen, some]

/-- A member is read from a chain, whether the next parenthesis is its own or not. -/
theorem readMember_text
    (member : MemberForm)
    (behind : List MemberForm) :
    CallLink.readMember
        ((member.text ++ textBehind behind).takeWhile (· != '('))
        ((member.text ++ textBehind behind).dropWhile (· != '(')) =
      .ok (member.written behind) := by
  have noOpen := member.noOpen
  rcases noted : member.arguments with - | forms
  · have shape : member.text = member.name := by
      simp [text, noted]
    -- Either there is no parenthesis left, or a point stands before it.
    have isProperty :
        (((member.name ++ textBehind behind).dropWhile (· != '(')).isEmpty ||
          ((member.name ++ textBehind behind).takeWhile (· != '(')).contains '.') = true := by
      rw [List.takeWhile_append_of_pos noOpen, List.dropWhile_append_of_pos noOpen]
      cases behind with
      | nil =>
          rfl
      | cons second behind =>
          simp [textBehind_cons]
    have named : member.name.isEmpty = false := by
      simp [Text.ne_nil_of_isName member.named]
    rw [shape, CallLink.readMember, isProperty, List.takeWhile_append_dropWhile,
      readProperty_append member.named]
    simp [bind, Except.bind, pure, Except.pure, named, mayContinue_textBehind, written, kind,
      argumentList, noted]
  · have shape :
        member.text ++ textBehind behind =
          member.name ++ '(' :: (ArgumentForm.textAll forms ++ ')' :: textBehind behind) := by
      simp [text, noted]
    have goesOn : CallLink.mayContinue (textBehind behind).trim = true := by
      rw [trim_textBehind]
      exact mayContinue_textBehind behind
    have method :=
      CallLink.readMember_method member.named (ArgumentForm.nested_textAll forms)
        (ArgumentForm.parseAll_textAll forms) goesOn
    rw [shape, List.takeWhile_append_of_pos noOpen, List.dropWhile_append_of_pos noOpen]
    simp only [List.takeWhile_cons, List.dropWhile_cons, bne_self_eq_false, Bool.false_eq_true,
      if_false, List.append_nil, method, trim_textBehind]
    simp [written, kind, argumentList, noted]

end MemberForm

/-- A link on a property or on a result is read as its member is. -/
theorem CallLink.readTrimmed_at_point
    {chained : Bool}
    {receiver : Text}
    (receives : chained = true ∨ receiver.isName = true)
    (noPoint : ∀ c ∈ receiver, (c == '.') = false)
    {expression front parens : Text}
    (begins : ∀ c ∈ expression.head?, c ≠ '[' ∧ isBlank c = false)
    (before : expression.takeWhile (· != '(') = receiver ++ '.' :: front)
    (behind : expression.dropWhile (· != '(') = parens) :
    readTrimmed chained expression =
      (readMember front parens).map
        (ofMember expression (if chained then .result else .property receiver)) := by
  have frontBegins : ∀ c ∈ (receiver ++ '.' :: front).head?, c ≠ '[' ∧ isBlank c = false := by
    intro c isHead
    rw [← before, List.head?_takeWhile, Option.mem_def, Option.filter_eq_some_iff] at isHead
    exact begins c isHead.1
  have noBracket : (expression.head? == some '[') = false := by
    rw [beq_eq_false_iff_ne]
    intro isBracket
    exact (begins '[' isBracket).1 rfl
  have noBracketBefore : ((receiver ++ '.' :: front).head? == some '[') = false := by
    rw [beq_eq_false_iff_ne]
    intro isBracket
    exact (frontBegins '[' isBracket).1 rfl
  have ink : (Text.trim (receiver ++ '.' :: front)).isEmpty = false := by
    cases receiver with
    | nil =>
        simpa using Text.trim_cons_ne_nil (show isBlank '.' = false by decide) front
    | cons first rest =>
        have firstInk := (frontBegins first rfl).2
        simpa using Text.trim_cons_ne_nil firstInk (rest ++ '.' :: front)
  have isPoint : ('.' == '.') = true :=
    rfl
  have cut := Text.breakAt?_append_cons noPoint isPoint front
  rw [readTrimmed, before, behind, ink, noBracketBefore, noBracket, cut]
  rcases receives with rfl | named
  · simp
  · simp [named, Text.trim_of_isName named]

/-- A link on a property or on a result is read if its member is. -/
theorem CallLink.readTrimmed_of_point
    {chained : Bool}
    {receiver : Text}
    (receives : chained = true ∨ receiver.isName = true)
    (noPoint : ∀ c ∈ receiver, (c == '.') = false)
    {expression front parens : Text}
    (begins : ∀ c ∈ expression.head?, c ≠ '[' ∧ isBlank c = false)
    (before : expression.takeWhile (· != '(') = receiver ++ '.' :: front)
    (behind : expression.dropWhile (· != '(') = parens)
    {member : WrittenMember}
    (memberRead : readMember front parens = .ok member) :
    readTrimmed chained expression =
      .ok (ofMember expression (if chained then .result else .property receiver) member) := by
  rw [readTrimmed_at_point receives noPoint begins before behind, memberRead]
  rfl

/-- The dotted name of a type: names with points between them. -/
structure DottedName where
  first : Text
  others : List Text
  named :
    ∀ part ∈ first :: others, part.isName = true

namespace DottedName

/-- The dotted name as it is written. -/
def text
    (dotted : DottedName) :
    Text :=
  Text.join "." (dotted.first :: dotted.others)

theorem mem_text
    (dotted : DottedName) :
    ∀ c ∈ dotted.text, c = '.' ∨ Text.isNameContinue c = true := by
  intro c isMember
  rcases Text.mem_of_mem_join isMember with inSeparator | ⟨part, isPart, inPart⟩
  · exact .inl (by simpa using inSeparator)
  · exact .inr (Text.continues_of_isName (dotted.named part isPart) c inPart)

theorem typeNamed
    (dotted : DottedName) :
    CallLink.TypeNamed dotted.text := by
  have absent :
      ∀ c, c ≠ '.' → Text.isNameContinue c = false → c ∉ dotted.text := by
    intro c noPoint stops isMember
    rcases dotted.mem_text c isMember with isPoint | continues
    · exact noPoint isPoint
    · rw [continues] at stops
      cases stops
  constructor
  case some =>
    have firstNamed := dotted.named dotted.first List.mem_cons_self
    exact Text.join_ne_nil "." List.mem_cons_self (Text.ne_nil_of_isName firstNamed)
  case trimmed =>
    refine Text.trim_of_not_blank fun c isMember => ?_
    rcases dotted.mem_text c isMember with rfl | continues
    · rfl
    · exact Text.isBlank_of_isNameContinue continues
  case noOpen =>
    exact absent '(' (by decide) (by decide)
  case noBracket =>
    exact absent ']' (by decide) (by decide)

end DottedName

/-- What the first member of a chain is called on. -/
inductive CallHead where
  | type (name : DottedName)
  | property (name : Text)
      (named : name.isName = true)
  | result

namespace CallHead

/-- The head as it is written, with what joins it to its member. -/
def text : CallHead → Text
  | .type name => '[' :: (name.text ++ ']' :: ':' :: ':' :: [])
  | .property name _ => name ++ ['.']
  | .result => ['.']

/-- The target that is read. -/
def target : CallHead → CallTarget
  | .type name => .type name.text
  | .property name _ => .property name
  | .result => .result

/-- A result is there only behind a link. -/
def chained : CallHead → Bool
  | .type _ | .property _ _ => false
  | .result => true

theorem noOpen
    (head : CallHead) :
    ∀ c ∈ head.text, (c != '(') = true := by
  intro c isMember
  rw [bne_iff_ne]
  rintro rfl
  cases head with
  | type name =>
      simp [text, name.typeNamed.noOpen] at isMember
  | property name named =>
      simp [text, Text.not_mem_of_isName named (show Text.isNameContinue '(' = false by decide)]
        at isMember
  | result =>
      simp [text] at isMember

theorem ink_of_mem_head?
    (head : CallHead)
    (rest : Text) :
    ∀ c ∈ (head.text ++ rest).head?, isBlank c = false := by
  intro c isHead
  cases head with
  | type name =>
      cases isHead
      rfl
  | property name named =>
      obtain ⟨first, tail, rfl, starts, -⟩ := Text.exists_cons_of_isName named
      cases isHead
      exact Text.isBlank_of_isNameContinue (Text.isNameContinue_of_isNameStart starts)
  | result =>
      cases isHead
      rfl

/-- The link that a head and its member are. -/
def link
    (head : CallHead)
    (member : MemberForm)
    (behind : List MemberForm) :
    CallLink :=
  .ofMember (head.text ++ (member.text ++ MemberForm.textBehind behind)) head.target
    (member.written behind)

/-- The member of a head is read, up to the next link of the chain. -/
theorem read_text
    (head : CallHead)
    (member : MemberForm)
    (behind : List MemberForm) :
    CallLink.read head.chained (head.text ++ (member.text ++ MemberForm.textBehind behind)) =
      .ok (head.link member behind) := by
  have trimmed :
      (head.text ++ (member.text ++ MemberForm.textBehind behind)).trim =
        head.text ++ (member.text ++ MemberForm.textBehind behind) :=
    Text.trim_eq_self_iff.mpr
      ⟨head.ink_of_mem_head? _, member.ink_of_mem_getLast?_append head.text behind⟩
  have before :
      (head.text ++ (member.text ++ MemberForm.textBehind behind)).takeWhile (· != '(') =
        head.text ++ (member.text ++ MemberForm.textBehind behind).takeWhile (· != '(') :=
    List.takeWhile_append_of_pos head.noOpen
  have after :
      (head.text ++ (member.text ++ MemberForm.textBehind behind)).dropWhile (· != '(') =
        (member.text ++ MemberForm.textBehind behind).dropWhile (· != '(') :=
    List.dropWhile_append_of_pos head.noOpen
  have memberRead := member.readMember_text behind
  rw [CallLink.read, trimmed]
  cases head with
  | type name =>
      refine CallLink.readTrimmed_of_static name.typeNamed ?_ after
        (member.takeWhile_text_ne_nil behind) memberRead
      simpa [text] using before
  | property name named =>
      have noPoint : ∀ c ∈ name, (c == '.') = false := by
        intro c isMember
        have continues := Text.continues_of_isName named c isMember
        simp [Text.ne_of_isNameContinue continues (show Text.isNameContinue '.' = false by decide)]
      refine CallLink.readTrimmed_of_point (.inr named) noPoint ?_ ?_ after memberRead
      · obtain ⟨first, tail, rfl, starts, -⟩ := Text.exists_cons_of_isName named
        rintro c ⟨⟩
        refine ⟨?_, Text.isBlank_of_isNameContinue (Text.isNameContinue_of_isNameStart starts)⟩
        rintro rfl
        cases starts
      · simpa [text] using before
  | result =>
      have noPoint : ∀ c ∈ ([] : Text), (c == '.') = false :=
        List.forall_mem_nil _
      refine CallLink.readTrimmed_of_point (.inl rfl) noPoint ?_ before after memberRead
      rintro c ⟨⟩
      exact ⟨by decide, rfl⟩

end CallHead

/-- What a link says, without the text it stands in. -/
structure CallStep where
  target : CallTarget
  name : Text
  kind : MemberKind
  arguments : List Argument

namespace CallLink

/-- What the link says. -/
def step
    (link : CallLink) :
    CallStep :=
  { target := link.target
    name := link.name
    kind := link.kind
    arguments := link.arguments }

theorem within_of_extract
    {location : Location}
    {chained : Bool}
    {text : Text}
    {link : CallLink}
    (found : extract chained location text = .ok link) :
    link.Within text := by
  cases linkRead : read chained text with
  | error fault =>
      rw [extract, linkRead] at found
      cases found
  | ok first =>
      rw [extract, linkRead] at found
      cases found
      exact read_within linkRead

/-- Extract one link after the other, until nothing is left to be read. -/
def extractAll
    (location : Location)
    (chained : Bool)
    (text : Text) :
    Except ExpandError (List CallLink) :=
  match _found : extract chained location text with
  | .error error => .error error
  | .ok link =>
      if link.remainder.isEmpty then
        .ok [link]
      else
        (extractAll location true link.remainder).map (link :: ·)
termination_by text.length
decreasing_by exact (within_of_extract _found).1.2

theorem extractAll_of_extract
    {location : Location}
    {chained : Bool}
    {text : Text}
    {link : CallLink}
    (found : extract chained location text = .ok link) :
    extractAll location chained text =
      if link.remainder.isEmpty then
        .ok [link]
      else
        (extractAll location true link.remainder).map (link :: ·) := by
  rw [extractAll]
  split
  · rename_i failed
    rw [found] at failed
    cases failed
  · rename_i again
    rw [found] at again
    cases again
    rfl

end CallLink

/-- A call: what its first member is called on, the member, and the members behind it. -/
structure CallForm where
  head : CallHead
  first : MemberForm
  others : List MemberForm

namespace CallForm

/-- The call as it is written. -/
def text
    (form : CallForm) :
    Text :=
  form.head.text ++ (form.first.text ++ MemberForm.textBehind form.others)

/-- What a member says when it is called on a target. -/
def stepOf
    (target : CallTarget)
    (member : MemberForm) :
    CallStep :=
  { target
    name := member.name
    kind := member.kind
    arguments := member.argumentList }

/-- What the call says: each member but the first is called on the result before it. -/
def steps
    (form : CallForm) :
    List CallStep :=
  stepOf form.head.target form.first :: form.others.map (stepOf .result)

/-- Extracting the links of a call gives back what it was written for, and leaves nothing. -/
theorem extractAll_text
    (form : CallForm)
    (location : Location) :
    ∃ links,
      CallLink.extractAll location form.head.chained form.text = .ok links ∧
        links.map CallLink.step = form.steps ∧
        (links.map (·.remainder)).getLast? = some [] := by
  obtain ⟨head, first, others⟩ := form
  -- What is left behind the first member is a call on its result.
  induction others generalizing head first with
  | nil =>
      have found :
          CallLink.extract head.chained location (text ⟨head, first, []⟩) =
            .ok (head.link first []) := by
        rw [CallLink.extract, text, head.read_text]
        rfl
      exact ⟨[head.link first []], CallLink.extractAll_of_extract found, rfl, rfl⟩
  | cons second others inductionHypothesis =>
      have found :
          CallLink.extract head.chained location (text ⟨head, first, second :: others⟩) =
            .ok (head.link first (second :: others)) := by
        rw [CallLink.extract, text, head.read_text]
        rfl
      have remains :
          (head.link first (second :: others)).remainder = text ⟨.result, second, others⟩ :=
        MemberForm.textBehind_cons second others
      obtain ⟨links, extracted, steps, ends⟩ := inductionHypothesis .result second
      have goesOn : (text ⟨.result, second, others⟩).isEmpty = false :=
        rfl
      refine ⟨head.link first (second :: others) :: links, ?_, ?_, ?_⟩
      · rw [CallLink.extractAll_of_extract found, remains, goesOn]
        rw [show CallHead.result.chained = true from rfl] at extracted
        simp [extracted, Except.map]
      · rw [List.map_cons, steps]
        rfl
      · rw [List.map_cons, List.getLast?_cons, ends]
        rfl

end CallForm

end RefExpand
