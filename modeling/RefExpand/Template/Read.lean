import RefExpand.Template.Basic

namespace RefExpand

/-!
# Reading templates

A reference reaches from `$(` to the parenthesis that closes it; without one, the
rest of the text is literal. Its body is blank, a registry key, one of two bodies
that never have a value, a call, or a name, in this order. Whatever is read
further is a proper part of the text that is being read.
-/

namespace Template

/-- What a registry reference starts with. -/
def registryWord : Text := "Registry:"

/-- The bodies that expand to nothing. -/
def emptyBodies : List Text := ["Solutions.VSVersion", "Solutions.VSVersion8.0"]

/-- The body is a registry reference. -/
def namesRegistry (body : Text) : Bool :=
  Text.sameName (body.take registryWord.length) registryWord

/-- The body goes on behind its name with a member or an indexer. -/
def goesOn (rest : Text) : Bool :=
  rest.head? == some '.' || rest.head? == some '['

theorem length_of_reference
    {text before after : Text} {span : ClosedSpan}
    (opened : Text.breakOn? "$(" text = some (before, after))
    (closed : closeParen? after = some span) :
    span.inside.length < text.length ∧ span.rest.length < text.length := by
  have whole := Text.length_of_breakOn? opened
  rw [closeParen?_eq_append closed] at whole
  simp only [List.length_append, List.length_cons, String.length_toList] at whole
  constructor <;> omega

theorem length_of_name_rest (body : Text) :
    (Text.takeName body).2.length ≤ body.length := by
  have whole := congrArg List.length (Text.takeName_append body)
  simp only [List.length_append] at whole
  omega

end Template

mutual

/-- Read a text as a template. -/
def Template.read (text : Text) : Template :=
  if Text.holds "$(" text then .mixed (Segment.readAll text) else .plain text
termination_by (text.length, 3)

/-- Cut a text into literal stretches and references. -/
def Segment.readAll (text : Text) : List Segment :=
  match _opened : Text.breakOn? "$(" text with
  | none => [.literal text]
  | some (before, after) =>
      match _closed : closeParen? after with
      | none => [.literal text]
      | some span =>
          let written := '$' :: '(' :: (span.inside ++ [')'])
          .literal before :: .reference written (Request.read span.inside) ::
            Segment.readAll span.rest
termination_by (text.length, 2)
decreasing_by
  · exact Prod.Lex.left _ _ (Template.length_of_reference _opened _closed).1
  · exact Prod.Lex.left _ _ (Template.length_of_reference _opened _closed).2

/-- Read the body of a reference. -/
def Request.read (inside : Text) : Request :=
  let body := inside.trim
  let rest := (Text.takeName body).2
  if body.isEmpty then
    .nothing
  else if Text.cutsCharacter Template.registryWord.length body then
    .cutInside Template.registryWord.length body
  else if Template.namesRegistry body then
    .registry (Template.read (body.drop Template.registryWord.length))
  else if Template.emptyBodies.any (Text.sameName body) then
    .nothing
  else if rest.length < body.length && rest.head? == some '[' then
    .call (some (Text.takeName body).1) (CallChain.read true rest)
  else if body.head? == some '[' || Template.goesOn rest then
    match CallLink.read false body with
    | .error fault => .uncallable body fault
    | .ok link => .call link.receiverName? (CallChain.read false body)
  else if rest.isEmpty then
    .property body
  else
    .malformed body
termination_by (inside.length, 4)
decreasing_by
  all_goals
    have trimmed := Text.trim_length_le inside
    have nameRest := Template.length_of_name_rest inside.trim
    have dropped := List.length_drop (i := Template.registryWord.length) (l := inside.trim)
    rw [Prod.lex_def]
    omega

/-- Read the links of a call to the end of the text. -/
def CallChain.read (chained : Bool) (text : Text) : CallChain :=
  if text.isEmpty then
    .done
  else
    match _found : CallLink.read chained text with
    | .error fault => .broken fault
    | .ok link =>
        .link link
          (link.arguments.attach.map fun ⟨argument, _member⟩ =>
            match argument with
            | .null => .null
            | .out => .out
            | .text content => .template (Template.read content))
          (CallChain.read true link.remainder)
termination_by (text.length, 1)
decreasing_by
  · have within := (CallLink.read_within _found).2 content
      (List.mem_filterMap.mpr ⟨.text content, _member, rfl⟩)
    exact Prod.Lex.left _ _ within.2
  · exact Prod.Lex.left _ _ (CallLink.read_within _found).1.2

end

/-- Read the links of a call whose arguments stand for themselves. -/
def CallChain.readLiteral (chained : Bool) (text : Text) : CallChain :=
  if text.isEmpty then
    .done
  else
    match _found : CallLink.read chained text with
    | .error fault => .broken fault
    | .ok first =>
        .link first
          (first.arguments.map fun argument =>
            match argument with
            | .null => .null
            | .out => .out
            | .text content => .template (.plain content))
          (CallChain.readLiteral true first.remainder)
termination_by text.length
decreasing_by exact (CallLink.read_within _found).1.2

end RefExpand
