import RefExpand.Proofs.Scan.Balanced
import RefExpand.Proofs.Text.Name
import RefExpand.Template.Read

namespace RefExpand

/-!
# Reading templates, stretch by stretch

A stretch without dollar signs goes to the literal that a template begins with,
and a balanced body between `$(` and a parenthesis is one reference, whatever
follows. The body that is a name between blanks asks for the property of that name.
-/

namespace Text

theorem breakOn?_cons_of_ne
    {c d : Char}
    (differs : c ≠ d)
    (needle text : Text) :
    breakOn? (d :: needle) (c :: text) =
      (breakOn? (d :: needle) text).map fun (before, after) => (c :: before, after) := by
  have unfound : dropBeginning? (d :: needle) (c :: text) = none := by
    simp [dropBeginning?, Ne.symm differs]
  rw [breakOn?, unfound]

theorem breakOn?_reference
    (text : Text) :
    breakOn? "$(".toList ('$' :: '(' :: text) = some ([], text) := by
  simp [breakOn?, dropBeginning?]

theorem breakOn?_of_not_mem
    {text : Text}
    (absent : '$' ∉ text) :
    breakOn? "$(".toList text = none := by
  induction text with
  | nil =>
      rfl
  | cons c rest inductionHypothesis =>
      rw [List.mem_cons, not_or] at absent
      have later := inductionHypothesis absent.2
      have here := breakOn?_cons_of_ne (Ne.symm absent.1) ['('] rest
      change breakOn? "$(".toList (c :: rest) = (breakOn? "$(".toList rest).map _ at here
      rw [here, later]
      rfl

/-- A text is cut at the first reference behind a literal without one. -/
theorem breakOn?_append_reference
    {literal : Text}
    (unopened : holds "$(" literal = false)
    (rest : Text) :
    breakOn? "$(" (literal ++ '$' :: '(' :: rest) = some (literal, rest) := by
  induction literal with
  | nil =>
      exact breakOn?_reference rest
  | cons c literal inductionHypothesis =>
      rw [holds, Option.isSome_eq_false_iff, Option.isNone_iff_eq_none, breakOn?] at unopened
      split at unopened
      · cases unopened
      · rename_i notHere
        have unopenedLater : holds "$(" literal = false := by
          rw [holds, Option.map_eq_none_iff.mp unopened]
          rfl
        have notHereEither :
            dropBeginning? "$(" (c :: (literal ++ '$' :: '(' :: rest)) = none := by
          -- A dollar at the end of the literal is followed by a dollar, not by a parenthesis.
          cases literal with
          | nil =>
              simp [dropBeginning?]
          | cons d literal =>
              simpa [dropBeginning?] using notHere
        rw [List.cons_append, breakOn?, notHereEither, inductionHypothesis unopenedLater]
        rfl

end Text

namespace Segment

/-- Put a stretch in front of the first literal. -/
def prepend
    (front : Text) :
    List Segment → List Segment
  | .literal text :: rest => .literal (front ++ text) :: rest
  | segments => segments

theorem readAll_of_unopened
    {text : Text}
    (unopened : Text.breakOn? "$(" text = none) :
    readAll text = [.literal text] := by
  rw [readAll]
  split
  · rfl
  · rename_i opened
    rw [unopened] at opened
    cases opened

theorem readAll_of_unclosed
    {text before after : Text}
    (opened : Text.breakOn? "$(" text = some (before, after))
    (unclosed : closeParen? after = none) :
    readAll text = [.literal text] := by
  rw [readAll]
  split
  · rfl
  · rename_i openedHere
    rw [opened, Option.some.injEq, Prod.mk.injEq] at openedHere
    obtain ⟨rfl, rfl⟩ := openedHere
    split
    · rfl
    · rename_i closed
      rw [unclosed] at closed
      cases closed

/-- A reference that is opened and closed comes behind the text before it. -/
theorem readAll_of_closed
    {text before after : Text}
    {span : ClosedSpan}
    (opened : Text.breakOn? "$(" text = some (before, after))
    (closed : closeParen? after = some span) :
    readAll text =
      .literal before ::
        .reference ('$' :: '(' :: (span.inside ++ [')'])) (Request.read span.inside) ::
          readAll span.rest := by
  rw [readAll]
  split
  · rename_i unopened
    rw [opened] at unopened
    cases unopened
  · rename_i openedHere
    rw [opened, Option.some.injEq, Prod.mk.injEq] at openedHere
    obtain ⟨rfl, rfl⟩ := openedHere
    split
    · rename_i unclosed
      rw [closed] at unclosed
      cases unclosed
    · rename_i closedHere
      rw [closed, Option.some.injEq] at closedHere
      subst closedHere
      rfl

theorem readAll_eq_cons
    (text : Text) :
    ∃ first rest, readAll text = .literal first :: rest := by
  cases opened : Text.breakOn? "$(" text with
  | none =>
      exact ⟨_, _, readAll_of_unopened opened⟩
  | some parts =>
      cases closed : closeParen? parts.2 with
      | none =>
          exact ⟨_, _, readAll_of_unclosed opened closed⟩
      | some span =>
          exact ⟨_, _, readAll_of_closed opened closed⟩

theorem readAll_cons
    {c : Char}
    (other : c ≠ '$')
    (text : Text) :
    readAll (c :: text) = prepend [c] (readAll text) := by
  have here :
      Text.breakOn? "$(" (c :: text) =
        (Text.breakOn? "$(" text).map fun (before, after) => (c :: before, after) :=
    Text.breakOn?_cons_of_ne other ['('] text
  cases opened : Text.breakOn? "$(" text with
  | none =>
      rw [opened] at here
      rw [readAll_of_unopened here, readAll_of_unopened opened]
      rfl
  | some parts =>
      rw [opened] at here
      cases closed : closeParen? parts.2 with
      | none =>
          rw [readAll_of_unclosed here closed, readAll_of_unclosed opened closed]
          rfl
      | some span =>
          rw [readAll_of_closed here closed, readAll_of_closed opened closed]
          rfl

/-- A stretch without dollar signs goes to the first literal. -/
theorem readAll_append
    {front : Text}
    (noReference : '$' ∉ front)
    (text : Text) :
    readAll (front ++ text) = prepend front (readAll text) := by
  induction front with
  | nil =>
      obtain ⟨first, rest, shape⟩ := readAll_eq_cons text
      rw [List.nil_append, shape]
      rfl
  | cons c front inductionHypothesis =>
      rw [List.mem_cons, not_or] at noReference
      obtain ⟨first, rest, shape⟩ := readAll_eq_cons text
      rw [List.cons_append, readAll_cons (Ne.symm noReference.1),
        inductionHypothesis noReference.2, shape]
      rfl

/-- A literal and a reference with a balanced body come first, whatever follows. -/
theorem readAll_literal_reference
    {literal inside : Text}
    (unopened : Text.holds "$(" literal = false)
    (balanced : Balanced inside)
    (text : Text) :
    readAll (literal ++ '$' :: '(' :: (inside ++ ')' :: text)) =
      .literal literal ::
        .reference ('$' :: '(' :: (inside ++ [')'])) (Request.read inside) ::
          readAll text := by
  obtain ⟨span, closed, rfl, rfl⟩ := balanced.nested.closeParen? text
  exact readAll_of_closed (Text.breakOn?_append_reference unopened _) closed

/-- A balanced body is one reference, whatever follows. -/
theorem readAll_reference
    {inside : Text}
    (balanced : Balanced inside)
    (text : Text) :
    readAll ('$' :: '(' :: (inside ++ ')' :: text)) =
      .literal [] ::
        .reference ('$' :: '(' :: (inside ++ [')'])) (Request.read inside) ::
          readAll text := by
  have nothingBefore : Text.holds "$(" [] = false :=
    rfl
  exact readAll_literal_reference nothingBefore balanced text

end Segment

namespace Template

theorem read_of_not_mem
    {text : Text}
    (noReference : '$' ∉ text) :
    read text = .plain text := by
  have absent : Text.holds "$(" text = false := by
    rw [Text.holds, Text.breakOn?_of_not_mem noReference]
    rfl
  rw [read, absent]
  rfl

/-- A text that begins with a reference is read for its segments. -/
theorem read_reference
    (text : Text) :
    read ('$' :: '(' :: text) = .mixed (Segment.readAll ('$' :: '(' :: text)) := by
  have present : Text.holds "$(" ('$' :: '(' :: text) = true := by
    rw [Text.holds, Text.breakOn?_reference]
    rfl
  rw [read, present]
  rfl

end Template

namespace Text

/-- A text of one-byte characters is cut inside none of them. -/
theorem cutsCharacter_of_utf8Size
    {text : Text}
    (short : ∀ c ∈ text, c.utf8Size = 1)
    (offset : Nat) :
    cutsCharacter offset text = false := by
  have nowhere : ∀ start, charAround? offset start text = none := by
    induction text with
    | nil =>
        intro start
        rfl
    | cons c rest inductionHypothesis =>
        intro start
        have here := short c List.mem_cons_self
        have later :=
          inductionHypothesis (fun d isMember => short d (List.mem_cons_of_mem _ isMember))
            (start + c.utf8Size)
        rw [charAround?, later, here]
        split
        · rfl
        · split
          · omega
          · rfl
  rw [cutsCharacter, nowhere]
  rfl

/-- Behind enough one-byte characters no cut falls inside a character. -/
theorem cutsCharacter_append_of_utf8Size
    {front : Text}
    (short : ∀ c ∈ front, c.utf8Size = 1)
    {offset : Nat}
    (long : offset ≤ front.length)
    (rest : Text) :
    cutsCharacter offset (front ++ rest) = false := by
  have nowhere :
      ∀ start,
        offset ≤ start + front.length → charAround? offset start (front ++ rest) = none := by
    clear long
    induction front with
    | nil =>
        intro start reached
        have behind : offset ≤ start :=
          reached
        cases rest with
        | nil =>
            rfl
        | cons c rest =>
            rw [List.nil_append, charAround?, if_pos behind]
    | cons c front inductionHypothesis =>
        intro start reached
        have here := short c List.mem_cons_self
        have later :=
          inductionHypothesis (fun d isMember => short d (List.mem_cons_of_mem _ isMember))
        rw [List.length_cons] at reached
        rw [List.cons_append, charAround?, here]
        split
        · rfl
        · split
          · omega
          · exact later (start + 1) (by omega)
  rw [cutsCharacter, nowhere 0 (by omega)]
  rfl

theorem utf8Size_of_isNameContinue
    {c : Char}
    (continues : isNameContinue c = true) :
    c.utf8Size = 1 := by
  rw [isNameContinue_iff] at continues
  rw [Char.utf8Size_eq_one_iff, UInt32.le_iff_toNat_le]
  change c.toNat ≤ 127
  omega

end Text

namespace Template

/-- A body without a colon is no registry reference. -/
theorem namesRegistry_of_not_mem
    {body : Text}
    (noColon : ':' ∉ body) :
    namesRegistry body = false := by
  rw [← Bool.not_eq_true]
  intro isRegistry
  have inFront := Text.mem_of_sameName isRegistry (c := ':') (by decide) (by decide)
  exact noColon (List.mem_of_mem_take inFront)

/-- A body without a point is none of those that expand to nothing. -/
theorem emptyBodies_of_not_mem
    {body : Text}
    (noPoint : '.' ∉ body) :
    emptyBodies.any (Text.sameName body) = false := by
  have pointed : ∀ known ∈ emptyBodies, '.' ∈ known := by
    decide
  rw [List.any_eq_false]
  intro known isKnown same
  exact noPoint (Text.mem_of_sameName same (by decide) (pointed known isKnown))

end Template

namespace Request

/-- A body that is a name between blanks asks for the property of that name. -/
theorem read_of_trim
    {inside name : Text}
    (trimmed : inside.trim = name)
    (named : name.isName = true) :
    read inside = .property name := by
  have taken : Text.takeName name = (name, []) :=
    Text.takeName_of_isName named
  have whole : Text.cutsCharacter Template.registryWord.length name = false :=
    Text.cutsCharacter_of_utf8Size
      (fun c isMember =>
        Text.utf8Size_of_isNameContinue (Text.continues_of_isName named c isMember)) _
  have noRegistry : Template.namesRegistry name = false :=
    Template.namesRegistry_of_not_mem (Text.not_mem_of_isName named (by decide))
  have notEmptyBody : Template.emptyBodies.any (Text.sameName name) = false :=
    Template.emptyBodies_of_not_mem (Text.not_mem_of_isName named (by decide))
  obtain ⟨first, rest, shape, starts, -⟩ := Text.exists_cons_of_isName named
  have some : name.isEmpty = false := by
    rw [shape]
    rfl
  have noBracket : (name.head? == Option.some '[') = false := by
    rw [shape, List.head?_cons, beq_eq_false_iff_ne, ne_eq, Option.some.injEq]
    rintro rfl
    exact absurd starts (by decide)
  rw [read]
  simp only [trimmed, taken, whole, noRegistry, notEmptyBody, some, noBracket]
  simp [Template.goesOn]

theorem read_of_isName
    {name : Text}
    (named : name.isName = true) :
    read name = .property name :=
  read_of_trim (Text.trim_of_isName named) named

end Request

end RefExpand
