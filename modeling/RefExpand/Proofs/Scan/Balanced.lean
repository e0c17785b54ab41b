import RefExpand.Proofs.Text.Name
import RefExpand.Scan.Balanced

namespace RefExpand

/-!
# Balanced texts

A text is nested if its quoted spans are closed and its parentheses match
outside of them. The scanner that looks for a closing parenthesis passes over
such a text as a whole, and what it gives as the inside is always nested: the
argument lists are the nested texts in parentheses. A nested text without quotes
is balanced; there the scanner that looks for commas does not look inside.
-/

theorem isQuote_of_isNameContinue
    {c : Char}
    (continues : Text.isNameContinue c = true) :
    isQuote c = false := by
  rw [← Bool.not_eq_true]
  intro quoted
  simp only [isQuote, Bool.or_eq_true, beq_iff_eq] at quoted
  rcases quoted with (rfl | rfl) | rfl
  all_goals cases continues

theorem isQuote_of_isBlank
    {c : Char}
    (blank : isBlank c = true) :
    isQuote c = false := by
  rw [← Bool.not_eq_true]
  intro quoted
  simp only [isQuote, Bool.or_eq_true, beq_iff_eq] at quoted
  rcases quoted with (rfl | rfl) | rfl
  all_goals cases blank

/-- What a span encloses, and what follows it. -/
def ClosedSpan.parts
    (span : ClosedSpan) :
    Text × Text :=
  (span.inside, span.rest)

/-- A text whose quoted spans are closed and whose parentheses match outside of them. -/
inductive Nested : Text → Prop where
  | nil : Nested []
  | plain {c : Char} {rest : Text}
      (noQuote : isQuote c = false)
      (noOpen : c ≠ '(')
      (noClose : c ≠ ')')
      (later : Nested rest) :
      Nested (c :: rest)
  | quoted {quote : Char} {body rest : Text}
      (opens : isQuote quote = true)
      (closesFirst : quote ∉ body)
      (later : Nested rest) :
      Nested (quote :: (body ++ quote :: rest))
  | parens {inside rest : Text}
      (inner : Nested inside)
      (later : Nested rest) :
      Nested ('(' :: (inside ++ ')' :: rest))

/-- The scanner goes on behind the quote that closes the open one. -/
theorem scanClose_quoted
    {quote : Char}
    {body : Text}
    (closesFirst : quote ∉ body)
    (depth : Nat)
    (rest : Text) :
    (scanClose (some quote) depth (body ++ quote :: rest)).map (·.parts) =
      (scanClose none depth rest).map fun span => (body ++ quote :: span.inside, span.rest) := by
  induction body with
  | nil =>
      rw [List.nil_append, scanClose, if_pos rfl, Option.map_map]
      rfl
  | cons c body inductionHypothesis =>
      rw [List.mem_cons, not_or] at closesFirst
      rw [List.cons_append, scanClose, if_neg (Ne.symm closesFirst.1), Option.map_map]
      have later := inductionHypothesis closesFirst.2
      generalize scanClose (some quote) depth (body ++ quote :: rest) = found at later
      generalize scanClose none depth rest = wanted at later
      cases found <;> cases wanted <;> simp_all [ClosedSpan.parts, ClosedSpan.push]

namespace Nested

theorem append
    {first second : Text}
    (nested : Nested first)
    (later : Nested second) :
    Nested (first ++ second) := by
  induction nested with
  | nil =>
      exact later
  | plain noQuote noOpen noClose _ inductionHypothesis =>
      exact .plain noQuote noOpen noClose inductionHypothesis
  | quoted opens closesFirst _ inductionHypothesis =>
      rw [List.cons_append, List.append_assoc, List.cons_append]
      exact .quoted opens closesFirst inductionHypothesis
  | parens inner _ _ inductionHypothesis =>
      rw [List.cons_append, List.append_assoc, List.cons_append]
      exact .parens inner inductionHypothesis

/-- The search for the closing parenthesis goes on behind a nested text, at the same depth. -/
theorem scanClose_append
    {text : Text}
    (nested : Nested text)
    (depth : Nat)
    (rest : Text) :
    (scanClose none depth (text ++ rest)).map (·.parts) =
      (scanClose none depth rest).map fun span => (text ++ span.inside, span.rest) := by
  -- The depth varies: inside a pair of parentheses the same holds one level deeper.
  induction nested generalizing depth rest with
  | nil =>
      rfl
  | @plain c later noQuote noOpen noClose _ inductionHypothesis =>
      have here :
          scanClose none depth (c :: (later ++ rest)) =
            (scanClose none depth (later ++ rest)).map (·.pushPlain c) := by
        simp [scanClose, noQuote, noOpen, noClose]
      have goesOn := inductionHypothesis depth rest
      rw [List.cons_append, here, Option.map_map]
      generalize scanClose none depth (later ++ rest) = found at goesOn
      generalize scanClose none depth rest = wanted at goesOn
      cases found <;> cases wanted <;>
        simp_all [ClosedSpan.parts, ClosedSpan.pushPlain, ClosedSpan.push]
  | @quoted quote body later opens closesFirst _ inductionHypothesis =>
      have shape :
          quote :: (body ++ quote :: later) ++ rest =
            quote :: (body ++ quote :: (later ++ rest)) := by
        simp
      have here :
          scanClose none depth (quote :: (body ++ quote :: (later ++ rest))) =
            (scanClose (some quote) depth (body ++ quote :: (later ++ rest))).map
              (·.push quote) := by
        simp [scanClose, opens]
      have behindQuote := scanClose_quoted closesFirst depth (later ++ rest)
      have goesOn := inductionHypothesis depth rest
      rw [shape, here, Option.map_map]
      generalize
        scanClose (some quote) depth (body ++ quote :: (later ++ rest)) = outer at behindQuote
      generalize scanClose none depth (later ++ rest) = middle at behindQuote goesOn
      generalize scanClose none depth rest = wanted at goesOn
      cases outer <;> cases middle <;> cases wanted <;>
        simp_all [ClosedSpan.parts, ClosedSpan.push]
  | @parens inside later _ _ insideHypothesis laterHypothesis =>
      have opens :
          scanClose none depth ('(' :: (inside ++ ')' :: (later ++ rest))) =
            (scanClose none (depth + 1) (inside ++ ')' :: (later ++ rest))).map
              (·.push '(') := by
        simp [scanClose, isQuote]
      have closes :
          scanClose none (depth + 1) (')' :: (later ++ rest)) =
            (scanClose none depth (later ++ rest)).map (·.push ')') := by
        simp [scanClose, isQuote]
      have insideGoesOn := insideHypothesis (depth + 1) (')' :: (later ++ rest))
      have laterGoesOn := laterHypothesis depth rest
      rw [closes, Option.map_map] at insideGoesOn
      have shape :
          '(' :: (inside ++ ')' :: later) ++ rest =
            '(' :: (inside ++ ')' :: (later ++ rest)) := by
        simp
      rw [shape, opens, Option.map_map]
      generalize
        scanClose none (depth + 1) (inside ++ ')' :: (later ++ rest)) = outer at insideGoesOn
      generalize scanClose none depth (later ++ rest) = middle at insideGoesOn laterGoesOn
      generalize scanClose none depth rest = wanted at laterGoesOn
      cases outer <;> cases middle <;> cases wanted <;>
        simp_all [ClosedSpan.parts, ClosedSpan.push]

/-- The parenthesis behind a nested text closes the one before it. -/
theorem closeParen?
    {text : Text}
    (nested : Nested text)
    (rest : Text) :
    ∃ span,
      RefExpand.closeParen? (text ++ ')' :: rest) = some span ∧
        span.inside = text ∧ span.rest = rest := by
  have found := nested.scanClose_append 0 (')' :: rest)
  have here :
      scanClose none 0 (')' :: rest) =
        some { inside := [], rest, mayCall := false, mayNameRegistry := false } := by
    simp [scanClose, isQuote]
  rw [here, Option.map_some, List.append_nil, Option.map_eq_some_iff] at found
  obtain ⟨span, closed, spanParts⟩ := found
  rw [ClosedSpan.parts, Prod.mk.injEq] at spanParts
  exact ⟨span, closed, spanParts⟩

/-- A nested text in parentheses is an argument list. -/
theorem readParens?
    {text : Text}
    (nested : Nested text)
    (rest : Text) :
    RefExpand.readParens? ('(' :: (text ++ ')' :: rest)) = some (text, rest) := by
  obtain ⟨span, closed, inside, after⟩ := nested.closeParen? rest
  rw [RefExpand.readParens?, closed, Option.map_some, inside, after]

end Nested

/-- A text that closes so many parentheses opened before it, and is nested in between. -/
inductive Closes : Nat → Text → Prop where
  | nested {text : Text}
      (nested : Nested text) :
      Closes 0 text
  | close {depth : Nat} {front rest : Text}
      (nested : Nested front)
      (later : Closes depth rest) :
      Closes (depth + 1) (front ++ ')' :: rest)

namespace Closes

variable {depth : Nat} {text : Text}

theorem append
    {front : Text}
    (nested : Nested front)
    (closes : Closes depth text) :
    Closes depth (front ++ text) := by
  cases closes with
  | nested later =>
      exact .nested (nested.append later)
  | close between later =>
      rw [← List.append_assoc]
      exact .close (nested.append between) later

/-- The first parenthesis that is closed may be opened here. -/
theorem opening
    (closes : Closes (depth + 1) text) :
    Closes depth ('(' :: text) := by
  cases closes with
  | @close _ front rest between later =>
      have pair : Nested ('(' :: (front ++ [')'])) :=
        .parens between .nil
      have shape : '(' :: (front ++ ')' :: rest) = '(' :: (front ++ [')']) ++ rest := by
        simp
      rw [shape]
      exact later.append pair

end Closes

/-- The inside that is found closes as many parentheses as were open, behind the open quote. -/
theorem closes_of_scanClose
    {quote : Option Char}
    {depth : Nat}
    {text : Text}
    {span : ClosedSpan}
    (closed : scanClose quote depth text = some span) :
    match quote with
    | none => Closes depth span.inside
    | some q =>
        ∃ body back, span.inside = body ++ q :: back ∧ q ∉ body ∧ Closes depth back := by
  induction text generalizing quote depth span with
  | nil =>
      simp [scanClose] at closed
  | cons c rest inductionHypothesis =>
      cases quote with
      | some q =>
          simp only [scanClose, Option.map_eq_some_iff] at closed
          obtain ⟨inner, closedRest, rfl⟩ := closed
          split at closedRest
          · rename_i ends
            subst ends
            exact ⟨[], inner.inside, rfl, by simp, inductionHypothesis closedRest⟩
          · rename_i goesOn
            obtain ⟨body, back, shape, absent, closes⟩ := inductionHypothesis closedRest
            refine ⟨c :: body, back, by rw [ClosedSpan.push, shape]; rfl, ?_, closes⟩
            rw [List.mem_cons, not_or]
            exact ⟨Ne.symm goesOn, absent⟩
      | none =>
          simp only [scanClose] at closed
          split at closed
          · rename_i opens
            obtain ⟨inner, closedRest, rfl⟩ := Option.map_eq_some_iff.mp closed
            obtain ⟨body, back, shape, absent, closes⟩ := inductionHypothesis closedRest
            have span : Nested (c :: (body ++ [c])) :=
              .quoted opens absent .nil
            have whole : c :: inner.inside = c :: (body ++ [c]) ++ back := by
              rw [shape]
              simp
            dsimp only [ClosedSpan.push]
            rw [whole]
            exact closes.append span
          · rename_i noQuote
            split at closed
            · rename_i isOpen
              subst isOpen
              obtain ⟨inner, closedRest, rfl⟩ := Option.map_eq_some_iff.mp closed
              exact (inductionHypothesis closedRest).opening
            · rename_i noOpen
              split at closed
              · rename_i isClose
                subst isClose
                cases depth with
                | zero =>
                    cases closed
                    exact .nested .nil
                | succ depth =>
                    obtain ⟨inner, closedRest, rfl⟩ := Option.map_eq_some_iff.mp closed
                    exact .close .nil (inductionHypothesis closedRest)
              · rename_i noClose
                obtain ⟨inner, closedRest, rfl⟩ := Option.map_eq_some_iff.mp closed
                have plain : Nested [c] :=
                  .plain (Bool.not_eq_true _ ▸ noQuote) noOpen noClose .nil
                exact (inductionHypothesis closedRest).append plain

/-- What reaches to the parenthesis that closes it is nested. -/
theorem Nested.of_closeParen?
    {text : Text}
    {span : ClosedSpan}
    (closed : RefExpand.closeParen? text = some span) :
    Nested span.inside := by
  have closes := closes_of_scanClose closed
  dsimp only at closes
  cases closes with
  | nested nested =>
      exact nested

/-- A text is nested if a parenthesis behind it closes it as a whole. -/
theorem Nested.of_closes
    {text : Text}
    (closes : (RefExpand.closeParen? (text ++ [')'])).map (·.inside) = some text) :
    Nested text := by
  obtain ⟨span, closed, rfl⟩ := Option.map_eq_some_iff.mp closes
  exact .of_closeParen? closed

/-- The argument lists are the nested texts in parentheses. -/
theorem readParens?_eq_some_iff
    {text inside rest : Text} :
    readParens? text = some (inside, rest) ↔
      text = '(' :: (inside ++ ')' :: rest) ∧ Nested inside := by
  constructor
  · intro read
    have shape := readParens?_eq_append read
    refine ⟨shape, ?_⟩
    rw [shape, readParens?] at read
    obtain ⟨span, closed, spanParts⟩ := Option.map_eq_some_iff.mp read
    obtain ⟨rfl, -⟩ := Prod.mk.inj spanParts
    exact .of_closeParen? closed
  · rintro ⟨rfl, nested⟩
    exact nested.readParens? rest

/-- A text without quotes whose parentheses match. -/
inductive Balanced : Text → Prop where
  | nil : Balanced []
  | plain {c : Char} {rest : Text}
      (noQuote : isQuote c = false)
      (noOpen : c ≠ '(')
      (noClose : c ≠ ')')
      (later : Balanced rest) :
      Balanced (c :: rest)
  | parens {inside rest : Text}
      (inner : Balanced inside)
      (later : Balanced rest) :
      Balanced ('(' :: (inside ++ ')' :: rest))

namespace Balanced

theorem append
    {first second : Text}
    (balanced : Balanced first)
    (later : Balanced second) :
    Balanced (first ++ second) := by
  induction balanced with
  | nil =>
      exact later
  | plain noQuote noOpen noClose _ inductionHypothesis =>
      exact .plain noQuote noOpen noClose inductionHypothesis
  | parens inner _ _ inductionHypothesis =>
      rw [List.cons_append, List.append_assoc, List.cons_append]
      exact .parens inner inductionHypothesis

/-- A text without quotes and parentheses is balanced. -/
theorem ofPlain
    {text : Text}
    (plain : ∀ c ∈ text, isQuote c = false ∧ c ≠ '(' ∧ c ≠ ')') :
    Balanced text := by
  induction text with
  | nil =>
      exact .nil
  | cons c rest inductionHypothesis =>
      obtain ⟨noQuote, noOpen, noClose⟩ := plain c List.mem_cons_self
      exact .plain noQuote noOpen noClose
        (inductionHypothesis fun d isMember => plain d (List.mem_cons_of_mem _ isMember))

theorem ofNameContinue
    {text : Text}
    (continues : ∀ c ∈ text, Text.isNameContinue c = true) :
    Balanced text := by
  refine .ofPlain fun c isMember => ?_
  have continuesHere := continues c isMember
  exact
    ⟨isQuote_of_isNameContinue continuesHere,
      Text.ne_of_isNameContinue continuesHere (by decide),
      Text.ne_of_isNameContinue continuesHere (by decide)⟩

theorem ofBlanks
    {text : Text}
    (blank : ∀ c ∈ text, isBlank c = true) :
    Balanced text := by
  refine .ofPlain fun c isMember => ?_
  have blankHere := blank c isMember
  refine ⟨isQuote_of_isBlank blankHere, ?_, ?_⟩
  · rintro rfl
    cases blankHere
  · rintro rfl
    cases blankHere

theorem nested
    {text : Text}
    (balanced : Balanced text) :
    Nested text := by
  induction balanced with
  | nil =>
      exact .nil
  | plain noQuote noOpen noClose _ inductionHypothesis =>
      exact .plain noQuote noOpen noClose inductionHypothesis
  | parens _ _ insideHypothesis laterHypothesis =>
      exact .parens insideHypothesis laterHypothesis

end Balanced

end RefExpand
