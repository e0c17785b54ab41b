import RefExpand.Text.Blank

namespace RefExpand

/-!
# Balanced text

Parentheses are counted while quoted spans shield what they hold. A quote is
one of three characters and ends at its next occurrence. The scanners walk the
text once, carrying the open quote and the depth.
-/

/-- A character that opens and closes a quoted span. -/
def isQuote (c : Char) : Bool :=
  c == '\'' || c == '`' || c == '"'

/-- The text up to a matching closing parenthesis and what stands after it. -/
structure ClosedSpan where
  inside : Text
  rest : Text
  /-- A point, square bracket or dollar stands outside quotes. -/
  mayCall : Bool
  /-- A colon stands outside quotes. -/
  mayNameRegistry : Bool
  deriving Repr, DecidableEq

namespace ClosedSpan

/-- Put a character in front of the inside. -/
def push (c : Char) (span : ClosedSpan) : ClosedSpan :=
  { span with inside := c :: span.inside }

/-- Put an unquoted character in front of the inside and note what it hints at. -/
def pushPlain (c : Char) (span : ClosedSpan) : ClosedSpan :=
  { span.push c with
    mayCall := span.mayCall || c == '.' || c == '[' || c == '$'
    mayNameRegistry := span.mayNameRegistry || c == ':' }

end ClosedSpan

/--
Find the parenthesis that closes the one before the text. `quote` is the open
quote, and `depth` counts the parentheses that were opened inside.
-/
def scanClose (quote : Option Char) (depth : Nat) : Text → Option ClosedSpan
  | [] => none
  | c :: rest =>
      match quote with
      | some q =>
          (scanClose (if c = q then none else some q) depth rest).map (·.push c)
      | none =>
          if isQuote c then
            (scanClose (some c) depth rest).map (·.push c)
          else if c = '(' then
            (scanClose none (depth + 1) rest).map (·.push c)
          else if c = ')' then
            match depth with
            | 0 => some { inside := [], rest, mayCall := false, mayNameRegistry := false }
            | depth + 1 => (scanClose none depth rest).map (·.push c)
          else
            (scanClose none depth rest).map (·.pushPlain c)

/-- The text up to the parenthesis that closes the one before it. -/
def closeParen? (text : Text) : Option ClosedSpan :=
  scanClose none 0 text

/-- An argument list in parentheses at the beginning of the text, and what stands after it. -/
def readParens? : Text → Option (Text × Text)
  | '(' :: rest => (closeParen? rest).map fun span => (span.inside, span.rest)
  | _ => none

theorem scanClose_eq_append
    {quote : Option Char} {depth : Nat} {text : Text} {span : ClosedSpan}
    (closed : scanClose quote depth text = some span) :
    text = span.inside ++ ')' :: span.rest := by
  induction text generalizing quote depth span with
  | nil => simp [scanClose] at closed
  | cons c rest inductionHypothesis =>
      cases quote with
      | some q =>
          simp only [scanClose, Option.map_eq_some_iff] at closed
          obtain ⟨inner, closedRest, rfl⟩ := closed
          simp [ClosedSpan.push, inductionHypothesis closedRest]
      | none =>
          simp only [scanClose] at closed
          split at closed
          · obtain ⟨inner, closedRest, rfl⟩ := Option.map_eq_some_iff.mp closed
            simp [ClosedSpan.push, inductionHypothesis closedRest]
          · split at closed
            · obtain ⟨inner, closedRest, rfl⟩ := Option.map_eq_some_iff.mp closed
              simp [ClosedSpan.push, inductionHypothesis closedRest]
            · split at closed
              · rename_i isClose
                subst isClose
                cases depth with
                | zero =>
                    simp only [Option.some.injEq] at closed
                    simp [← closed]
                | succ depth =>
                    obtain ⟨inner, closedRest, rfl⟩ := Option.map_eq_some_iff.mp closed
                    simp [ClosedSpan.push, inductionHypothesis closedRest]
              · obtain ⟨inner, closedRest, rfl⟩ := Option.map_eq_some_iff.mp closed
                simp [ClosedSpan.pushPlain, ClosedSpan.push, inductionHypothesis closedRest]

theorem closeParen?_eq_append
    {text : Text} {span : ClosedSpan} (closed : closeParen? text = some span) :
    text = span.inside ++ ')' :: span.rest :=
  scanClose_eq_append closed

theorem readParens?_eq_append
    {text inside rest : Text} (read : readParens? text = some (inside, rest)) :
    text = '(' :: (inside ++ ')' :: rest) := by
  match text with
  | [] => simp [readParens?] at read
  | c :: tail =>
      by_cases opens : c = '('
      · subst opens
        simp only [readParens?, Option.map_eq_some_iff, Prod.mk.injEq] at read
        obtain ⟨span, closed, rfl, rfl⟩ := read
        rw [closeParen?_eq_append closed]
      · simp [readParens?, opens] at read

/-- What is wrong with an argument list. -/
inductive SplitFault where
  | openParenthesis
  | openQuote
  deriving Repr, DecidableEq

/-- The wording of a fault in an argument list. -/
def SplitFault.message : SplitFault → Text
  | .openParenthesis => "mismatched parenthesis in argument list"
  | .openQuote => "mismatched quote in argument list"

/-- Where the comma splitter stands: outside, in a quoted span, or in a nested reference. -/
inductive CommaMode where
  | plain
  | quoted (quote : Char)
  | reference (depth : Nat) (quote : Option Char)
  deriving Repr, DecidableEq

/-- The mode after a character that neither splits nor opens a reference. -/
def CommaMode.after (mode : CommaMode) (c : Char) : CommaMode :=
  match mode with
  | .plain => if isQuote c then .quoted c else .plain
  | .quoted q => if c = q then .plain else .quoted q
  | .reference depth (some q) => .reference depth (if c = q then none else some q)
  | .reference depth none =>
      if isQuote c then .reference depth (some c)
      else if c = '(' then .reference (depth + 1) none
      else if c = ')' then
        match depth with
        | 0 => .plain
        | depth + 1 => .reference depth none
      else .reference depth none

/-- The first raw argument and the other ones, starting in a mode. -/
def cutCommas : CommaMode → Text → Except SplitFault (Text × List Text)
  | .plain, [] => .ok ([], [])
  | .quoted _, [] => .error .openQuote
  | .reference _ _, [] => .error .openParenthesis
  | .plain, '$' :: '(' :: rest =>
      (cutCommas (.reference 0 none) rest).map fun (piece, pieces) => ('$' :: '(' :: piece, pieces)
  | .plain, ',' :: rest =>
      (cutCommas .plain rest).map fun (piece, pieces) => ([], piece :: pieces)
  | mode, c :: rest =>
      (cutCommas (mode.after c) rest).map fun (piece, pieces) => (c :: piece, pieces)

/-- The trimmed arguments between commas that stand outside quotes and nested references. -/
def splitCommas (text : Text) : Except SplitFault (List Text) :=
  (cutCommas .plain text).map fun (piece, pieces) => (piece :: pieces).map Text.trim

end RefExpand
