import RefExpand.Proofs.Scan.Balanced
import RefExpand.Proofs.Text.Escaping

namespace RefExpand

/-!
# Cutting an argument list at its commas

The comma cutter passes over a stretch without quotes, commas and dollar signs,
and over a whole reference, whatever commas stand inside it. Texts made of such
stretches are kept whole between two commas.
-/

/-- Put a stretch in front of the first piece, if the text can be cut. -/
def withFront
    (front : Text)
    (pieces : Except SplitFault (Text × List Text)) :
    Except SplitFault (Text × List Text) :=
  pieces.map fun (piece, others) => (front ++ piece, others)

theorem withFront_nil
    (pieces : Except SplitFault (Text × List Text)) :
    withFront [] pieces = pieces := by
  cases pieces <;> rfl

theorem withFront_withFront
    (first second : Text)
    (pieces : Except SplitFault (Text × List Text)) :
    withFront first (withFront second pieces) = withFront (first ++ second) pieces := by
  cases pieces <;> simp [withFront, Except.map]

/-- Inside a reference a character goes to the piece, whatever it is. -/
theorem cutCommas_reference_cons
    (depth : Nat)
    (quote : Option Char)
    (c : Char)
    (rest : Text) :
    cutCommas (.reference depth quote) (c :: rest) =
      withFront [c] (cutCommas ((CommaMode.reference depth quote).after c) rest) := by
  rw [cutCommas]
  · rfl
  · intro _ isPlain
    cases isPlain
  · intro isPlain
    cases isPlain

/-- Inside a quoted span a character goes to the piece, whatever it is. -/
theorem cutCommas_quoted_cons
    (quote c : Char)
    (rest : Text) :
    cutCommas (.quoted quote) (c :: rest) =
      withFront [c] (cutCommas ((CommaMode.quoted quote).after c) rest) := by
  rw [cutCommas]
  · rfl
  · intro _ isPlain
    cases isPlain
  · intro isPlain
    cases isPlain

/-- A character goes to the piece unless it may open a reference or cut. -/
theorem cutCommas_plain_cons_of_ne
    {c : Char}
    (noDollar : c ≠ '$')
    (noComma : c ≠ ',')
    (rest : Text) :
    cutCommas .plain (c :: rest) =
      withFront [c] (cutCommas (CommaMode.plain.after c) rest) := by
  rw [cutCommas]
  · rfl
  · intro _ _ isDollar
    exact absurd isDollar noDollar
  · intro _ isComma
    exact absurd isComma noComma

theorem cutCommas_plain_cons
    {c : Char}
    (noQuote : isQuote c = false)
    (noDollar : c ≠ '$')
    (noComma : c ≠ ',')
    (rest : Text) :
    cutCommas .plain (c :: rest) =
      withFront [c] (cutCommas .plain rest) := by
  have stays : CommaMode.plain.after c = .plain := by
    simp [CommaMode.after, noQuote]
  rw [cutCommas_plain_cons_of_ne noDollar noComma, stays]

/-- A dollar sign and an opening parenthesis open a reference. -/
theorem cutCommas_dollar_parenthesis
    (rest : Text) :
    cutCommas .plain ('$' :: '(' :: rest) =
      withFront ['$', '('] (cutCommas (.reference 0 none) rest) := by
  rw [cutCommas]
  rfl

/-- Inside a reference a quoted span goes to the piece, and the parentheses count again. -/
theorem cutCommas_reference_quoted
    {quote : Char}
    {body : Text}
    (closesFirst : quote ∉ body)
    (depth : Nat)
    (rest : Text) :
    cutCommas (.reference depth (some quote)) (body ++ quote :: rest) =
      withFront (body ++ [quote]) (cutCommas (.reference depth none) rest) := by
  induction body with
  | nil =>
      have closes :
          (CommaMode.reference depth (some quote)).after quote = .reference depth none := by
        simp [CommaMode.after]
      rw [List.nil_append, cutCommas_reference_cons, closes]
      rfl
  | cons c body inductionHypothesis =>
      rw [List.mem_cons, not_or] at closesFirst
      have stays :
          (CommaMode.reference depth (some quote)).after c = .reference depth (some quote) := by
        simp [CommaMode.after, Ne.symm closesFirst.1]
      rw [List.cons_append, cutCommas_reference_cons, stays,
        inductionHypothesis closesFirst.2, withFront_withFront]
      rfl

/-- Inside a reference a nested text goes to the piece, at the same depth. -/
theorem Nested.cutCommas_append
    {text : Text}
    (nested : Nested text)
    (depth : Nat)
    (rest : Text) :
    cutCommas (.reference depth none) (text ++ rest) =
      withFront text (cutCommas (.reference depth none) rest) := by
  -- On the derivation and not on the text: a closing parenthesis changes the depth.
  induction nested generalizing depth rest with
  | nil =>
      exact (withFront_nil _).symm
  | @plain c later noQuote noOpen noClose _ inductionHypothesis =>
      have stays :
          (CommaMode.reference depth none).after c = .reference depth none := by
        simp [CommaMode.after, noQuote, noOpen, noClose]
      rw [List.cons_append, cutCommas_reference_cons, stays, inductionHypothesis,
        withFront_withFront]
      rfl
  | @quoted quote body later opens closesFirst _ inductionHypothesis =>
      have enters :
          (CommaMode.reference depth none).after quote = .reference depth (some quote) := by
        simp [CommaMode.after, opens]
      rw [List.cons_append, List.append_assoc, List.cons_append, cutCommas_reference_cons,
        enters, cutCommas_reference_quoted closesFirst, inductionHypothesis]
      simp [withFront_withFront]
  | @parens inside later _ _ insideHypothesis laterHypothesis =>
      have opens :
          (CommaMode.reference depth none).after '(' = .reference (depth + 1) none :=
        rfl
      have closes :
          (CommaMode.reference (depth + 1) none).after ')' = .reference depth none :=
        rfl
      rw [List.cons_append, List.append_assoc, List.cons_append, cutCommas_reference_cons,
        opens, insideHypothesis, cutCommas_reference_cons, closes, laterHypothesis]
      simp [withFront_withFront]

/-- The comma cutter keeps the text whole, whatever follows. -/
def KeptByCommas
    (text : Text) :
    Prop :=
  ∀ rest,
    cutCommas .plain (text ++ rest) =
      withFront text (cutCommas .plain rest)

namespace KeptByCommas

/-- A text without quotes, dollar signs and commas is kept whole. -/
theorem ofPlain
    {text : Text}
    (plain : ∀ c ∈ text, isQuote c = false ∧ c ≠ '$' ∧ c ≠ ',') :
    KeptByCommas text := by
  intro rest
  induction text with
  | nil =>
      exact (withFront_nil _).symm
  | cons c later inductionHypothesis =>
      obtain ⟨noQuote, noDollar, noComma⟩ := plain c List.mem_cons_self
      have kept :=
        inductionHypothesis fun d isMember => plain d (List.mem_cons_of_mem _ isMember)
      rw [List.cons_append, cutCommas_plain_cons noQuote noDollar noComma, kept,
        withFront_withFront]
      rfl

theorem ofNameContinue
    {text : Text}
    (continues : ∀ c ∈ text, Text.isNameContinue c = true) :
    KeptByCommas text := by
  refine .ofPlain fun c isMember => ?_
  have continuesHere := continues c isMember
  exact
    ⟨isQuote_of_isNameContinue continuesHere,
      Text.ne_of_isNameContinue continuesHere (by decide),
      Text.ne_of_isNameContinue continuesHere (by decide)⟩

/-- A reference with a nested body is kept whole. -/
theorem ofNestedReference
    {inside : Text}
    (nested : Nested inside) :
    KeptByCommas ('$' :: '(' :: (inside ++ [')'])) := by
  intro rest
  have closes : (CommaMode.reference 0 none).after ')' = .plain :=
    rfl
  have shape :
      '$' :: '(' :: (inside ++ [')']) ++ rest = '$' :: '(' :: (inside ++ ')' :: rest) := by
    simp
  rw [shape, cutCommas_dollar_parenthesis, nested.cutCommas_append, cutCommas_reference_cons,
    closes]
  simp [withFront_withFront]

theorem ofReference
    {inside : Text}
    (balanced : Balanced inside) :
    KeptByCommas ('$' :: '(' :: (inside ++ [')'])) :=
  .ofNestedReference balanced.nested

/-- A quoted span is kept whole. -/
theorem ofQuoted
    {quote : Char}
    {body : Text}
    (opens : isQuote quote = true)
    (closesFirst : quote ∉ body) :
    KeptByCommas (quote :: (body ++ [quote])) := by
  intro rest
  have inside :
      cutCommas (.quoted quote) (body ++ quote :: rest) =
        withFront (body ++ [quote]) (cutCommas .plain rest) := by
    induction body with
    | nil =>
        have closes : (CommaMode.quoted quote).after quote = .plain := by
          simp [CommaMode.after]
        rw [List.nil_append, cutCommas_quoted_cons, closes]
        rfl
    | cons c body inductionHypothesis =>
        rw [List.mem_cons, not_or] at closesFirst
        have stays : (CommaMode.quoted quote).after c = .quoted quote := by
          simp [CommaMode.after, Ne.symm closesFirst.1]
        rw [List.cons_append, cutCommas_quoted_cons, stays, inductionHypothesis closesFirst.2,
          withFront_withFront]
        rfl
  have noDollar : quote ≠ '$' := by
    rintro rfl
    cases opens
  have noComma : quote ≠ ',' := by
    rintro rfl
    cases opens
  have enters : CommaMode.plain.after quote = .quoted quote := by
    simp [CommaMode.after, opens]
  have shape : quote :: (body ++ [quote]) ++ rest = quote :: (body ++ quote :: rest) := by
    simp
  rw [shape, cutCommas_plain_cons_of_ne noDollar noComma, enters, inside, withFront_withFront]
  simp

end KeptByCommas

@[simp] theorem withFront_isOk
    (front : Text)
    (pieces : Except SplitFault (Text × List Text)) :
    (withFront front pieces).isOk = pieces.isOk := by
  cases pieces <;> rfl

/-- A dollar sign before anything else goes to the piece. -/
theorem cutCommas_dollar
    {rest : Text}
    (opensNothing : rest.head? ≠ some '(') :
    cutCommas .plain ('$' :: rest) = withFront ['$'] (cutCommas .plain rest) := by
  rw [cutCommas]
  · rfl
  · rintro tail - - rfl
    simp at opensNothing
  · intro _ isComma
    cases isComma

theorem cutCommas_comma_isOk
    (rest : Text) :
    (cutCommas .plain (',' :: rest)).isOk = (cutCommas .plain rest).isOk := by
  rw [cutCommas]
  cases cutCommas .plain rest <;> rfl

/-- A character outside quotes that opens no reference does not decide whether a text is cut. -/
theorem cutCommas_plain_cons_isOk
    {c : Char}
    {rest : Text}
    (noQuote : isQuote c = false)
    (opensNothing : c = '$' → rest.head? ≠ some '(') :
    (cutCommas .plain (c :: rest)).isOk = (cutCommas .plain rest).isOk := by
  by_cases isComma : c = ','
  · rw [isComma, cutCommas_comma_isOk]
  · by_cases isDollar : c = '$'
    · rw [isDollar, cutCommas_dollar (opensNothing isDollar), withFront_isOk]
    · rw [cutCommas_plain_cons noQuote isDollar isComma, withFront_isOk]

/-- No text behind a nested one is left uncut on its account, with a dollar sign or not. -/
theorem Nested.cutCommas_isOk_append
    {text : Text}
    (nested : Nested text) :
    (∀ rest : Text, rest.head? ≠ some '(' → (cutCommas .plain rest).isOk = true →
      (cutCommas .plain (text ++ rest)).isOk = true) ∧
    (∀ rest : Text, rest.head? ≠ some '(' → (cutCommas .plain rest).isOk = true →
      text.head? = some '(' → (cutCommas .plain ('$' :: (text ++ rest))).isOk = true) := by
  -- A dollar sign changes how a parenthesis behind it is read: both readings are followed.
  induction nested with
  | nil =>
      exact ⟨fun _ _ cut => cut, fun _ _ _ starts => by cases starts⟩
  | @plain c later noQuote noOpen noClose _ inductionHypothesis =>
      refine ⟨?_, fun _ _ _ starts => absurd (by simpa using starts) noOpen⟩
      intro rest restOpens cut
      by_cases opens : c = '$' ∧ later.head? = some '('
      · obtain ⟨rfl, starts⟩ := opens
        exact inductionHypothesis.2 rest restOpens cut starts
      · have opensNothing : c = '$' → (later ++ rest).head? ≠ some '(' := by
          intro isDollar starts
          cases later with
          | nil =>
              exact restOpens starts
          | cons d later =>
              exact opens ⟨isDollar, starts⟩
        rw [List.cons_append, cutCommas_plain_cons_isOk noQuote opensNothing]
        exact inductionHypothesis.1 rest restOpens cut
  | @quoted quote body later opens closesFirst _ inductionHypothesis =>
      have noOpen : quote ≠ '(' := by
        rintro rfl
        cases opens
      refine ⟨?_, fun _ _ _ starts => absurd (by simpa using starts) noOpen⟩
      intro rest restOpens cut
      have shape :
          quote :: (body ++ quote :: later) ++ rest =
            quote :: (body ++ [quote]) ++ (later ++ rest) := by
        simp
      rw [shape, KeptByCommas.ofQuoted opens closesFirst, withFront_isOk]
      exact inductionHypothesis.1 rest restOpens cut
  | @parens inside later inner _ insideHypothesis laterHypothesis =>
      have shape :
          ∀ rest, '(' :: (inside ++ ')' :: later) ++ rest =
            '(' :: (inside ++ ')' :: (later ++ rest)) := by
        simp
      constructor
      · intro rest restOpens cut
        have cutLater := laterHypothesis.1 rest restOpens cut
        have cutClose : (cutCommas .plain (')' :: (later ++ rest))).isOk = true := by
          rwa [cutCommas_plain_cons (by decide) (by decide) (by decide), withFront_isOk]
        rw [shape, cutCommas_plain_cons (by decide) (by decide) (by decide), withFront_isOk]
        exact insideHypothesis.1 _ (by simp) cutClose
      · intro rest restOpens cut _
        have reference : '$' :: ('(' :: (inside ++ ')' :: later) ++ rest) =
            '$' :: '(' :: (inside ++ [')']) ++ (later ++ rest) := by
          simp
        rw [reference, KeptByCommas.ofNestedReference inner, withFront_isOk]
        exact laterHypothesis.1 rest restOpens cut

/-- A nested text is cut at its commas without a fault. -/
theorem Nested.exists_splitCommas
    {text : Text}
    (nested : Nested text) :
    ∃ pieces, splitCommas text = .ok pieces := by
  have cut := nested.cutCommas_isOk_append.1 [] (by simp) rfl
  rw [List.append_nil] at cut
  rw [splitCommas]
  generalize cutCommas .plain text = found at cut
  cases found with
  | error fault =>
      cases cut
  | ok pieces =>
      exact ⟨_, rfl⟩

/-- Texts that are kept whole are cut where they were joined, and each but the first has a blank. -/
theorem cutCommas_join
    {first : Text}
    {others : List Text}
    (kept : ∀ piece ∈ first :: others, KeptByCommas piece) :
    cutCommas .plain (Text.join ", " (first :: others)) =
      .ok (first, others.map (' ' :: ·)) := by
  have nothing : cutCommas .plain [] = .ok ([], []) :=
    rfl
  induction others generalizing first with
  | nil =>
      have alone := kept first List.mem_cons_self []
      rw [List.append_nil, nothing] at alone
      simpa [Text.join, withFront, Except.map] using alone
  | cons second others inductionHypothesis =>
      have later :=
        inductionHypothesis fun piece isMember => kept piece (List.mem_cons_of_mem _ isMember)
      have atBlank :
          cutCommas .plain (' ' :: Text.join ", " (second :: others)) =
            .ok (' ' :: second, others.map (' ' :: ·)) := by
        rw [cutCommas_plain_cons (by decide) (by decide) (by decide), later]
        rfl
      have atComma :
          cutCommas .plain (',' :: ' ' :: Text.join ", " (second :: others)) =
            .ok ([], (second :: others).map (' ' :: ·)) := by
        rw [cutCommas, atBlank]
        rfl
      have shape :
          Text.join ", " (first :: second :: others) =
            first ++ ',' :: ' ' :: Text.join ", " (second :: others) := by
        simp [Text.join_cons_cons]
      rw [shape, kept first List.mem_cons_self, atComma]
      simp [Except.map, withFront]

/-- Texts that are kept whole, with a comma and a blank between them, are the arguments. -/
theorem splitCommas_join
    {first : Text}
    {others : List Text}
    (kept : ∀ piece ∈ first :: others, KeptByCommas piece) :
    splitCommas (Text.join ", " (first :: others)) = .ok ((first :: others).map Text.trim) := by
  rw [splitCommas, cutCommas_join kept]
  simp [Except.map, Text.trim_cons_of_isBlank (show isBlank ' ' = true by decide)]

end RefExpand
