import RefExpand.Proofs.Text.Blank
import RefExpand.Text.Escaping
import RefExpand.Text.ListSplit

namespace RefExpand

/-!
# Escaped text is opaque

Of the reserved characters only the percent sign occurs in escaped text, so
nothing that looks for the others finds anything there. Reading it back gives
the text that was escaped. Blanks at the ends are neither added nor removed, so
a list of escaped texts is cut where they were joined.
-/

namespace Text

@[simp] theorem escape_nil :
    escape [] = [] :=
  rfl

theorem escape_cons
    (c : Char)
    (text : Text) :
    escape (c :: text) = escapeChar c ++ escape text :=
  rfl

theorem isReserved_iff
    {c : Char} :
    isReserved c = true ↔ c ∈ ['%', '*', '?', '@', '$', '(', ')', ';', '\''] := by
  simp only [isReserved, Bool.or_eq_true, beq_iff_eq, List.mem_cons, List.not_mem_nil,
    or_false, or_assoc]

/-- A class without any of the nine characters holds no reserved one. -/
theorem isReserved_eq_false
    {p : Char → Bool}
    (spared : ∀ d ∈ ['%', '*', '?', '@', '$', '(', ')', ';', '\''], p d = false)
    {c : Char}
    (shown : p c = true) :
    isReserved c = false := by
  rw [← Bool.not_eq_true, isReserved_iff]
  intro reserved
  rw [spared c reserved] at shown
  cases shown

/-- An escaped reserved character is a percent sign and two characters that are not reserved. -/
theorem escapeChar_of_isReserved
    {c : Char}
    (reserved : isReserved c = true) :
    ∃ high low,
      escapeChar c = ['%', high, low] ∧
        decodeTriple? high low = some c ∧
        isReserved high = false ∧ isReserved low = false ∧
        isBlank low = false ∧ high ≠ '\\' ∧ low ≠ '\\' := by
  refine ⟨hexDigit (c.toNat / 16), hexDigit (c.toNat % 16), by simp [escapeChar, reserved], ?_⟩
  rw [isReserved_iff] at reserved
  simp only [List.mem_cons, List.not_mem_nil, or_false] at reserved
  rcases reserved with rfl | rfl | rfl | rfl | rfl | rfl | rfl | rfl | rfl
  all_goals decide

theorem escapeChar_of_not_isReserved
    {c : Char}
    (plain : isReserved c = false) :
    escapeChar c = [c] := by
  simp [escapeChar, plain]

theorem escape_ne_nil
    {text : Text}
    (some : text ≠ []) :
    escape text ≠ [] := by
  cases text with
  | nil =>
      exact absurd rfl some
  | cons c rest =>
      rw [escape_cons]
      cases reserved : isReserved c with
      | true =>
          obtain ⟨high, low, shape, -⟩ := escapeChar_of_isReserved reserved
          simp [shape]
      | false =>
          simp [escapeChar_of_not_isReserved reserved]

/-- Of the reserved characters only the percent sign occurs in escaped text. -/
theorem not_mem_escape
    {c : Char}
    (reserved : isReserved c = true)
    (other : c ≠ '%')
    (text : Text) :
    c ∉ escape text := by
  induction text with
  | nil =>
      simp
  | cons d rest inductionHypothesis =>
      rw [escape_cons, List.mem_append, not_or]
      refine ⟨?_, inductionHypothesis⟩
      cases dReserved : isReserved d with
      | true =>
          obtain ⟨high, low, shape, -, highPlain, lowPlain, -⟩ :=
            escapeChar_of_isReserved dReserved
          rw [shape]
          intro isMember
          rcases List.mem_cons.mp isMember with rfl | inDigits
          · exact other rfl
          · rcases List.mem_cons.mp inDigits with rfl | isLow
            · simp [reserved] at highPlain
            · rw [List.mem_singleton.mp isLow, lowPlain] at reserved
              cases reserved
      | false =>
          rw [escapeChar_of_not_isReserved dReserved, List.mem_singleton]
          rintro rfl
          rw [reserved] at dReserved
          cases dReserved

/-- No wildcard occurs in escaped text. -/
theorem hasWildcards_escape
    (text : Text) :
    hasWildcards (escape text) = false := by
  rw [hasWildcards, List.any_eq_false]
  intro c isMember isWildcard
  rw [Bool.or_eq_true, beq_iff_eq, beq_iff_eq] at isWildcard
  rcases isWildcard with rfl | rfl
  all_goals exact not_mem_escape (by decide) (by decide) text isMember

theorem backslash_not_mem_escape
    {text : Text}
    (absent : '\\' ∉ text) :
    '\\' ∉ escape text := by
  induction text with
  | nil =>
      simp
  | cons d rest inductionHypothesis =>
      rw [List.mem_cons, not_or] at absent
      rw [escape_cons, List.mem_append, not_or]
      refine ⟨?_, inductionHypothesis absent.2⟩
      cases reserved : isReserved d with
      | true =>
          obtain ⟨high, low, shape, -, -, -, -, highOther, lowOther⟩ :=
            escapeChar_of_isReserved reserved
          simp [shape, highOther.symm, lowOther.symm]
      | false =>
          simpa [escapeChar_of_not_isReserved reserved] using absent.1

theorem unescape_cons_of_ne
    {c : Char}
    (other : c ≠ '%')
    (text : Text) :
    unescape (c :: text) = c :: unescape text := by
  rw [unescape]
  intro high low rest isPercent
  exact absurd isPercent other

/-- No triple of escaped text reaches into what follows it. -/
theorem unescape_escape_append
    (text rest : Text) :
    unescape (escape text ++ rest) = text ++ unescape rest := by
  induction text with
  | nil =>
      rfl
  | cons c text inductionHypothesis =>
      rw [escape_cons, List.append_assoc, List.cons_append, ← inductionHypothesis]
      cases reserved : isReserved c with
      | true =>
          obtain ⟨high, low, shape, decoded, -⟩ := escapeChar_of_isReserved reserved
          rw [shape, List.cons_append, List.cons_append, List.cons_append, List.nil_append,
            unescape, decoded]
      | false =>
          have other : c ≠ '%' := by
            rintro rfl
            cases reserved
          rw [escapeChar_of_not_isReserved reserved, List.singleton_append,
            unescape_cons_of_ne other]

/-- Reading escaped text back gives the text that was escaped. -/
@[simp] theorem unescape_escape
    (text : Text) :
    unescape (escape text) = text := by
  simpa [unescape] using unescape_escape_append text []

theorem escape_injective :
    Function.Injective escape :=
  Function.LeftInverse.injective unescape_escape

/-- A text without percent signs is read back as it stands. -/
theorem unescape_of_not_mem
    {text : Text}
    (absent : '%' ∉ text) :
    unescape text = text := by
  induction text with
  | nil =>
      rfl
  | cons c rest inductionHypothesis =>
      rw [List.mem_cons, not_or] at absent
      rw [unescape_cons_of_ne (Ne.symm absent.1), inductionHypothesis absent.2]

/-- Escaping a trimmed text gives a trimmed text. -/
theorem trim_escape
    {text : Text}
    (trimmed : trim text = text) :
    trim (escape text) = escape text := by
  rw [trim_eq_self_iff] at trimmed ⊢
  obtain ⟨started, ended⟩ := trimmed
  constructor
  · cases text with
    | nil =>
        simp
    | cons c rest =>
        rw [escape_cons]
        cases reserved : isReserved c with
        | true =>
            obtain ⟨high, low, shape, -⟩ := escapeChar_of_isReserved reserved
            simp [shape, isBlank]
        | false =>
            simpa [escapeChar_of_not_isReserved reserved] using started
  · rcases text.eq_nil_or_concat with rfl | ⟨front, c, rfl⟩
    · simp
    · rw [List.concat_eq_append] at ended ⊢
      rw [escape, List.flatMap_append, List.flatMap_singleton]
      cases reserved : isReserved c with
      | true =>
          obtain ⟨high, low, shape, -, -, -, lowBlank, -⟩ :=
            escapeChar_of_isReserved reserved
          simp [shape, lowBlank]
      | false =>
          simpa [escapeChar_of_not_isReserved reserved] using ended

theorem escape_append
    (left right : Text) :
    escape (left ++ right) = escape left ++ escape right :=
  List.flatMap_append

/-- Where nothing is reserved a text is its own escaped form. -/
theorem escape_of_plain
    {text : Text}
    (plain : ∀ c ∈ text, isReserved c = false) :
    escape text = text := by
  induction text with
  | nil =>
      rfl
  | cons c rest inductionHypothesis =>
      rw [List.forall_mem_cons] at plain
      rw [escape_cons, escapeChar_of_not_isReserved plain.1, inductionHypothesis plain.2]
      rfl

/-- An escaped text that does not begin with a percent sign begins as the text does. -/
theorem of_escape_eq_cons
    {text rest : Text}
    {c : Char}
    (isEscaped : escape text = c :: rest)
    (noPercent : c ≠ '%') :
    ∃ tail, text = c :: tail ∧ escape tail = rest := by
  cases text with
  | nil =>
      cases isEscaped
  | cons d tail =>
      rw [escape_cons] at isEscaped
      cases reserved : isReserved d with
      | true =>
          obtain ⟨high, low, shape, -⟩ := escapeChar_of_isReserved reserved
          rw [shape] at isEscaped
          exact absurd (List.cons.inj isEscaped).1.symm noPercent
      | false =>
          rw [escapeChar_of_not_isReserved reserved] at isEscaped
          obtain ⟨rfl, isRest⟩ := List.cons.inj isEscaped
          exact ⟨tail, rfl, isRest⟩

theorem escape_of_isBlank
    {blanks : Text}
    (blank : ∀ c ∈ blanks, isBlank c = true) :
    escape blanks = blanks :=
  escape_of_plain fun c isMember => isReserved_eq_false (forall_mem_of_all rfl) (blank c isMember)

/-- It is all the same whether blanks are taken away before escaping or behind it. -/
theorem escape_trim
    (text : Text) :
    escape (trim text) = trim (escape text) := by
  obtain ⟨before, after, blankBefore, blankAfter, shape⟩ := exists_blanks_around text
  have between := trimBy_between blankBefore blankAfter (escape (trim text))
  calc
    escape (trim text) = trim (escape (trim text)) := (trim_escape (trim_trim text)).symm
    _ = trim (before ++ escape (trim text) ++ after) := between.symm
    _ = trim (escape text) := by
      conv => right; rw [shape]
      rw [escape_append, escape_append, escape_of_isBlank blankBefore,
        escape_of_isBlank blankAfter]

/-- Outside vectors a character that neither cuts nor opens a vector goes to the first piece. -/
theorem cutList_cons_of_ne
    {c : Char}
    (noSemicolon : c ≠ ';')
    (noVector : c ≠ '@')
    (rest : Text) :
    cutList .outside (c :: rest) =
      (c :: (cutList .outside rest).1, (cutList .outside rest).2) := by
  have stays : ListMode.outside.after c = .outside :=
    rfl
  rw [cutList, stays]
  · intro _ isSemicolon
    exact absurd isSemicolon noSemicolon
  · intro _ _ isVector
    exact absurd isVector noVector

theorem cutList_of_not_mem
    {text : Text}
    (noVector : '@' ∉ text)
    (noSemicolon : ';' ∉ text) :
    cutList .outside text = (text, []) := by
  induction text with
  | nil =>
      rfl
  | cons c rest inductionHypothesis =>
      rw [List.mem_cons, not_or] at noVector noSemicolon
      rw [cutList_cons_of_ne (Ne.symm noSemicolon.1) (Ne.symm noVector.1),
        inductionHypothesis noVector.2 noSemicolon.2]

/-- Behind a text without vectors a semicolon begins a new piece. -/
theorem cutList_append_semicolon
    {left : Text}
    (noVector : '@' ∉ left)
    (right : Text) :
    cutList .outside (left ++ ';' :: right) =
      ((cutList .outside left).1,
        (cutList .outside left).2 ++
          (cutList .outside right).1 :: (cutList .outside right).2) := by
  induction left with
  | nil =>
      rfl
  | cons c left inductionHypothesis =>
      rw [List.mem_cons, not_or] at noVector
      by_cases isSemicolon : c = ';'
      · subst isSemicolon
        rw [List.cons_append, cutList, inductionHypothesis noVector.2, cutList]
        rfl
      · rw [List.cons_append, cutList_cons_of_ne isSemicolon (Ne.symm noVector.1),
          cutList_cons_of_ne isSemicolon (Ne.symm noVector.1), inductionHypothesis noVector.2]

/-- The list before a semicolon and the list behind it make the whole list. -/
theorem splitList_append_semicolon
    {left : Text}
    (noVector : '@' ∉ left)
    (right : Text) :
    splitList (left ++ ';' :: right) = splitList left ++ splitList right := by
  simp only [splitList, cutList_append_semicolon noVector, ← List.cons_append,
    List.map_append, List.filter_append]

/-- A text without vectors and semicolons is a list of itself, unless it is blank. -/
theorem splitList_of_not_mem
    {text : Text}
    (noVector : '@' ∉ text)
    (noSemicolon : ';' ∉ text) :
    splitList text = [trim text].filter (!·.isEmpty) := by
  rw [splitList, cutList_of_not_mem noVector noSemicolon]
  rfl

theorem splitList_singleton
    {text : Text}
    (noVector : '@' ∉ text)
    (noSemicolon : ';' ∉ text)
    (trimmed : trim text = text)
    (some : text ≠ []) :
    splitList text = [text] := by
  simp [splitList_of_not_mem noVector noSemicolon, trimmed, some]

theorem join_cons_cons
    (separator first second : Text)
    (rest : List Text) :
    join separator (first :: second :: rest) =
      first ++ separator ++ join separator (second :: rest) := by
  simp [join, List.intercalate_cons_cons]

theorem join_cons_of_ne_nil
    (separator first : Text)
    {rest : List Text}
    (some : rest ≠ []) :
    join separator (first :: rest) = first ++ separator ++ join separator rest := by
  obtain ⟨second, later, rfl⟩ := List.exists_cons_of_ne_nil some
  exact join_cons_cons separator first second later

theorem join_push
    (separator : Text)
    (c : Char)
    (first : Text)
    (rest : List Text) :
    join separator ((c :: first) :: rest) = c :: join separator (first :: rest) := by
  cases rest with
  | nil =>
      simp [join]
  | cons second later =>
      simp [join_cons_cons]

/-- A character stands in a joined list if it stands in a piece or in the separator. -/
theorem mem_of_mem_join
    {separator : Text}
    {pieces : List Text}
    {c : Char}
    (isMember : c ∈ join separator pieces) :
    c ∈ separator ∨ ∃ piece ∈ pieces, c ∈ piece := by
  induction pieces with
  | nil =>
      simp [join] at isMember
  | cons first rest inductionHypothesis =>
      cases rest with
      | nil =>
          exact .inr ⟨first, List.mem_cons_self, by simpa [join] using isMember⟩
      | cons second rest =>
          rw [join_cons_cons, List.mem_append, List.mem_append] at isMember
          rcases isMember with (inFirst | inSeparator) | inRest
          · exact .inr ⟨first, List.mem_cons_self, inFirst⟩
          · exact .inl inSeparator
          · rcases inductionHypothesis inRest with inSeparator | ⟨piece, isPiece, inPiece⟩
            · exact .inl inSeparator
            · exact .inr ⟨piece, List.mem_cons_of_mem _ isPiece, inPiece⟩

/-- A beginning of a list is joined to a beginning of the joined list. -/
theorem join_prefix
    (separator : Text)
    {front pieces : List Text}
    (beginning : front <+: pieces) :
    join separator front <+: join separator pieces := by
  obtain ⟨back, rfl⟩ := beginning
  induction front with
  | nil =>
      exact List.nil_prefix
  | cons first rest inductionHypothesis =>
      cases rest with
      | nil =>
          cases back with
          | nil =>
              exact List.prefix_refl _
          | cons second back =>
              rw [List.singleton_append, join_cons_cons, List.append_assoc]
              simp [join]
      | cons second rest =>
          rw [List.cons_append, List.cons_append, join_cons_cons, join_cons_cons,
            List.prefix_append_right_inj]
          exact inductionHypothesis

/-- A list with a piece that is not empty is not joined to nothing. -/
theorem join_ne_nil
    (separator : Text)
    {pieces : List Text}
    {piece : Text}
    (isPiece : piece ∈ pieces)
    (some : piece ≠ []) :
    join separator pieces ≠ [] := by
  induction pieces with
  | nil =>
      cases isPiece
  | cons first rest inductionHypothesis =>
      cases rest with
      | nil =>
          rw [List.mem_singleton.mp isPiece] at some
          simpa [join] using some
      | cons second rest =>
          rw [join_cons_cons]
          rcases List.mem_cons.mp isPiece with rfl | inRest
          · simp [some]
          · simp [inductionHypothesis inRest]

/-- Lists without vectors that are joined with semicolons make one list. -/
theorem splitList_join
    {lists : List Text}
    (noVector : ∀ list ∈ lists, '@' ∉ list) :
    splitList (join [';'] lists) = lists.flatMap splitList := by
  induction lists with
  | nil =>
      rfl
  | cons first rest inductionHypothesis =>
      have firstFree := noVector first List.mem_cons_self
      have later :=
        inductionHypothesis fun list isMember =>
          noVector list (List.mem_cons_of_mem _ isMember)
      cases rest with
      | nil =>
          simp [join]
      | cons second rest =>
          rw [join_cons_cons, List.append_assoc, List.singleton_append,
            splitList_append_semicolon firstFree, later]
          rfl

end Text

end RefExpand
