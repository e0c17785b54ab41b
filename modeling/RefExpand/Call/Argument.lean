import RefExpand.Scan.Balanced

namespace RefExpand

/-!
# Written arguments

An argument of a call is the word for null, an out placeholder, or a text that
may stand in quotes. The argument texts are parts of the list they come from.
-/

/-- An argument as it is written. -/
inductive Argument where
  | null
  | out
  | text (content : Text)
  deriving Repr, DecidableEq, Inhabited

namespace Argument

/-- The argument is `out _`. -/
def isOutPlaceholder (text : Text) : Bool :=
  match Text.dropBeginning? "out" text with
  | some (c :: rest) => isAsciiBlank c && Text.trim (c :: rest) == ['_']
  | _ => false

/-- Drop the quotes around a text; a quote that is repeated goes altogether. -/
def dequote (text : Text) : Text :=
  match text.head? with
  | some q => if isQuote q && text.getLast? == some q then text.trimBy (· == q) else text
  | none => text

/-- The argument that a trimmed text stands for. -/
def ofText (text : Text) : Argument :=
  if Text.sameName text "null" then .null
  else if isOutPlaceholder text then .out
  else .text (dequote text)

/-- The arguments of an argument list, none for an empty one. -/
def parseAll (content : Text) : Except SplitFault (List Argument) :=
  if content.isEmpty then .ok []
  else (splitCommas content).map (·.map ofText)

/-- The text of an argument, empty for null and out. -/
def textOrEmpty : Argument → Text
  | .text content => content
  | .null | .out => []

/-- The text of an argument, none for null and out. -/
def text? : Argument → Option Text
  | .text content => some content
  | .null | .out => none

/-- The texts among the arguments. -/
def texts (arguments : List Argument) : List Text :=
  arguments.filterMap text?

theorem dequote_isInfix (raw : Text) : dequote raw <:+: raw := by
  unfold dequote
  split
  · split
    · exact Text.trimBy_isInfix _ raw
    · exact List.infix_rfl
  · exact List.infix_rfl

/-- The text of an argument is a part of what is written for it. -/
theorem ofText_isInfix {raw content : Text} (isText : (ofText raw).text? = some content) :
    content <:+: raw := by
  unfold ofText at isText
  split at isText
  · cases isText
  · split at isText
    · cases isText
    · cases isText
      exact dequote_isInfix raw

/-- The pieces between commas are parts of the argument list. -/
theorem cutCommas_isInfix
    {mode : CommaMode} {text piece : Text} {pieces : List Text}
    (cut : cutCommas mode text = .ok (piece, pieces)) :
    piece <+: text ∧ ∀ other ∈ pieces, other <:+: text := by
  have grow :
      ∀ (front : Text) {rest piece' : Text} {pieces' : List Text},
        (piece' <+: rest ∧ ∀ other ∈ pieces', other <:+: rest) →
          front ++ piece' <+: front ++ rest ∧ ∀ other ∈ pieces', other <:+: front ++ rest := by
    intro front rest piece' pieces' ⟨first, others⟩
    refine ⟨(List.prefix_append_right_inj front).mpr first, fun other isMember => ?_⟩
    exact (others other isMember).trans (List.suffix_append front rest).isInfix
  fun_induction cutCommas mode text generalizing piece pieces with
  | case1 =>
      simp only [Except.ok.injEq, Prod.mk.injEq] at cut
      obtain ⟨rfl, rfl⟩ := cut
      simp
  | case2 => cases cut
  | case3 => cases cut
  | case4 rest inductionHypothesis =>
      cases result : cutCommas (.reference 0 none) rest with
      | error fault => rw [result] at cut; cases cut
      | ok found =>
          obtain ⟨piece', pieces'⟩ := found
          rw [result] at cut
          simp only [Except.map, Except.ok.injEq, Prod.mk.injEq] at cut
          obtain ⟨rfl, rfl⟩ := cut
          exact grow ['$', '('] (inductionHypothesis result)
  | case5 rest inductionHypothesis =>
      cases result : cutCommas .plain rest with
      | error fault => rw [result] at cut; cases cut
      | ok found =>
          obtain ⟨piece', pieces'⟩ := found
          rw [result] at cut
          simp only [Except.map, Except.ok.injEq, Prod.mk.injEq] at cut
          obtain ⟨rfl, rfl⟩ := cut
          have ⟨first, others⟩ := inductionHypothesis result
          refine ⟨by simp, fun other isMember => ?_⟩
          have inRest : other <:+: rest := by
            rcases List.mem_cons.mp isMember with rfl | inOthers
            · exact first.isInfix
            · exact others other inOthers
          exact inRest.trans (List.suffix_cons _ _).isInfix
  | case6 mode c rest notOpen notComma inductionHypothesis =>
      cases result : cutCommas (mode.after c) rest with
      | error fault => rw [result] at cut; cases cut
      | ok found =>
          obtain ⟨piece', pieces'⟩ := found
          rw [result] at cut
          simp only [Except.map, Except.ok.injEq, Prod.mk.injEq] at cut
          obtain ⟨rfl, rfl⟩ := cut
          exact grow [c] (inductionHypothesis result)

/-- The text of every argument is a part of the argument list. -/
theorem parseAll_isInfix
    {content : Text} {arguments : List Argument}
    (parsed : parseAll content = .ok arguments) :
    ∀ part ∈ texts arguments, part <:+: content := by
  intro part isText
  unfold parseAll at parsed
  split at parsed
  · simp only [Except.ok.injEq] at parsed
    subst parsed
    simp [texts] at isText
  · unfold splitCommas at parsed
    cases cut : cutCommas .plain content with
    | error fault => rw [cut] at parsed; cases parsed
    | ok found =>
        obtain ⟨piece, pieces⟩ := found
        rw [cut] at parsed
        simp only [Except.map, Except.ok.injEq] at parsed
        subst parsed
        have ⟨first, others⟩ := cutCommas_isInfix cut
        obtain ⟨argument, isArgument, isContent⟩ := List.mem_filterMap.mp isText
        obtain ⟨trimmed, isTrimmed, rfl⟩ := List.mem_map.mp isArgument
        obtain ⟨raw, isPiece, rfl⟩ := List.mem_map.mp isTrimmed
        have inContent : raw <:+: content := by
          rcases List.mem_cons.mp isPiece with rfl | inOthers
          · exact first.isInfix
          · exact others raw inOthers
        exact (ofText_isInfix isContent).trans ((Text.trim_isInfix raw).trans inContent)

end Argument

end RefExpand
