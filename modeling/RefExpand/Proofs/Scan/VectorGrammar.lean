import RefExpand.Proofs.Scan.VectorForm
import RefExpand.Proofs.Scan.Windows

namespace RefExpand

/-!
# The grammar of vectors

The reader accepts exactly the texts that begin with the text of a form. A text
begins with the text of at most one form, since each part ends where the next one
begins. So the reader finds the only decomposition there is, and what it reports
stands in the text where it reports it. The same is read between two offsets of a
longer text, though it is followed beyond them in part.
-/

namespace Blanks

theorem exists_skipBlanks
    (text : Text) :
    ∃ blanks : Blanks, text = blanks.text ++ text.skipBlanks :=
  ⟨⟨text.takeWhile isAsciiBlank, List.all_eq_true.mp List.all_takeWhile⟩,
    List.takeWhile_append_dropWhile.symm⟩

/-- Blanks end at the first character that is none. -/
theorem unique
    {blanks blanks' : Blanks}
    {rest rest' : Text}
    (same : blanks.text ++ rest = blanks'.text ++ rest')
    (ink : ∀ c ∈ rest.head?, isAsciiBlank c = false)
    (ink' : ∀ c ∈ rest'.head?, isAsciiBlank c = false) :
    blanks = blanks' ∧ rest = rest' := by
  have sameRest : rest = rest' := by
    rw [← blanks.skip ink, same, blanks'.skip ink']
  subst sameRest
  rcases blanks with ⟨text, blank⟩
  rcases blanks' with ⟨text', blank'⟩
  obtain rfl : text = text' := List.append_cancel_right same
  exact ⟨rfl, rfl⟩

end Blanks

namespace ItemVector

theorem quote_not_mem_of_readQuoted?
    {text body rest : Text}
    (read : readQuoted? text = some (body, rest)) :
    '\'' ∉ body := by
  unfold readQuoted? at read
  split at read
  · intro isMember
    exact absurd (Text.of_mem_breakAt? read _ isMember) (by decide)
  · cases read

theorem readQuoted?_eq_some_iff
    {text body rest : Text} :
    readQuoted? text = some (body, rest) ↔
      text = '\'' :: (body ++ '\'' :: rest) ∧ '\'' ∉ body := by
  constructor
  · intro read
    exact ⟨readQuoted?_eq_append read, quote_not_mem_of_readQuoted? read⟩
  · rintro ⟨rfl, noQuote⟩
    exact readQuoted?_of_not_mem noQuote rest

theorem exists_of_readTransform?
    {text rest : Text}
    {kind : TransformKind}
    (read : readTransform? text = some (kind, rest)) :
    ∃ transform : TransformForm, text = transform.text ++ rest := by
  unfold readTransform? at read
  split at read
  · rename_i body after quoted
    simp only [Option.some.injEq, Prod.mk.injEq] at read
    obtain ⟨-, rfl⟩ := read
    obtain ⟨shape, noQuote⟩ := readQuoted?_eq_some_iff.mp quoted
    refine ⟨.quoted body noQuote, ?_⟩
    rw [shape]
    simp [TransformForm.text]
  · simp only [Option.map_eq_some_iff, Prod.mk.injEq, Prod.exists] at read
    obtain ⟨name, arguments, after, function, -, rfl⟩ := read
    unfold readFunction? at function
    split at function
    · cases function
    · rename_i taken behindName nonempty taken_eq
      simp only [Option.map_eq_some_iff, Prod.mk.injEq, Prod.exists] at function
      obtain ⟨inside, last, parens, ⟨rfl, rfl⟩, rfl⟩ := function
      obtain ⟨shape, nested⟩ := readParens?_eq_some_iff.mp parens
      obtain ⟨gap, spread⟩ := Blanks.exists_skipBlanks behindName
      have named : taken.isName = true :=
        Text.isName_of_takeName taken_eq nonempty
      have whole := Text.takeName_append text
      rw [taken_eq] at whole
      refine ⟨.call taken named gap inside nested, ?_⟩
      rw [← whole, spread, shape]
      simp [TransformForm.text]

theorem exists_of_readTransforms?
    {size : Nat}
    {text rest : Text}
    {transforms : List Transform}
    (read : readTransforms? size text = some (transforms, rest)) :
    ∃ steps, text = StepForm.textAll steps ++ rest := by
  fun_induction readTransforms? size text generalizing transforms rest with
  | case1 =>
      cases read
  | case2 =>
      cases read
  | case3 tail kind after readOne later last recursion inductionHypothesis =>
      simp only [Option.some.injEq, Prod.mk.injEq] at read
      obtain ⟨-, rfl⟩ := read
      obtain ⟨lead, leading⟩ := Blanks.exists_skipBlanks tail
      obtain ⟨transform, written⟩ := exists_of_readTransform? readOne
      obtain ⟨trail, trailing⟩ := Blanks.exists_skipBlanks after
      obtain ⟨steps, shape⟩ := inductionHypothesis recursion
      refine ⟨⟨lead, transform, trail⟩ :: steps, ?_⟩
      rw [leading, written, trailing, shape]
      simp [StepForm.textAll, StepForm.text, StepForm.front]
  | case4 =>
      simp only [Option.some.injEq, Prod.mk.injEq] at read
      exact ⟨[], read.2⟩

theorem exists_of_readSeparator?
    {size : Nat}
    {text rest : Text}
    {separator : Option Separator}
    (read : readSeparator? size text = some (separator, rest)) :
    ∃ form, text = SeparatorForm.optionText form ++ rest := by
  unfold readSeparator? at read
  split at read
  · rename_i tail
    simp only [Option.map_eq_some_iff, Prod.mk.injEq, Prod.exists] at read
    obtain ⟨content, after, quoted, -, rfl⟩ := read
    obtain ⟨lead, leading⟩ := Blanks.exists_skipBlanks tail
    obtain ⟨trail, trailing⟩ := Blanks.exists_skipBlanks after
    obtain ⟨shape, noQuote⟩ := readQuoted?_eq_some_iff.mp quoted
    refine ⟨some ⟨lead, content, noQuote, trail⟩, ?_⟩
    rw [leading, shape]
    simp [SeparatorForm.optionText, SeparatorForm.text, SeparatorForm.front, ← trailing]
  · simp only [Option.some.injEq, Prod.mk.injEq] at read
    exact ⟨none, read.2⟩

/-- A vector was read part by part: its name, its transforms, its separator and its end. -/
theorem exists_of_read?
    {text rest : Text}
    {vector : ItemVector}
    (read : read? text = some (vector, rest)) :
    ∃ size body afterName afterTransforms,
      text = '@' :: '(' :: body ∧
        Text.takeName (Text.skipBlanks body) = (vector.itemType, afterName) ∧
        readTransforms? size (Text.skipBlanks afterName) =
          some (vector.transforms, afterTransforms) ∧
        readSeparator? size afterTransforms = some (vector.separator, ')' :: rest) ∧
        afterTransforms <:+ body ∧
        vector.itemType ≠ [] := by
  unfold read? at read
  split at read
  · rename_i body
    simp only [Option.map_eq_some_iff, Prod.mk.injEq, Prod.exists] at read
    obtain ⟨itemType, transforms, separator, after, parts, rfl, rfl⟩ := read
    unfold readParts? at parts
    split at parts
    · cases parts
    · rename_i name afterName nonempty taken
      split at parts
      · cases parts
      · rename_i found afterTransforms readFound
        split at parts
        · rename_i foundSeparator last readFoundSeparator
          simp only [Option.some.injEq, Prod.mk.injEq] at parts
          obtain ⟨⟨rfl, rfl, rfl⟩, rfl⟩ := parts
          have behindName : afterName <:+ Text.skipBlanks body := by
            have whole := Text.takeName_append (Text.skipBlanks body)
            rw [taken] at whole
            exact ⟨_, whole⟩
          have behindTransforms : afterTransforms <:+ body :=
            (readTransforms?_suffix readFound).trans
              ((Text.skipBlanks_suffix afterName).trans
                (behindName.trans (Text.skipBlanks_suffix body)))
          exact
            ⟨_, body, afterName, afterTransforms, rfl, taken, readFound, readFoundSeparator,
              behindTransforms, nonempty⟩
        · cases parts
  · cases read

theorem exists_form_of_read?
    {text rest : Text}
    {vector : ItemVector}
    (read : read? text = some (vector, rest)) :
    ∃ form : VectorForm, text = form.text ++ rest := by
  obtain
    ⟨size, body, afterName, afterTransforms, shape, taken, readTransforms, readSeparator, -,
      nonempty⟩ :=
    exists_of_read? read
  obtain ⟨lead, leading⟩ := Blanks.exists_skipBlanks body
  obtain ⟨gap, spread⟩ := Blanks.exists_skipBlanks afterName
  obtain ⟨steps, stepsShape⟩ := exists_of_readTransforms? readTransforms
  obtain ⟨separator, separatorShape⟩ := exists_of_readSeparator? readSeparator
  have whole := Text.takeName_append (Text.skipBlanks body)
  have named : vector.itemType.isName = true :=
    Text.isName_of_takeName taken nonempty
  rw [taken] at whole
  refine ⟨⟨lead, vector.itemType, named, gap, steps, separator⟩, ?_⟩
  rw [shape, leading, ← whole, spread, stepsShape, separatorShape]
  simp [VectorForm.text, VectorForm.front]

/-- What is read as a vector is the text of a form, and the vector is the form's. -/
theorem read?_eq_some_iff
    {text rest : Text}
    {vector : ItemVector} :
    read? text = some (vector, rest) ↔
      ∃ form : VectorForm, text = form.text ++ rest ∧ vector = form.vector := by
  constructor
  · intro read
    obtain ⟨form, rfl⟩ := exists_form_of_read? read
    rw [read?_text, Option.some.injEq, Prod.mk.injEq] at read
    exact ⟨form, rfl, read.1.symm⟩
  · rintro ⟨form, rfl, rfl⟩
    exact read?_text form rest

theorem quote_not_mem_separator
    {text rest : Text}
    {vector : ItemVector}
    (read : read? text = some (vector, rest)) :
    ∀ s ∈ vector.separator, '\'' ∉ s.text := by
  obtain ⟨form, -, rfl⟩ := read?_eq_some_iff.mp read
  intro s isSeparator
  obtain ⟨separator, -, rfl⟩ := Option.map_eq_some_iff.mp isSeparator
  exact separator.noQuote

/-- A vector in a text without quotes has no separator. -/
theorem separator_eq_none
    {text rest : Text}
    {vector : ItemVector}
    (read : read? text = some (vector, rest))
    (noQuote : '\'' ∉ text) :
    vector.separator = none := by
  obtain ⟨form, rfl, rfl⟩ := read?_eq_some_iff.mp read
  cases present : form.separator with
  | none =>
      rw [VectorForm.vector, present]
      rfl
  | some separator =>
      refine absurd ?_ noQuote
      simp [VectorForm.text, present, SeparatorForm.optionText, SeparatorForm.text]

/-- A vector is written between an opening and a closing parenthesis. -/
theorem exists_written
    {text rest : Text}
    {vector : ItemVector}
    (read : read? text = some (vector, rest)) :
    ∃ inside, vector.written = '@' :: '(' :: (inside ++ [')']) := by
  obtain ⟨form, -, rfl⟩ := read?_eq_some_iff.mp read
  refine
    ⟨form.lead.text ++ (form.itemType ++ form.gap.text) ++
      (StepForm.textAll form.steps ++ SeparatorForm.optionText form.separator), ?_⟩
  simp [VectorForm.vector, VectorForm.text, VectorForm.front]

end ItemVector

namespace TransformForm

/-- A transform is determined by the text that begins with it. -/
theorem unique
    {transform transform' : TransformForm}
    {rest rest' : Text}
    (same : transform.text ++ rest = transform'.text ++ rest') :
    transform = transform' ∧ rest = rest' := by
  have read := ItemVector.readTransform?_text transform rest
  rw [same, ItemVector.readTransform?_text transform' rest', Option.some.injEq,
    Prod.mk.injEq] at read
  obtain ⟨sameKind, rfl⟩ := read
  have sameText := List.append_cancel_right same
  refine ⟨?_, rfl⟩
  cases transform with
  | quoted body noQuote =>
      cases transform' with
      | quoted body' noQuote' =>
          simp_all [kind]
      | call name named gap arguments nested =>
          cases sameKind
  | call name named gap arguments nested =>
      cases transform' with
      | quoted body noQuote =>
          cases sameKind
      | call name' named' gap' arguments' nested' =>
          obtain ⟨rfl, rfl⟩ := TransformKind.function.inj sameKind
          have sameGap := List.append_cancel_left sameText
          have gaps : gap = gap' :=
            (Blanks.unique sameGap (by simp [isAsciiBlank]) (by simp [isAsciiBlank])).1
          rw [gaps]

end TransformForm

/-- Steps are determined by the text they make up to where they end. -/
theorem StepForm.unique
    {steps steps' : List StepForm}
    {behind behind' : Text}
    (ends : BehindSteps behind)
    (ends' : BehindSteps behind')
    (same : textAll steps ++ behind = textAll steps' ++ behind') :
    steps = steps' ∧ behind = behind' := by
  induction steps generalizing steps' with
  | nil =>
      cases steps' with
      | nil =>
          exact ⟨rfl, same⟩
      | cons step' later' =>
          cases ends <;> cases same
  | cons step later inductionHypothesis =>
      cases steps' with
      | nil =>
          cases ends' <;> cases same
      | cons step' later' =>
          rcases step with ⟨lead, transform, trail⟩
          rcases step' with ⟨lead', transform', trail'⟩
          have opened :
              lead.text ++ (transform.text ++ (trail.text ++ (textAll later ++ behind))) =
                lead'.text ++
                  (transform'.text ++ (trail'.text ++ (textAll later' ++ behind'))) := by
            simpa [textAll, text, front] using same
          obtain ⟨rfl, atTransform⟩ :=
            Blanks.unique opened (transform.ink _) (transform'.ink _)
          obtain ⟨rfl, atTrail⟩ := TransformForm.unique atTransform
          obtain ⟨rfl, atLater⟩ :=
            Blanks.unique atTrail (ends.ink later) (ends'.ink later')
          obtain ⟨rfl, sameBehind⟩ := inductionHypothesis atLater
          exact ⟨rfl, sameBehind⟩

theorem SeparatorForm.unique
    {separator separator' : Option SeparatorForm}
    {rest rest' : Text}
    (same : optionText separator ++ ')' :: rest = optionText separator' ++ ')' :: rest') :
    separator = separator' ∧ rest = rest' := by
  cases separator with
  | none =>
      cases separator' with
      | none =>
          exact ⟨rfl, List.tail_eq_of_cons_eq same⟩
      | some separator' =>
          cases same
  | some separator =>
      cases separator' with
      | none =>
          cases same
      | some separator' =>
          rcases separator with ⟨lead, content, noQuote, trail⟩
          rcases separator' with ⟨lead', content', noQuote', trail'⟩
          have opened :
              lead.text ++ '\'' :: (content ++ '\'' :: (trail.text ++ ')' :: rest)) =
                lead'.text ++ '\'' :: (content' ++ '\'' :: (trail'.text ++ ')' :: rest')) := by
            simpa [optionText, text, front] using same
          obtain ⟨rfl, atQuote⟩ :=
            Blanks.unique opened (by simp [isAsciiBlank]) (by simp [isAsciiBlank])
          have read := ItemVector.readQuoted?_of_not_mem noQuote (trail.text ++ ')' :: rest)
          rw [atQuote, ItemVector.readQuoted?_of_not_mem noQuote', Option.some.injEq,
            Prod.mk.injEq] at read
          obtain ⟨rfl, atTrail⟩ := read
          obtain ⟨rfl, sameRest⟩ :=
            Blanks.unique atTrail (by simp [isAsciiBlank]) (by simp [isAsciiBlank])
          exact ⟨rfl, (List.tail_eq_of_cons_eq sameRest).symm⟩

namespace VectorForm

/-- A text begins with the text of one form at most. -/
theorem unique
    {form form' : VectorForm}
    {rest rest' : Text}
    (same : form.text ++ rest = form'.text ++ rest') :
    form = form' ∧ rest = rest' := by
  rcases form with ⟨lead, itemType, named, gap, steps, separator⟩
  rcases form' with ⟨lead', itemType', named', gap', steps', separator'⟩
  have ends := SeparatorForm.behindSteps separator rest
  have ends' := SeparatorForm.behindSteps separator' rest'
  have opened :
      lead.text ++ (itemType ++ (gap.text ++ (StepForm.textAll steps ++
          (SeparatorForm.optionText separator ++ ')' :: rest)))) =
        lead'.text ++ (itemType' ++ (gap'.text ++ (StepForm.textAll steps' ++
          (SeparatorForm.optionText separator' ++ ')' :: rest')))) := by
    simpa [text, front] using same
  obtain ⟨rfl, atType⟩ :=
    Blanks.unique opened (Text.ink_of_isName named _) (Text.ink_of_isName named' _)
  have taken := Text.takeName_append_of_ends named (gap.endsName (ends.endsName steps))
  rw [atType, Text.takeName_append_of_ends named' (gap'.endsName (ends'.endsName steps')),
    Prod.mk.injEq] at taken
  obtain ⟨rfl, atGap⟩ := taken
  obtain ⟨rfl, atSteps⟩ := Blanks.unique atGap (ends'.ink steps') (ends.ink steps)
  obtain ⟨rfl, atSeparator⟩ := StepForm.unique ends' ends atSteps
  obtain ⟨rfl, rfl⟩ := SeparatorForm.unique atSeparator
  exact ⟨rfl, rfl⟩

end VectorForm

/-- A piece stands in a text behind so many of its characters. -/
def Text.StandsAt (piece : Text) (offset : Nat) (text : Text) : Prop :=
  ∃ front back, text = front ++ (piece ++ back) ∧ front.length = offset

theorem Text.StandsAt.window
    {piece text : Text}
    {offset : Nat}
    (stands : StandsAt piece offset text)
    (before after : Text) :
    let position := before.utf8Size + utf8Size (text.take offset)
    Text.window position (position + piece.utf8Size) (before ++ (text ++ after)) = piece := by
  obtain ⟨front, back, rfl, rfl⟩ := stands
  have shape :
      before ++ (front ++ (piece ++ back) ++ after) =
        (before ++ front) ++ (piece ++ (back ++ after)) := by
    simp
  rw [List.take_left, shape, ← utf8Size_append]
  exact window_append (before ++ front) piece (back ++ after)

theorem StepForm.standsAt_of_mem
    {steps : List StepForm}
    {before : Text}
    {transform : Transform}
    (isMember : transform ∈ capturedAll before steps)
    (rest : Text) :
    transform.written.StandsAt transform.offset (before ++ (textAll steps ++ rest)) := by
  induction steps generalizing before with
  | nil =>
      cases isMember
  | cons step later inductionHypothesis =>
      rcases List.mem_cons.mp isMember with rfl | inLater
      · refine ⟨before ++ step.front, step.trail.text ++ (textAll later ++ rest), ?_, rfl⟩
        simp [captured, textAll, text]
      · have stands := inductionHypothesis inLater
        simpa [textAll] using stands

namespace VectorForm

theorem transform_standsAt
    {form : VectorForm}
    {transform : Transform}
    (isMember : transform ∈ form.vector.transforms) :
    transform.written.StandsAt transform.offset form.text :=
  StepForm.standsAt_of_mem isMember _

theorem separator_standsAt
    {form : VectorForm}
    {separator : Separator}
    (isSeparator : separator ∈ form.vector.separator) :
    separator.text.StandsAt separator.offset form.text := by
  obtain ⟨written, present, rfl⟩ := Option.map_eq_some_iff.mp isSeparator
  refine
    ⟨form.front ++ StepForm.textAll form.steps ++ written.front,
      '\'' :: (written.trail.text ++ [')']), ?_, rfl⟩
  simp [text, present, SeparatorForm.optionText, SeparatorForm.text, SeparatorForm.captured]

end VectorForm

namespace ItemVector

/-- The separator of a vector that was read stands in it where it is reported. -/
theorem separator_standsAt
    {text rest : Text}
    {vector : ItemVector}
    (read : read? text = some (vector, rest))
    {separator : Separator}
    (isSeparator : separator ∈ vector.separator) :
    separator.text.StandsAt separator.offset vector.written := by
  obtain ⟨form, -, rfl⟩ := read?_eq_some_iff.mp read
  exact VectorForm.separator_standsAt isSeparator

/-- How many bytes of a vector stand in front of what is reported at an offset. -/
def bytesTo (vector : ItemVector) (offset : Nat) : Nat :=
  Text.utf8Size (vector.written.take offset)

end ItemVector

namespace Place

/-- At a place a vector is read exactly if the window there begins with the text of its form. -/
theorem readVector?_holding_eq_some_iff
    {part after : Text}
    {vector : ItemVector}
    {next : Place} :
    (holding part after).readVector? = some (vector, next) ↔
      ∃ (form : VectorForm) (rest : Text),
        part = form.text ++ rest ∧ vector = form.vector ∧ next = .holding rest after := by
  rw [readsPart_readVector?, Option.map_eq_some_iff]
  constructor
  · rintro ⟨⟨found, rest⟩, read, same⟩
    obtain ⟨rfl, rfl⟩ := Prod.mk.inj same
    obtain ⟨form, shape, rfl⟩ := ItemVector.read?_eq_some_iff.mp read
    exact ⟨form, rest, shape, rfl, rfl⟩
  · rintro ⟨form, rest, shape, rfl, rfl⟩
    exact ⟨(form.vector, rest), ItemVector.read?_eq_some_iff.mpr ⟨form, shape, rfl⟩, rfl⟩

/--
Between two offsets of an expression a vector is read in place exactly if the text there
begins with the text of a form, whatever stands before and behind it. Then the vector is
the form's, and reading goes on behind that text. The text begins with the text of one
form at most. Every part that is reported stands at the bytes where it is reported.
-/
theorem readVector?_exactly_forms
    (before part after : Text) :
    let expression := before ++ (part ++ after)
    let start := before.utf8Size
    let finish := start + part.utf8Size
    let place := between expression start finish
    (∀ vector next,
      place.readVector? = some (vector, next) ↔
        ∃ (form : VectorForm) (rest : Text),
          part = form.text ++ rest ∧ vector = form.vector ∧
            next = between expression (start + form.text.utf8Size) finish) ∧
    (∀ (form form' : VectorForm) (rest rest' : Text),
      part = form.text ++ rest → part = form'.text ++ rest' → form = form' ∧ rest = rest') ∧
    (∀ vector next,
      place.readVector? = some (vector, next) →
        expression.window start (start + vector.written.utf8Size) = vector.written ∧
        (∀ transform ∈ vector.transforms,
          let position := start + vector.bytesTo transform.offset
          expression.window position (position + transform.written.utf8Size) =
            transform.written) ∧
        (∀ separator ∈ vector.separator,
          let position := start + vector.bytesTo separator.offset
          expression.window position (position + separator.text.utf8Size) =
            separator.text)) := by
  intro expression start finish place
  have here : place = .holding part after :=
    between_append before part after
  have behind :
      ∀ front rest : Text,
        part = front ++ rest →
          between expression (start + front.utf8Size) finish = .holding rest after := by
    rintro front rest rfl
    exact between_append_append before front rest after
  refine ⟨?_, ?_, ?_⟩
  · intro vector next
    rw [here, readVector?_holding_eq_some_iff]
    constructor
    · rintro ⟨form, rest, shape, rfl, rfl⟩
      exact ⟨form, rest, shape, rfl, (behind form.text rest shape).symm⟩
    · rintro ⟨form, rest, shape, rfl, rfl⟩
      exact ⟨form, rest, shape, rfl, behind form.text rest shape⟩
  · intro form form' rest rest' shape shape'
    exact VectorForm.unique (shape.symm.trans shape')
  · intro vector next read
    rw [here] at read
    obtain ⟨form, rest, rfl, rfl, -⟩ := readVector?_holding_eq_some_iff.mp read
    have shape : expression = before ++ (form.text ++ (rest ++ after)) := by
      simp [expression]
    rw [shape]
    refine ⟨Text.window_append before form.text (rest ++ after), ?_, ?_⟩
    · intro transform isMember
      exact (VectorForm.transform_standsAt isMember).window before (rest ++ after)
    · intro separator isSeparator
      exact (VectorForm.separator_standsAt isSeparator).window before (rest ++ after)

end Place

end RefExpand
