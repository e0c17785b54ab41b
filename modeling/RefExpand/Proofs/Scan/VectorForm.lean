import RefExpand.Proofs.Scan.Balanced
import RefExpand.Proofs.Scan.Cuts
import RefExpand.Text.Part

namespace RefExpand

/-!
# The written form of a vector

A vector is written from its parts: blanks, an item type, transforms behind
arrows, perhaps a separator behind a comma. The form keeps what the reader
forgets, the blanks between the parts, so that its text is one text. Each part
that the reader reports is reported with the text in front of it counted. Reading
the text of a form gives the form back, whatever follows.
-/

/-- A stretch of ASCII blanks, perhaps empty. -/
structure Blanks where
  text : Text
  blank : ∀ c ∈ text, isAsciiBlank c = true

namespace Blanks

/-- No blanks. -/
def none : Blanks where
  text := []
  blank := by simp

theorem skip
    (blanks : Blanks)
    {rest : Text}
    (ink : ∀ c ∈ rest.head?, isAsciiBlank c = false) :
    Text.skipBlanks (blanks.text ++ rest) = rest :=
  Text.skipBlanks_append blanks.blank ink

/-- A name ends in front of blanks, and in front of what ends it behind them. -/
theorem endsName
    (blanks : Blanks)
    {rest : Text}
    (ends : Text.EndsName rest) :
    Text.EndsName (blanks.text ++ rest) := by
  rcases blanks with ⟨text, blank⟩
  cases text with
  | nil =>
      exact ends
  | cons c text =>
      have blankHere : isAsciiBlank c = true := blank c List.mem_cons_self
      refine .stop ?_ ?_ (text ++ rest)
      · rw [← Bool.not_eq_true]
        intro continues
        rw [isAsciiBlank_of_isBlank (Text.isBlank_of_isNameContinue continues)] at blankHere
        cases blankHere
      · rintro rfl
        exact absurd blankHere (by decide)

end Blanks

/-- A transform as it is written: a quoted text, or a function with its argument list. -/
inductive TransformForm where
  | quoted (body : Text) (noQuote : '\'' ∉ body)
  | call (name : Text) (named : name.isName = true) (gap : Blanks)
      (arguments : Text) (nested : Nested arguments)

/-- An arrow with the transform behind it, and the blanks around that. -/
structure StepForm where
  lead : Blanks
  transform : TransformForm
  trail : Blanks

/-- A comma with the quoted separator behind it, and the blanks around that. -/
structure SeparatorForm where
  lead : Blanks
  content : Text
  noQuote : '\'' ∉ content
  trail : Blanks

/-- All parts of a vector, as they are written. -/
structure VectorForm where
  lead : Blanks
  itemType : Text
  named : itemType.isName = true
  gap : Blanks
  steps : List StepForm
  separator : Option SeparatorForm

namespace TransformForm

def text : TransformForm → Text
  | quoted body _ => '\'' :: (body ++ ['\''])
  | call name _ gap arguments _ => name ++ (gap.text ++ '(' :: (arguments ++ [')']))

/-- What the transform does to the items. -/
def kind : TransformForm → TransformKind
  | quoted body _ => .quoted body
  | call name _ _ arguments _ => .function name arguments

end TransformForm

namespace StepForm

/-- What stands in front of the transform. -/
def front (step : StepForm) : Text :=
  '-' :: '>' :: step.lead.text

def text (step : StepForm) : Text :=
  step.front ++ (step.transform.text ++ step.trail.text)

def textAll (steps : List StepForm) : Text :=
  steps.flatMap text

/-- The transform as it is reported if the step stands behind a text. -/
def captured (before : Text) (step : StepForm) : Transform :=
  { written := step.transform.text
    offset := (before ++ step.front).length
    kind := step.transform.kind }

def capturedAll : (before : Text) → List StepForm → List Transform
  | _, [] => []
  | before, step :: later => step.captured before :: capturedAll (before ++ step.text) later

end StepForm

namespace SeparatorForm

/-- What stands in front of the separator, its opening quote included. -/
def front (separator : SeparatorForm) : Text :=
  ',' :: (separator.lead.text ++ ['\''])

def text (separator : SeparatorForm) : Text :=
  separator.front ++ (separator.content ++ '\'' :: separator.trail.text)

/-- The text of a separator that may be missing. -/
def optionText (separator : Option SeparatorForm) : Text :=
  (separator.map text).getD []

/-- The separator as it is reported if it stands behind a text. -/
def captured (before : Text) (separator : SeparatorForm) : Separator :=
  { text := separator.content
    offset := (before ++ separator.front).length }

end SeparatorForm

namespace VectorForm

/-- What stands in front of the first step. -/
def front (form : VectorForm) : Text :=
  '@' :: '(' :: (form.lead.text ++ (form.itemType ++ form.gap.text))

def text (form : VectorForm) : Text :=
  form.front ++
    (StepForm.textAll form.steps ++ (SeparatorForm.optionText form.separator ++ [')']))

/-- The vector as it is reported. -/
def vector (form : VectorForm) : ItemVector :=
  { written := form.text
    itemType := form.itemType
    transforms := StepForm.capturedAll form.front form.steps
    separator :=
      form.separator.map (·.captured (form.front ++ StepForm.textAll form.steps)) }

/-- The form of a vector with one quoted transform, without blanks. -/
def ofQuoted (itemType body : Text) (named : itemType.isName = true) (noQuote : '\'' ∉ body) :
    VectorForm where
  lead := .none
  itemType
  named
  gap := .none
  steps := [{ lead := .none, transform := .quoted body noQuote, trail := .none }]
  separator := none

theorem text_ofQuoted
    {itemType body : Text}
    (named : itemType.isName = true)
    (noQuote : '\'' ∉ body) :
    (ofQuoted itemType body named noQuote).text =
      "@(".toList ++ itemType ++ "->'".toList ++ body ++ "')".toList := by
  simp [ofQuoted, text, front, StepForm.textAll, StepForm.text, StepForm.front,
    TransformForm.text, SeparatorForm.optionText, Blanks.none]

end VectorForm

/-- What may stand behind the last step: a separator, or the end of the vector. -/
inductive BehindSteps : Text → Prop where
  | comma (rest : Text) : BehindSteps (',' :: rest)
  | close (rest : Text) : BehindSteps (')' :: rest)

theorem TransformForm.ink
    (transform : TransformForm)
    (rest : Text) :
    ∀ c ∈ (transform.text ++ rest).head?, isAsciiBlank c = false := by
  cases transform with
  | quoted body noQuote =>
      simp [text, isAsciiBlank]
  | call name named gap arguments nested =>
      rw [text, List.append_assoc]
      exact Text.ink_of_isName named _

theorem SeparatorForm.behindSteps
    (separator : Option SeparatorForm)
    (rest : Text) :
    BehindSteps (optionText separator ++ ')' :: rest) := by
  cases separator with
  | none =>
      exact .close rest
  | some separator =>
      exact .comma _

namespace BehindSteps

variable {behind : Text}

theorem ink
    (ends : BehindSteps behind)
    (steps : List StepForm) :
    ∀ c ∈ (StepForm.textAll steps ++ behind).head?, isAsciiBlank c = false := by
  cases steps with
  | nil =>
      cases ends <;> simp [StepForm.textAll, isAsciiBlank]
  | cons step later =>
      simp [StepForm.textAll, StepForm.text, StepForm.front, isAsciiBlank]

theorem endsName
    (ends : BehindSteps behind)
    (steps : List StepForm) :
    Text.EndsName (StepForm.textAll steps ++ behind) := by
  cases steps with
  | nil =>
      cases ends with
      | comma rest =>
          exact .stop (by decide) (by decide) rest
      | close rest =>
          exact .stop (by decide) (by decide) rest
  | cons step later =>
      exact .arrow _

end BehindSteps

namespace ItemVector

/-- A quoted text is read up to its closing quote. -/
theorem readQuoted?_of_not_mem
    {body : Text}
    (noQuote : '\'' ∉ body)
    (rest : Text) :
    readQuoted? ('\'' :: (body ++ '\'' :: rest)) = some (body, rest) := by
  refine Text.breakAt?_append_cons (fun c isMember => ?_) rfl rest
  rw [beq_eq_false_iff_ne]
  rintro rfl
  exact noQuote isMember

theorem readTransform?_text
    (transform : TransformForm)
    (rest : Text) :
    readTransform? (transform.text ++ rest) = some (transform.kind, rest) := by
  cases transform with
  | quoted body noQuote =>
      have shape :
          '\'' :: (body ++ ['\'']) ++ rest = '\'' :: (body ++ '\'' :: rest) := by
        simp
      rw [TransformForm.text, shape, readTransform?, readQuoted?_of_not_mem noQuote rest]
      rfl
  | call name named gap arguments nested =>
      have shape :
          name ++ (gap.text ++ '(' :: (arguments ++ [')'])) ++ rest =
            name ++ (gap.text ++ '(' :: (arguments ++ ')' :: rest)) := by
        simp
      have open_ : Text.EndsName ('(' :: (arguments ++ ')' :: rest)) :=
        .stop (by decide) (by decide) _
      have taken := Text.takeName_append_of_ends named (gap.endsName open_)
      have unquoted :
          readQuoted? (name ++ (gap.text ++ '(' :: (arguments ++ ')' :: rest))) = none := by
        obtain ⟨first, tail, rfl, starts, -⟩ := Text.exists_cons_of_isName named
        have noQuote : first ≠ '\'' :=
          Text.ne_of_isNameContinue (Text.isNameContinue_of_isNameStart starts) (by decide)
        simp [readQuoted?, noQuote]
      have function :
          readFunction? (name ++ (gap.text ++ '(' :: (arguments ++ ')' :: rest))) =
            some ((name, arguments), rest) := by
        obtain ⟨first, tail, rfl, -⟩ := Text.exists_cons_of_isName named
        rw [readFunction?, taken]
        dsimp only
        rw [gap.skip (by simp [isAsciiBlank]), nested.readParens? rest]
        rfl
      rw [TransformForm.text, shape, readTransform?, unquoted, function]
      rfl

theorem readTransforms?_of_behindSteps
    {behind : Text}
    (ends : BehindSteps behind)
    (size : Nat) :
    readTransforms? size behind = some ([], behind) := by
  cases ends <;> rw [readTransforms?] <;> simp

theorem between_append
    (before written rest : Text)
    (kind : TransformKind) :
    Transform.between (before ++ (written ++ rest)).length (written ++ rest) rest kind =
      { written, offset := before.length, kind } := by
  rw [Transform.between, Text.take_length_sub, List.length_append, Nat.add_sub_cancel]

/-- Steps are read one after the other, each placed behind the text before it. -/
theorem readTransforms?_textAll
    (steps : List StepForm)
    {behind : Text}
    (ends : BehindSteps behind)
    (before : Text) :
    readTransforms? (before ++ (StepForm.textAll steps ++ behind)).length
        (StepForm.textAll steps ++ behind) =
      some (StepForm.capturedAll before steps, behind) := by
  induction steps generalizing before with
  | nil =>
      exact readTransforms?_of_behindSteps ends _
  | cons step later inductionHypothesis =>
      let tail := step.trail.text ++ (StepForm.textAll later ++ behind)
      have shape :
          StepForm.textAll (step :: later) ++ behind =
            '-' :: '>' :: (step.lead.text ++ (step.transform.text ++ tail)) := by
        simp [StepForm.textAll, StepForm.text, StepForm.front, tail]
      have start :
          Text.skipBlanks (step.lead.text ++ (step.transform.text ++ tail)) =
            step.transform.text ++ tail :=
        step.lead.skip (step.transform.ink tail)
      have behindTransform :
          Text.skipBlanks tail = StepForm.textAll later ++ behind :=
        step.trail.skip (ends.ink later)
      have sizeHere :
          before ++ (StepForm.textAll (step :: later) ++ behind) =
            (before ++ step.front) ++ (step.transform.text ++ tail) := by
        rw [shape]
        simp [StepForm.front]
      have sizeLater :
          before ++ (StepForm.textAll (step :: later) ++ behind) =
            (before ++ step.text) ++ (StepForm.textAll later ++ behind) := by
        simp [StepForm.textAll]
      have readLater := inductionHypothesis (before ++ step.text)
      rw [← sizeLater] at readLater
      rw [shape, readTransforms?]
      split
      · rename_i unread
        rw [start, readTransform?_text] at unread
        cases unread
      · rename_i kind rest read
        rw [start, readTransform?_text, Option.some.injEq, Prod.mk.injEq] at read
        obtain ⟨rfl, rfl⟩ := read
        rw [behindTransform, ← shape, readLater, start, sizeHere, between_append]
        rfl

/-- The separator is read up to the end of the vector, placed behind the text before it. -/
theorem readSeparator?_optionText
    (separator : Option SeparatorForm)
    (before rest : Text) :
    readSeparator?
        (before ++ (SeparatorForm.optionText separator ++ ')' :: rest)).length
        (SeparatorForm.optionText separator ++ ')' :: rest) =
      some (separator.map (·.captured before), ')' :: rest) := by
  cases separator with
  | none =>
      rfl
  | some separator =>
      let tail := separator.content ++ '\'' :: (separator.trail.text ++ ')' :: rest)
      have shape :
          SeparatorForm.optionText (some separator) ++ ')' :: rest =
            ',' :: (separator.lead.text ++ '\'' :: tail) := by
        simp [SeparatorForm.optionText, SeparatorForm.text, SeparatorForm.front, tail]
      have start :
          Text.skipBlanks (separator.lead.text ++ '\'' :: tail) = '\'' :: tail :=
        separator.lead.skip (by simp [isAsciiBlank])
      have behindQuote :
          Text.skipBlanks (separator.trail.text ++ ')' :: rest) = ')' :: rest :=
        separator.trail.skip (by simp [isAsciiBlank])
      have offset :
          (before ++ ',' :: (separator.lead.text ++ '\'' :: tail)).length -
              ('\'' :: tail).length + 1 =
            (before ++ separator.front).length := by
        simp only [SeparatorForm.front, List.length_append, List.length_cons, List.length_nil]
        omega
      rw [shape, readSeparator?, start, offset,
        readQuoted?_of_not_mem separator.noQuote (separator.trail.text ++ ')' :: rest),
        Option.map_some]
      dsimp only
      rw [behindQuote]
      rfl

/-- The text of a form is read as the vector of the form, whatever follows. -/
theorem read?_text
    (form : VectorForm)
    (rest : Text) :
    read? (form.text ++ rest) = some (form.vector, rest) := by
  let behind := SeparatorForm.optionText form.separator ++ ')' :: rest
  let tail := form.gap.text ++ (StepForm.textAll form.steps ++ behind)
  let body := form.lead.text ++ (form.itemType ++ tail)
  have ends : BehindSteps behind :=
    SeparatorForm.behindSteps form.separator rest
  have shape : form.text ++ rest = '@' :: '(' :: body := by
    simp [VectorForm.text, VectorForm.front, body, tail, behind]
  have atSteps :
      '@' :: '(' :: body = form.front ++ (StepForm.textAll form.steps ++ behind) := by
    simp [VectorForm.front, body, tail]
  have atSeparator :
      '@' :: '(' :: body = form.front ++ StepForm.textAll form.steps ++ behind := by
    rw [atSteps, List.append_assoc]
  have typeTaken : Text.takeName (Text.skipBlanks body) = (form.itemType, tail) := by
    rw [form.lead.skip (Text.ink_of_isName form.named tail)]
    exact Text.takeName_append_of_ends form.named (form.gap.endsName (ends.endsName form.steps))
  have readSteps := readTransforms?_textAll form.steps ends form.front
  have readSeparator :=
    readSeparator?_optionText form.separator (form.front ++ StepForm.textAll form.steps) rest
  rw [← atSteps] at readSteps
  rw [← atSeparator] at readSeparator
  have parts :
      readParts? ('@' :: '(' :: body).length body =
        some ((form.itemType, form.vector.transforms, form.vector.separator), rest) := by
    obtain ⟨first, more, typeShape, -⟩ := Text.exists_cons_of_isName form.named
    rw [readParts?, typeTaken, typeShape]
    dsimp only
    rw [form.gap.skip (ends.ink form.steps), readSteps]
    dsimp only
    rw [readSeparator]
    rfl
  have taken : body.take (body.length - rest.length) = form.text.drop 2 := by
    have whole : body = form.text.drop 2 ++ rest := by
      simp [VectorForm.text, VectorForm.front, body, tail, behind]
    rw [whole, Text.take_length_sub]
  have size : ('@' :: '(' :: body).length = body.length + 2 :=
    rfl
  rw [shape, read?, ← size, parts, Option.map_some]
  dsimp only
  rw [taken]
  rfl

/-- A bare vector is recognised, whatever follows. -/
theorem read?_bare_append
    {itemType : Text}
    (named : itemType.isName = true)
    (rest : Text) :
    read? ((bare itemType).written ++ rest) = some (bare itemType, rest) := by
  let form : VectorForm :=
    { lead := .none, itemType, named, gap := .none, steps := [], separator := none }
  have written : form.text = (bare itemType).written := by
    simp [form, VectorForm.text, VectorForm.front, StepForm.textAll, SeparatorForm.optionText,
      Blanks.none, bare]
  have whole : form.vector = bare itemType := by
    rw [VectorForm.vector, written]
    rfl
  rw [← whole, ← read?_text form rest, written, whole]

end ItemVector

end RefExpand
