import RefExpand.Scan.Balanced
import RefExpand.Scan.Metadata

namespace RefExpand

/-!
# Item vectors

An item vector is `@(Type->transform->…, 'separator')`. A transform is a text in
single quotes or a function with an argument list; blanks are allowed between
the parts.
-/

/-- What a transform does to the items. -/
inductive TransformKind where
  | quoted (body : Text)
  | function (name : Text) (arguments : Text)
  deriving Repr, DecidableEq, Inhabited

/-- A transform as it is written, and how many characters of the vector stand before it. -/
structure Transform where
  written : Text
  offset : Nat
  kind : TransformKind
  deriving Repr, DecidableEq, Inhabited

/-- The separator of a vector, and how many characters of the vector stand before it. -/
structure Separator where
  text : Text
  offset : Nat
  deriving Repr, DecidableEq, Inhabited

/-- A reference to the items of one type, transformed and joined. -/
structure ItemVector where
  written : Text
  itemType : Text
  transforms : List Transform
  separator : Option Separator
  deriving Repr, DecidableEq, Inhabited

namespace Transform

/-- The name of the function, if the transform is one. -/
def functionName? (transform : Transform) : Option Text :=
  match transform.kind with
  | .quoted _ => none
  | .function name _ => some name

/-- The transform that stands between two suffixes of a text of `size` characters. -/
def between (size : Nat) (start rest : Text) (kind : TransformKind) : Transform :=
  { written := start.take (start.length - rest.length)
    offset := size - start.length
    kind }

/-- The quoted body or the argument list, without its delimiters. -/
def inner (transform : Transform) : Text :=
  match transform.kind with
  | .quoted body => body
  | .function _ arguments => arguments

end Transform

namespace ItemVector

/-- One of the transforms is the function of this name. -/
def hasFunction (vector : ItemVector) (name : Text) : Bool :=
  vector.transforms.any fun transform => transform.functionName?.any (Text.sameName name)

/-- The text put between the items. -/
def joint (vector : ItemVector) : Text :=
  (vector.separator.map (·.text)).getD [';']

/-- A text in single quotes at the beginning, and what stands after it. -/
def readQuoted? : Text → Option (Text × Text)
  | '\'' :: text => Text.breakAt? (· == '\'') text
  | _ => none

/-- A function name and an argument list, blanks between them. -/
def readFunction? (text : Text) : Option ((Text × Text) × Text) :=
  match Text.takeName text with
  | ([], _) => none
  | (name, rest) =>
      (readParens? rest.skipBlanks).map fun (arguments, rest) => ((name, arguments), rest)

/-- A transform at the beginning of the text. -/
def readTransform? (text : Text) : Option (TransformKind × Text) :=
  match readQuoted? text with
  | some (body, rest) => some (.quoted body, rest)
  | none =>
      (readFunction? text).map fun ((name, arguments), rest) => (.function name arguments, rest)

theorem readQuoted?_eq_append
    {text body rest : Text} (read : readQuoted? text = some (body, rest)) :
    text = '\'' :: (body ++ '\'' :: rest) := by
  unfold readQuoted? at read
  split at read
  · rename_i tail
    induction tail generalizing body with
    | nil => simp [Text.breakAt?] at read
    | cons c tail inductionHypothesis =>
        simp only [Text.breakAt?] at read
        split at read
        · rename_i closes
          simp only [Option.some.injEq, Prod.mk.injEq] at read
          obtain ⟨rfl, rfl⟩ := read
          simp_all
        · simp only [Option.map_eq_some_iff, Prod.mk.injEq, Prod.exists] at read
          obtain ⟨before, after, later, rfl, rfl⟩ := read
          simpa using inductionHypothesis later
  · cases read

theorem readFunction?_parts
    {text name arguments rest : Text}
    (read : readFunction? text = some ((name, arguments), rest)) :
    ∃ gap, text = name ++ (gap ++ '(' :: (arguments ++ ')' :: rest)) := by
  unfold readFunction? at read
  split at read
  · cases read
  · rename_i taken rest' nonempty taken_eq
    simp only [Option.map_eq_some_iff, Prod.mk.injEq, Prod.exists] at read
    obtain ⟨inside, after, parens, ⟨rfl, rfl⟩, rfl⟩ := read
    have whole := Text.takeName_append text
    rw [taken_eq] at whole
    obtain ⟨gap, spread⟩ := Text.skipBlanks_suffix rest'
    refine ⟨gap, ?_⟩
    rw [← readParens?_eq_append parens, spread]
    exact whole.symm

/-- A transform that was read lies before its rest, and its inner text is shorter by two at least. -/
theorem readTransform?_lengths
    {text rest : Text} {kind : TransformKind}
    (read : readTransform? text = some (kind, rest)) :
    rest <:+ text ∧
      (Transform.inner { written := [], offset := 0, kind }).length + rest.length + 2 ≤
        text.length := by
  unfold readTransform? at read
  split at read
  · rename_i body rest' quoted
    simp only [Option.some.injEq, Prod.mk.injEq] at read
    obtain ⟨rfl, rfl⟩ := read
    have whole := readQuoted?_eq_append quoted
    subst whole
    constructor
    · exact ⟨'\'' :: (body ++ ['\'']), by simp⟩
    · simp only [Transform.inner, List.length_cons, List.length_append]
      omega
  · simp only [Option.map_eq_some_iff, Prod.mk.injEq, Prod.exists] at read
    obtain ⟨name, arguments, rest', function, rfl, rfl⟩ := read
    obtain ⟨gap, whole⟩ := readFunction?_parts function
    subst whole
    constructor
    · exact ⟨name ++ (gap ++ '(' :: (arguments ++ [')'])), by simp⟩
    · simp only [Transform.inner, List.length_cons, List.length_append]
      omega

/--
The transforms after an item type, each behind an arrow, and the rest. `size` is
the length of the text from the beginning of the vector.
-/
def readTransforms? (size : Nat) (text : Text) : Option (List Transform × Text) :=
  match text with
  | '-' :: '>' :: tail =>
      match _read : readTransform? (Text.skipBlanks tail) with
      | none => none
      | some (kind, rest) =>
          match readTransforms? size rest.skipBlanks with
          | none => none
          | some (later, last) =>
              some (Transform.between size (Text.skipBlanks tail) rest kind :: later, last)
  | text => some ([], text)
termination_by text.length
decreasing_by
  have := (readTransform?_lengths _read).1.length_le
  have := (Text.skipBlanks_suffix tail).length_le
  have := (Text.skipBlanks_suffix rest).length_le
  simp only [List.length_cons]
  omega

/-- An optional separator in single quotes behind a comma, and the rest. -/
def readSeparator? (size : Nat) (text : Text) : Option (Option Separator × Text) :=
  match text with
  | ',' :: tail =>
      let start := Text.skipBlanks tail
      (readQuoted? start).map fun (separator, rest) =>
        (some { text := separator, offset := size - start.length + 1 }, rest.skipBlanks)
  | text => some (none, text)

/-- The parts of a vector after its opening, and what stands after its closing parenthesis. -/
def readParts? (size : Nat) (text : Text) :
    Option ((Text × List Transform × Option Separator) × Text) :=
  match Text.takeName text.skipBlanks with
  | ([], _) => none
  | (itemType, rest) =>
      match readTransforms? size rest.skipBlanks with
      | none => none
      | some (transforms, rest) =>
          match readSeparator? size rest with
          | some (separator, ')' :: rest) => some ((itemType, transforms, separator), rest)
          | _ => none

/-- An item vector at the beginning of the text. -/
def read? : Text → Option (ItemVector × Text)
  | '@' :: '(' :: text =>
      (readParts? (text.length + 2) text).map fun ((itemType, transforms, separator), rest) =>
        let written := '@' :: '(' :: text.take (text.length - rest.length)
        ({ written, itemType, transforms, separator }, rest)
  | _ => none

theorem readTransforms?_suffix
    {size : Nat} {text rest : Text} {transforms : List Transform}
    (read : readTransforms? size text = some (transforms, rest)) :
    rest <:+ text := by
  fun_induction readTransforms? size text generalizing transforms rest with
  | case1 => cases read
  | case2 => cases read
  | case3 tail kind after readOne later last recursion inductionHypothesis =>
      simp only [Option.some.injEq, Prod.mk.injEq] at read
      obtain ⟨rfl, rfl⟩ := read
      have step : after <:+ tail :=
        (readTransform?_lengths readOne).1.trans (Text.skipBlanks_suffix tail)
      exact (inductionHypothesis recursion).trans
        ((Text.skipBlanks_suffix after).trans
          (step.trans ((List.suffix_cons _ _).trans (List.suffix_cons _ _))))
  | case4 =>
      simp only [Option.some.injEq, Prod.mk.injEq] at read
      exact read.2 ▸ List.suffix_refl _

/-- The inner text of a transform that was read is shorter than the text it was read from. -/
theorem inner_lt_of_readTransforms?
    {size : Nat} {text rest : Text} {transforms : List Transform}
    (read : readTransforms? size text = some (transforms, rest)) :
    ∀ transform ∈ transforms, transform.inner.length < text.length := by
  fun_induction readTransforms? size text generalizing transforms rest with
  | case1 => cases read
  | case2 => cases read
  | case3 tail kind after readOne later last recursion inductionHypothesis =>
      simp only [Option.some.injEq, Prod.mk.injEq] at read
      obtain ⟨rfl, rfl⟩ := read
      intro member isMember
      have bounds := readTransform?_lengths readOne
      have startLength := (Text.skipBlanks_suffix tail).length_le
      have afterLength := (Text.skipBlanks_suffix after).length_le
      rcases List.mem_cons.mp isMember with rfl | inLater
      · have inner :
            Transform.inner (Transform.between size (Text.skipBlanks tail) after kind) =
              Transform.inner { written := [], offset := 0, kind } := rfl
        simp only [List.length_cons, inner]
        omega
      · have := inductionHypothesis recursion member inLater
        simp only [List.length_cons]
        omega
  | case4 =>
      simp only [Option.some.injEq, Prod.mk.injEq] at read
      simp [← read.1]

theorem readSeparator?_suffix
    {size : Nat} {text rest : Text} {separator : Option Separator}
    (read : readSeparator? size text = some (separator, rest)) :
    rest <:+ text := by
  unfold readSeparator? at read
  split at read
  · rename_i tail
    simp only [Option.map_eq_some_iff, Prod.mk.injEq, Prod.exists] at read
    obtain ⟨body, after, quoted, -, rfl⟩ := read
    have afterStart : after <:+ Text.skipBlanks tail :=
      ⟨'\'' :: (body ++ ['\'']), by simp [readQuoted?_eq_append quoted]⟩
    exact (Text.skipBlanks_suffix _).trans
      (afterStart.trans ((Text.skipBlanks_suffix tail).trans (List.suffix_cons _ _)))
  · simp only [Option.some.injEq, Prod.mk.injEq] at read
    exact read.2 ▸ List.suffix_refl _

/-- The separator that was read is shorter than the text it was read from. -/
theorem separator_lt_of_readSeparator?
    {size : Nat} {text rest : Text} {separator : Separator}
    (read : readSeparator? size text = some (some separator, rest)) :
    separator.text.length < text.length := by
  unfold readSeparator? at read
  split at read
  · rename_i tail
    simp only [Option.map_eq_some_iff, Prod.mk.injEq, Prod.exists, Option.some.injEq] at read
    obtain ⟨body, after, quoted, rfl, -⟩ := read
    have whole := congrArg List.length (readQuoted?_eq_append quoted)
    have := (Text.skipBlanks_suffix tail).length_le
    simp only [List.length_cons, List.length_append] at whole ⊢
    omega
  · simp at read

theorem readParts?_lengths
    {size : Nat} {text rest : Text} {itemType : Text} {transforms : List Transform}
    {separator : Option Separator}
    (read : readParts? size text = some ((itemType, transforms, separator), rest)) :
    rest <:+ text ∧
      (∀ transform ∈ transforms, transform.inner.length < text.length) ∧
      (∀ s ∈ separator, s.text.length < text.length) := by
  unfold readParts? at read
  split at read
  · cases read
  · rename_i name afterName nonempty taken_eq
    split at read
    · cases read
    · rename_i found afterTransforms readFound
      split at read
      · rename_i foundSeparator last readFoundSeparator
        simp only [Option.some.injEq, Prod.mk.injEq] at read
        obtain ⟨⟨rfl, rfl, rfl⟩, rfl⟩ := read
        have whole := Text.takeName_append text.skipBlanks
        rw [taken_eq] at whole
        have nameSuffix : afterName <:+ text.skipBlanks := ⟨_, whole⟩
        have start : afterName.skipBlanks <:+ text :=
          (Text.skipBlanks_suffix _).trans (nameSuffix.trans (Text.skipBlanks_suffix text))
        have middle := (readTransforms?_suffix readFound).trans start
        refine ⟨?_, ?_, ?_⟩
        · exact (List.suffix_cons _ _).trans
            ((readSeparator?_suffix readFoundSeparator).trans middle)
        · intro transform isMember
          have := inner_lt_of_readTransforms? readFound transform isMember
          have := start.length_le
          omega
        · intro s isSeparator
          rw [Option.mem_def] at isSeparator
          subst isSeparator
          have := separator_lt_of_readSeparator? readFoundSeparator
          have := middle.length_le
          omega
      · cases read

/-- A vector that was read leaves a shorter rest, and its inner texts are shorter than the text. -/
theorem read?_lengths
    {text rest : Text} {vector : ItemVector} (read : read? text = some (vector, rest)) :
    rest.length < text.length ∧
      (∀ transform ∈ vector.transforms, transform.inner.length < text.length) ∧
      (∀ s ∈ vector.separator, s.text.length < text.length) := by
  unfold read? at read
  split at read
  · rename_i body
    simp only [Option.map_eq_some_iff, Prod.mk.injEq, Prod.exists] at read
    obtain ⟨itemType, transforms, separator, rest', parts, rfl, rfl⟩ := read
    have ⟨suffix, inner, separatorShort⟩ := readParts?_lengths parts
    have := suffix.length_le
    refine ⟨?_, ?_, ?_⟩
    · simp only [List.length_cons]
      omega
    · intro transform isMember
      have := inner transform isMember
      simp only [List.length_cons]
      omega
    · intro s isSeparator
      have := separatorShort s isSeparator
      simp only [List.length_cons]
      omega
  · cases read

/-- Reads item vectors. -/
def reader : Reader ItemVector where
  read? := read?
  shrinks := fun read => (read?_lengths read).1

/-- Cut a text at its item vectors. -/
def cut (text : Text) : Cut ItemVector :=
  reader.cut text

end ItemVector

end RefExpand
