import RefExpand.Proofs.Project.PathParts

namespace RefExpand

/-!
# Escaped paths

A path is cut at separators, at points and behind the colon of a drive. No such
character is reserved and none stands in the escaped form of another, so a path is cut
at the same places when it is escaped, and its parts are the parts of the plain path,
escaped.
-/

namespace Text

/-- A class of characters that escaping neither changes nor brings in. -/
def ClearOfEscapes (p : Char → Bool) : Prop :=
  ∀ c, isReserved c = true → p c = false ∧ ∀ d ∈ escapeChar c, p d = false

section Clear

variable {p : Char → Bool}

/-- The class is tested on the nine reserved characters and on what they become. -/
theorem clearOfEscapes_of_all
    (all : ['%', '*', '?', '@', '$', '(', ')', ';', '\''].all
      (fun c => !p c && (escapeChar c).all fun d => !p d) = true) :
    ClearOfEscapes p := by
  intro c reserved
  have spared := List.all_eq_true.mp all c (isReserved_iff.mp reserved)
  simpa only [Bool.and_eq_true, Bool.not_eq_true', List.all_eq_true] using spared

theorem ClearOfEscapes.not_isReserved
    (clear : ClearOfEscapes p)
    {c : Char}
    (shown : p c = true) :
    isReserved c = false := by
  by_contra reserved
  rw [(clear c (by simpa using reserved)).1] at shown
  cases shown

theorem ClearOfEscapes.free_escape
    (clear : ClearOfEscapes p)
    {text : Text}
    (free : ∀ c ∈ text, p c = false) :
    ∀ c ∈ escape text, p c = false := by
  intro d isMember
  obtain ⟨c, inText, inEscaped⟩ := List.mem_flatMap.mp isMember
  cases reserved : isReserved c with
  | true =>
      exact (clear c reserved).2 d inEscaped
  | false =>
      rw [escapeChar_of_not_isReserved reserved, List.mem_singleton] at inEscaped
      rw [inEscaped]
      exact free c inText

theorem ClearOfEscapes.escape_append_cons
    (clear : ClearOfEscapes p)
    (front : Text)
    {stop : Char}
    (stops : p stop = true)
    (back : Text) :
    escape (front ++ stop :: back) = escape front ++ stop :: escape back := by
  rw [escape_append, escape_cons, escapeChar_of_not_isReserved (clear.not_isReserved stops)]
  rfl

/-- An escaped text is cut where the text is. -/
theorem ClearOfEscapes.breakAtLast?_escape
    (clear : ClearOfEscapes p)
    (text : Text) :
    breakAtLast? p (escape text) = (breakAtLast? p text).map (Prod.map escape escape) := by
  rcases free_or_exists_last p text with free | ⟨front, stop, back, rfl, stops, free⟩
  · rw [breakAtLast?_of_free free, breakAtLast?_of_free (clear.free_escape free)]
    rfl
  · rw [clear.escape_append_cons front stops, breakAtLast?_append_cons stops front free,
      breakAtLast?_append_cons stops (escape front) (clear.free_escape free)]
    rfl

end Clear

end Text

namespace Path

theorem clearOfEscapes_separator :
    Text.ClearOfEscapes isSeparator :=
  Text.clearOfEscapes_of_all rfl

theorem clearOfEscapes_point :
    Text.ClearOfEscapes (· == '.') :=
  Text.clearOfEscapes_of_all rfl

theorem isReserved_of_isAlpha
    {c : Char}
    (isLetter : c.isAlpha = true) :
    Text.isReserved c = false :=
  Text.isReserved_eq_false (Text.forall_mem_of_all rfl) isLetter

section Root

theorem head_kept_escape
    {text : Text}
    (kept : ∀ c ∈ text.head?, isSeparator c = false) :
    ∀ c ∈ text.escape.head?, isSeparator c = false := by
  intro c isHead
  obtain ⟨rest, isEscaped⟩ := List.head?_eq_some_iff.mp isHead
  by_cases isPercent : c = '%'
  · rw [isPercent]
    rfl
  · obtain ⟨tail, rfl, -⟩ := Text.of_escape_eq_cons isEscaped isPercent
    exact kept c rfl

/-- A root holds no reserved character. -/
theorem RootSplit.plain
    {path start rest : Text}
    (split : RootSplit path start rest) :
    ∀ c ∈ start, Text.isReserved c = false := by
  cases split with
  | slashed isLetter cuts =>
      rw [List.forall_mem_cons, List.forall_mem_cons, List.forall_mem_singleton]
      exact ⟨isReserved_of_isAlpha isLetter, rfl, clearOfEscapes_separator.not_isReserved cuts⟩
  | drive isLetter =>
      rw [List.forall_mem_cons, List.forall_mem_singleton]
      exact ⟨isReserved_of_isAlpha isLetter, rfl⟩
  | separators cut =>
      exact fun c inStart => clearOfEscapes_separator.not_isReserved (cut c inStart)

/-- So the root of an escaped path is the root of the path. -/
theorem RootSplit.escaped
    {path start rest : Text}
    (split : RootSplit path start rest) :
    RootSplit path.escape start rest.escape := by
  have isEscaped : path.escape = start ++ rest.escape := by
    rw [split.path_eq, Text.escape_append, Text.escape_of_plain split.plain]
  rw [isEscaped]
  cases split with
  | slashed isLetter cuts =>
      exact .slashed isLetter cuts rest.escape
  | drive isLetter behind =>
      exact .drive isLetter (head_kept_escape behind)
  | separators cut behind noDrive =>
      refine .separators cut (head_kept_escape behind) fun letter tail same => ?_
      -- Escapes begin with a percent sign, so the letter and the colon of a drive are the path's.
      by_contra isLetter
      rw [Bool.not_eq_false] at isLetter
      have noPercent : letter ≠ '%' := by
        rintro rfl
        cases isLetter
      obtain ⟨others, isPath, isRest⟩ := Text.of_escape_eq_cons (isEscaped.trans same) noPercent
      obtain ⟨others, rfl, -⟩ := Text.of_escape_eq_cons isRest (by decide)
      rw [noDrive letter others isPath] at isLetter
      cases isLetter

@[simp] theorem writtenRoot_escape
    (path : Text) :
    writtenRoot path.escape = writtenRoot path :=
  (rootSplit path).escaped.writtenRoot_eq

@[simp] theorem afterRoot_escape
    (path : Text) :
    afterRoot path.escape = (afterRoot path).escape :=
  (rootSplit path).escaped.afterRoot_eq

theorem falseDrive_escape_iff
    {path : Text} :
    FalseDrive path.escape ↔ FalseDrive path := by
  constructor
  · rintro ⟨c, rest, isEscaped, cuts⟩
    have noPercent : c ≠ '%' := by
      rintro rfl
      cases cuts
    obtain ⟨tail, rfl, isRest⟩ := Text.of_escape_eq_cons isEscaped noPercent
    obtain ⟨tail, rfl, -⟩ := Text.of_escape_eq_cons isRest (by decide)
    exact ⟨c, tail, rfl, cuts⟩
  · rintro ⟨c, rest, rfl, cuts⟩
    refine ⟨c, Text.escape rest, ?_, cuts⟩
    rw [Text.escape_cons, Text.escape_cons,
      Text.escapeChar_of_not_isReserved (clearOfEscapes_separator.not_isReserved cuts)]
    rfl

theorem RootForm.plain
    {path start rest form : Text}
    (isForm : RootForm path start rest form) :
    ∀ c ∈ form, Text.isReserved c = false := by
  cases isForm with
  | absent =>
      exact List.forall_mem_nil _
  | slashed isLetter =>
      rw [List.forall_mem_cons]
      exact ⟨isReserved_of_isAlpha isLetter, Text.forall_mem_of_all rfl⟩
  | drive isLetter =>
      rw [List.forall_mem_cons]
      exact ⟨isReserved_of_isAlpha isLetter, Text.forall_mem_of_all rfl⟩
  | falseDrive cuts =>
      rw [List.forall_mem_cons]
      exact ⟨clearOfEscapes_separator.not_isReserved cuts, Text.forall_mem_of_all rfl⟩
  | separators =>
      exact Text.forall_mem_of_all rfl

theorem root_escape
    (path : Text) :
    root path.escape = (root path).escape := by
  rw [Text.escape_of_plain (rootForm path).plain]
  by_cases isDrive : FalseDrive path
  · rw [(rootForm path.escape).form_eq_of_falseDrive (falseDrive_escape_iff.mpr isDrive),
      (rootForm path).form_eq_of_falseDrive isDrive, writtenRoot_escape]
  · rw [(rootForm path.escape).form_eq_normalRoot (falseDrive_escape_iff.not.mpr isDrive),
      (rootForm path).form_eq_normalRoot isDrive, writtenRoot_escape]

end Root

section Parts

theorem endsWithSeparator_escape
    (path : Text) :
    endsWithSeparator path.escape = endsWithSeparator path := by
  rcases path.eq_nil_or_concat with rfl | ⟨front, c, rfl⟩
  · rfl
  · rw [List.concat_eq_append, Text.escape_append,
      endsWithSeparator_append _ (List.cons_ne_nil c []),
      endsWithSeparator_append _ (Text.escape_ne_nil (List.cons_ne_nil c []))]
    cases reserved : Text.isReserved c with
    | true =>
        have free : ∀ d ∈ [c], isSeparator d = false :=
          List.forall_mem_singleton.mpr (clearOfEscapes_separator c reserved).1
        have freeEscaped := clearOfEscapes_separator.free_escape free
        rw [endsWithSeparator_eq_false_iff.mpr fun d isLast => free d (List.mem_of_getLast? isLast),
          endsWithSeparator_eq_false_iff.mpr fun d isLast =>
            freeEscaped d (List.mem_of_getLast? isLast)]
    | false =>
        rw [Text.escape_of_plain (List.forall_mem_singleton.mpr reserved)]

theorem throughSeparator_escape
    (text : Text) :
    throughSeparator text.escape = (throughSeparator text).escape := by
  rcases Text.free_or_exists_last isSeparator text with free | ⟨front, stop, back, rfl, stops, free⟩
  · rw [throughSeparator_of_free free,
      throughSeparator_of_free (clearOfEscapes_separator.free_escape free), Text.escape_nil]
  · rw [clearOfEscapes_separator.escape_append_cons front stops,
      throughSeparator_append_cons front stops free,
      throughSeparator_append_cons _ stops (clearOfEscapes_separator.free_escape free),
      clearOfEscapes_separator.escape_append_cons front stops, Text.escape_nil]

theorem fixSeparators_escape
    (text : Text) :
    fixSeparators text.escape = (fixSeparators text).escape := by
  have ofChar : ∀ c, fixSeparators (Text.escapeChar c) = Text.escapeChar (fixChar c) := by
    intro c
    cases reserved : Text.isReserved c with
    | true =>
        obtain ⟨kept, free⟩ := clearOfEscapes_separator c reserved
        have slashes : '\\' ∉ Text.escapeChar c := by
          intro isMember
          cases free '\\' isMember
        rw [fixChar_of_kept kept, fixSeparators_of_not_mem slashes]
    | false =>
        have plain : Text.isReserved (fixChar c) = false := by
          unfold fixChar
          split
          · rfl
          · exact reserved
        rw [Text.escapeChar_of_not_isReserved reserved, Text.escapeChar_of_not_isReserved plain]
        rfl
  induction text with
  | nil =>
      rfl
  | cons c rest inductionHypothesis =>
      rw [Text.escape_cons, fixSeparators_append, ofChar, inductionHypothesis]
      rfl

theorem directoryWithSeparator_escape
    (path : Text) :
    directoryWithSeparator path.escape = (directoryWithSeparator path).escape := by
  rw [directoryWithSeparator_eq, directoryWithSeparator_eq, writtenRoot_escape, afterRoot_escape,
    throughSeparator_escape, Text.escape_append, Text.escape_of_plain (rootSplit path).plain]

theorem fileName_escape
    (path : Text) :
    fileName path.escape = (fileName path).escape := by
  unfold fileName
  rw [afterRoot_escape, clearOfEscapes_separator.breakAtLast?_escape]
  cases Text.breakAtLast? isSeparator (afterRoot path) <;> rfl

theorem fileStem_escape
    (path : Text) :
    fileStem path.escape = (fileStem path).escape := by
  unfold fileStem
  rw [fileName_escape, clearOfEscapes_point.breakAtLast?_escape]
  cases Text.breakAtLast? (· == '.') (fileName path) <;> rfl

theorem extension_escape
    (path : Text) :
    extension path.escape = (extension path).escape := by
  unfold extension
  rw [fileName_escape, clearOfEscapes_point.breakAtLast?_escape]
  cases Text.breakAtLast? (· == '.') (fileName path) with
  | none =>
      rfl
  | some parts =>
      have sameEmpty : (Text.escape parts.2).isEmpty = parts.2.isEmpty := by
        cases parts.2 with
        | nil =>
            rfl
        | cons c rest =>
            exact List.isEmpty_eq_false_iff.mpr (Text.escape_ne_nil (List.cons_ne_nil c rest))
      simp only [Option.map_some, Prod.map_snd, sameEmpty]
      split <;> rfl

theorem directoryWithoutRoot_escape
    (path : Text) :
    SpecModifier.directoryWithoutRoot path.escape =
      (SpecModifier.directoryWithoutRoot path).escape := by
  rw [directoryWithoutRoot_eq, directoryWithoutRoot_eq, afterRoot_escape, throughSeparator_escape,
    fixSeparators_escape]

end Parts

end Path

end RefExpand
