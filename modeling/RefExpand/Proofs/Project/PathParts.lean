import RefExpand.Project.SpecModifier
import RefExpand.Proofs.Project.NormalForms

namespace RefExpand

/-!
# Parts of a path

Behind its root a path is its directories, up to the last separator, and its file name.
The root in normal form, the directories in slashes and the file name make up a normal
form again, unless its root is taken for that of a drive.
-/

namespace Path

/-- A text up to its last separator. -/
def throughSeparator (text : Text) : Text :=
  text.trimEndBy fun c => !isSeparator c

theorem throughSeparator_isPrefix
    (text : Text) :
    throughSeparator text <+: text :=
  Text.trimEndBy_isPrefix _ text

theorem throughSeparator_of_free
    {text : Text}
    (free : ∀ c ∈ text, isSeparator c = false) :
    throughSeparator text = [] :=
  Text.trimEndBy_of_dropped fun c isMember => by rw [free c isMember]; rfl

theorem throughSeparator_of_ends
    {text : Text}
    (ends : text = [] ∨ endsWithSeparator text = true) :
    throughSeparator text = text := by
  rcases ends with rfl | ends
  · rfl
  · rw [endsWithSeparator] at ends
    refine Text.trimEndBy_eq_self_iff.mpr fun c isLast => ?_
    rw [isLast, Option.any_some] at ends
    rw [ends]
    rfl

theorem throughSeparator_append
    (front back : Text) :
    throughSeparator (front ++ back) =
      if throughSeparator back = [] then throughSeparator front
      else front ++ throughSeparator back :=
  Text.trimEndBy_append _ front back

theorem throughSeparator_append_cons
    (front : Text)
    {stop : Char}
    (stops : isSeparator stop = true)
    {back : Text}
    (free : ∀ c ∈ back, isSeparator c = false) :
    throughSeparator (front ++ stop :: back) = front ++ [stop] := by
  rw [List.append_cons, throughSeparator_append, throughSeparator_of_free free, if_pos rfl]
  exact throughSeparator_of_ends (.inr (by simp [endsWithSeparator, stops]))

theorem throughSeparator_eq_nil_iff
    {text : Text} :
    throughSeparator text = [] ↔ ∀ c ∈ text, isSeparator c = false := by
  refine ⟨fun blank => ?_, throughSeparator_of_free⟩
  rcases Text.free_or_exists_last isSeparator text with free | ⟨front, stop, back, rfl, stops, free⟩
  · exact free
  · rw [throughSeparator_append_cons front stops free] at blank
    simp at blank

/-- A root ends with a separator, unless it holds none. -/
theorem RootSplit.throughSeparator_start
    {path start rest : Text}
    (split : RootSplit path start rest) :
    throughSeparator start = start ∨ throughSeparator start = [] := by
  cases split with
  | slashed isLetter cuts =>
      exact .inl (throughSeparator_of_ends (.inr cuts))
  | drive isLetter =>
      refine .inr (throughSeparator_of_free ?_)
      rw [List.forall_mem_cons, List.forall_mem_singleton]
      exact ⟨isSeparator_of_isAlpha isLetter, rfl⟩
  | separators cut =>
      refine .inl (throughSeparator_of_ends ?_)
      rcases start.eq_nil_or_concat with rfl | ⟨front, stop, rfl⟩
      · exact .inl rfl
      · refine .inr ?_
        simpa [endsWithSeparator] using cut stop (by simp)

/-- The directory of a path is its root and what stands behind it up to the last separator. -/
theorem directoryWithSeparator_eq
    (path : Text) :
    directoryWithSeparator path = writtenRoot path ++ throughSeparator (afterRoot path) := by
  have split := rootSplit path
  have cut : throughSeparator path = throughSeparator (writtenRoot path ++ afterRoot path) :=
    congrArg throughSeparator split.path_eq
  change (if (throughSeparator path).isEmpty then writtenRoot path else throughSeparator path) = _
  rw [cut, throughSeparator_append]
  by_cases behind : throughSeparator (afterRoot path) = []
  · rw [if_pos behind, behind, List.append_nil]
    rcases split.throughSeparator_start with whole | nothing
    · rw [whole, ite_self]
    · rw [nothing]
      rfl
  · rw [if_neg behind, List.isEmpty_eq_false_iff.mpr (List.append_ne_nil_of_right_ne_nil _ behind)]
    rfl

/-- Behind the root the file name follows the last separator. -/
theorem throughSeparator_append_fileName
    (path : Text) :
    throughSeparator (afterRoot path) ++ fileName path = afterRoot path := by
  unfold fileName
  rcases Text.free_or_exists_last isSeparator (afterRoot path) with
    free | ⟨front, stop, back, divided, stops, free⟩
  · rw [throughSeparator_of_free free, Text.breakAtLast?_of_free free]
    rfl
  · rw [divided, throughSeparator_append_cons front stops free,
      Text.breakAtLast?_append_cons stops front free, List.append_assoc, List.singleton_append]

theorem directoryWithoutRoot_eq
    (path : Text) :
    SpecModifier.directoryWithoutRoot path =
      fixSeparators (throughSeparator (afterRoot path)) := by
  have split := (rootSplit path).cut (throughSeparator_isPrefix (afterRoot path))
  rw [SpecModifier.directoryWithoutRoot, directoryWithSeparator_eq, split.afterRoot_eq]

theorem fixSeparators_of_not_mem
    {text : Text}
    (absent : '\\' ∉ text) :
    fixSeparators text = text := by
  have keeps : ∀ c ∈ text, fixChar c = id c := by
    intro c isMember
    cases isCut : isSeparator c with
    | true =>
        have isSlash : c = '/' :=
          (isSeparator_iff.mp isCut).resolve_right fun isBackslash =>
            absent (isBackslash ▸ isMember)
        rw [isSlash]
        rfl
    | false =>
        exact fixChar_of_kept isCut
  rw [fixSeparators_eq_map, List.map_congr_left keeps, List.map_id]

/-- The parts of a normal form make it up unless its root is taken for that of a drive. -/
theorem parts_of_normalize_iff
    (path : Text) :
    let form := normalize path
    root form ++ SpecModifier.directoryWithoutRoot form ++ fileName form = form ↔
      ¬ FalseDrive form := by
  intro form
  have parts : form = writtenRoot form ++ throughSeparator (afterRoot form) ++ fileName form := by
    rw [List.append_assoc, throughSeparator_append_fileName]
    exact (rootSplit form).path_eq
  rw [directoryWithoutRoot_eq, ← root_eq_writtenRoot_iff]
  conv => left; right; rw [parts]
  rw [List.append_cancel_right_eq]
  constructor
  · intro same
    -- Written in slashes the directory is as long as before, so the roots are of one length.
    have lengths := congrArg List.length same
    rw [List.length_append, List.length_append, fixSeparators_eq_map, List.length_map] at lengths
    exact (List.append_inj same (by omega)).1
  · intro isRoot
    have slashes : '\\' ∉ throughSeparator (afterRoot form) := by
      intro isMember
      refine root_eq_writtenRoot_iff.mp isRoot (falseDrive_of_backslash_mem ?_)
      have behind : '\\' ∈ afterRoot form :=
        (throughSeparator_isPrefix _).mem isMember
      rw [(rootSplit (normalize path)).path_eq]
      exact List.mem_append_right _ behind
    rw [fixSeparators_of_not_mem slashes]
    exact congrArg (· ++ throughSeparator (afterRoot form)) isRoot

end Path

end RefExpand
