import Mathlib.Data.List.TakeWhile
import RefExpand.Text.Blank

namespace RefExpand

/-!
# Trimmed texts

Trimming looks at the ends of a text only, so a text is trimmed as soon as
neither its first nor its last character is blank.
-/

theorem isAsciiBlank_of_isBlank
    {c : Char}
    (notBlank : isBlank c = false) :
    isAsciiBlank c = false := by
  rw [← Bool.not_eq_true]
  intro isAscii
  simp only [isAsciiBlank, Bool.or_eq_true, beq_iff_eq] at isAscii
  rcases isAscii with (((rfl | rfl) | rfl) | rfl) | rfl
  all_goals exact absurd notBlank (by decide)

namespace Text

/-- Nothing is dropped from the front exactly if the first character may stay. -/
theorem trimStartBy_eq_self_iff
    {p : Char → Bool}
    {text : Text} :
    trimStartBy p text = text ↔ ∀ c ∈ text.head?, p c = false := by
  cases text with
  | nil =>
      simp [trimStartBy]
  | cons c rest =>
      have shorter := (List.dropWhile_suffix p (l := rest)).length_le
      rw [trimStartBy, List.dropWhile_cons]
      cases isDropped : p c with
      | true =>
          have differs : rest.dropWhile p ≠ c :: rest := by
            intro same
            rw [same, List.length_cons] at shorter
            omega
          simp [isDropped, differs]
      | false =>
          simp [isDropped]

/-- Nothing is dropped from the end exactly if the last character may stay. -/
theorem trimEndBy_eq_self_iff
    {p : Char → Bool}
    {text : Text} :
    trimEndBy p text = text ↔ ∀ c ∈ text.getLast?, p c = false := by
  rw [← List.head?_reverse, ← trimStartBy_eq_self_iff, trimEndBy, trimStartBy,
    List.reverse_eq_iff]

/-- If something behind a text stays, so does the text. -/
theorem trimEndBy_append
    (p : Char → Bool)
    (front back : Text) :
    trimEndBy p (front ++ back) =
      if trimEndBy p back = [] then trimEndBy p front else front ++ trimEndBy p back := by
  rw [trimEndBy, List.reverse_append, List.dropWhile_append, apply_ite List.reverse,
    List.reverse_append, List.reverse_reverse]
  refine if_congr ?_ rfl rfl
  rw [trimEndBy, List.reverse_eq_nil_iff, List.isEmpty_iff]

theorem trimEndBy_of_dropped
    {p : Char → Bool}
    {text : Text}
    (dropped : ∀ c ∈ text, p c = true) :
    trimEndBy p text = [] := by
  rw [trimEndBy, List.reverse_eq_nil_iff, List.dropWhile_eq_nil_iff]
  exact fun c isMember => dropped c (List.mem_reverse.mp isMember)

/-- Nothing is trimmed exactly if the characters at the ends may stay. -/
theorem trimBy_eq_self_iff
    {p : Char → Bool}
    {text : Text} :
    trimBy p text = text ↔
      (∀ c ∈ text.head?, p c = false) ∧ (∀ c ∈ text.getLast?, p c = false) := by
  rw [← trimEndBy_eq_self_iff, ← trimStartBy_eq_self_iff, trimBy]
  constructor
  · intro trimmed
    have notLonger := (trimEndBy_isPrefix p (trimStartBy p text)).length_le
    rw [trimmed] at notLonger
    have started : trimStartBy p text = text :=
      (trimStartBy_suffix p text).eq_of_length_le notLonger
    rw [started] at trimmed
    exact ⟨started, trimmed⟩
  · rintro ⟨started, ended⟩
    rw [started, ended]

/-- What a test says of a written text, each of its characters has. -/
theorem forall_mem_of_all
    {property : Char → Prop}
    [DecidablePred property]
    {text : Text}
    (all : text.all (fun c => decide (property c)) = true) :
    ∀ c ∈ text, property c :=
  fun c isMember => of_decide_eq_true (List.all_eq_true.mp all c isMember)

/-- A text is trimmed exactly if it neither starts nor ends with a blank. -/
theorem trim_eq_self_iff
    {text : Text} :
    trim text = text ↔
      (∀ c ∈ text.head?, isBlank c = false) ∧ (∀ c ∈ text.getLast?, isBlank c = false) :=
  trimBy_eq_self_iff

theorem trim_of_not_blank
    {text : Text}
    (notBlank : ∀ c ∈ text, isBlank c = false) :
    trim text = text := by
  rw [trim_eq_self_iff]
  constructor
  · intro c isHead
    exact notBlank c (List.mem_of_mem_head? isHead)
  · intro c isLast
    exact notBlank c (List.mem_of_mem_getLast? isLast)

theorem trim_cons_ne_nil
    {c : Char}
    (ink : isBlank c = false)
    (rest : Text) :
    trim (c :: rest) ≠ [] := by
  intro nothing
  have started : trimStartBy isBlank (c :: rest) = c :: rest :=
    trimStartBy_eq_self_iff.mpr (by simpa using ink)
  rw [trim, trimBy, started, trimEndBy, List.reverse_cons, List.reverse_eq_nil_iff,
    List.dropWhile_append] at nothing
  split at nothing
  · rw [List.dropWhile_cons_of_neg (by simp [ink])] at nothing
    cases nothing
  · simp at nothing

/-- A text that begins and ends with what is not blank is trimmed. -/
theorem trim_cons_append_singleton
    {first last : Char}
    (firstInk : isBlank first = false)
    (lastInk : isBlank last = false)
    (middle : Text) :
    trim (first :: (middle ++ [last])) = first :: (middle ++ [last]) := by
  rw [trim_eq_self_iff]
  constructor
  · simpa using firstInk
  · rw [← List.cons_append, List.getLast?_concat]
    simpa using lastInk

theorem trim_cons_of_isBlank
    {c : Char}
    (blank : isBlank c = true)
    (text : Text) :
    trim (c :: text) = trim text := by
  rw [trim, trimBy, trimStartBy, List.dropWhile_cons_of_pos blank]
  rfl

/-- What is dropped around a text is dropped with what is dropped at its ends. -/
theorem trimBy_between
    {p : Char → Bool}
    {before after : Text}
    (droppedBefore : ∀ c ∈ before, p c = true)
    (droppedAfter : ∀ c ∈ after, p c = true)
    (text : Text) :
    trimBy p (before ++ text ++ after) = trimBy p text := by
  have nothing : after.dropWhile p = [] :=
    List.dropWhile_eq_nil_iff.mpr droppedAfter
  have droppedReverse : ∀ c ∈ after.reverse, p c = true :=
    fun c isMember => droppedAfter c (List.mem_reverse.mp isMember)
  have ended :
      ∀ front : Text, trimEndBy p (front ++ after) = trimEndBy p front := by
    intro front
    rw [trimEndBy, List.reverse_append, List.dropWhile_append_of_pos droppedReverse]
    rfl
  have started :
      trimStartBy p (before ++ text ++ after) = trimStartBy p (text ++ after) := by
    rw [List.append_assoc]
    exact List.dropWhile_append_of_pos droppedBefore
  rw [trimBy, started, trimStartBy, List.dropWhile_append, nothing]
  split
  · rename_i allDropped
    rw [trimBy, trimStartBy, List.isEmpty_iff.mp allDropped]
  · exact ended _

/-- What trimming takes away are blanks on both sides. -/
theorem exists_blanks_around
    (text : Text) :
    ∃ before after,
      (∀ c ∈ before, isBlank c = true) ∧ (∀ c ∈ after, isBlank c = true) ∧
        text = before ++ trim text ++ after := by
  refine
    ⟨text.takeWhile isBlank, ((text.dropWhile isBlank).reverse.takeWhile isBlank).reverse,
      fun c isMember => List.mem_takeWhile_imp isMember,
      fun c isMember => List.mem_takeWhile_imp (List.mem_reverse.mp isMember), ?_⟩
  rw [trim, trimBy, trimEndBy, trimStartBy, List.append_assoc, ← List.reverse_append,
    List.takeWhile_append_dropWhile, List.reverse_reverse, List.takeWhile_append_dropWhile]

/-- A text in which something is not blank is not trimmed away. -/
theorem trim_ne_nil_of_mem
    {c : Char}
    (ink : isBlank c = false)
    {text : Text}
    (isMember : c ∈ text) :
    trim text ≠ [] := by
  intro nothing
  obtain ⟨before, after, blankBefore, blankAfter, shape⟩ := exists_blanks_around text
  rw [nothing, List.append_nil] at shape
  rw [shape, List.mem_append] at isMember
  have blank : isBlank c = true :=
    isMember.elim (blankBefore c) (blankAfter c)
  rw [ink] at blank
  cases blank

theorem trim_trim
    (text : Text) :
    trim (trim text) = trim text := by
  obtain ⟨before, after, blankBefore, blankAfter, shape⟩ := exists_blanks_around text
  have between := trimBy_between blankBefore blankAfter (trim text)
  rw [← shape] at between
  exact between.symm

/-- Blanks are skipped up to the first character that is none. -/
theorem skipBlanks_append
    {blanks rest : Text}
    (blank : ∀ c ∈ blanks, isAsciiBlank c = true)
    (ink : ∀ c ∈ rest.head?, isAsciiBlank c = false) :
    skipBlanks (blanks ++ rest) = rest := by
  rw [skipBlanks, List.dropWhile_append_of_pos blank]
  cases rest with
  | nil =>
      rfl
  | cons c rest =>
      have inkHere : isAsciiBlank c = false := by
        simpa using ink
      simp [inkHere]

end Text

end RefExpand
