namespace RefExpand

/-!
# Texts

A text is a list of characters, so that scanners are recursions on the data and
every position is a suffix. Two measures other than the length appear where
positions are reported: the size in UTF-8 and the cut at a UTF-8 offset.
-/

/-- A text, as the list of its characters. -/
abbrev Text := List Char

instance : Coe String Text where
  coe := String.toList

namespace Text

/-- The string with these characters. -/
def toString (text : Text) : String :=
  String.ofList text

/-- The number of bytes of the text in UTF-8. -/
def utf8Size (text : Text) : Nat :=
  text.foldr (fun c size => c.utf8Size + size) 0

/-- The text after its first `offset` bytes. -/
def dropBytes : Nat → Text → Text
  | 0, text => text
  | _, [] => []
  | offset + 1, c :: rest => dropBytes (offset + 1 - c.utf8Size) rest

/-- The characters within the first `offset` bytes. -/
def takeBytes : Nat → Text → Text
  | 0, _ => []
  | _, [] => []
  | offset + 1, c :: rest => c :: takeBytes (offset + 1 - c.utf8Size) rest

/-- The part of the text between two byte offsets. -/
def window (start finish : Nat) (text : Text) : Text :=
  dropBytes start (takeBytes finish text)

/-- Lower-case the ASCII letters and keep all else. -/
def lowerAscii (text : Text) : Text :=
  text.map Char.toLower

/-- Upper-case the ASCII letters and keep all else. -/
def upperAscii (text : Text) : Text :=
  text.map Char.toUpper

/-- Equality up to the case of ASCII letters, as names compare. -/
def sameName (left right : Text) : Bool :=
  left.lowerAscii == right.lowerAscii

/-- The text without this beginning, if it has it. -/
def dropBeginning? (beginning text : Text) : Option Text :=
  match beginning, text with
  | [], text => some text
  | _ :: _, [] => none
  | b :: beginning, c :: text =>
      if b = c then dropBeginning? beginning text else none

/-- The text starts with this beginning. -/
def startsWith (beginning text : Text) : Bool :=
  (dropBeginning? beginning text).isSome

/-- The text ends with this ending. -/
def endsWith (ending text : Text) : Bool :=
  startsWith ending.reverse text.reverse

/--
Cut the text at the first occurrence of `needle`: what stands before it, and
what stands after it.
-/
def breakOn? (needle : Text) : Text → Option (Text × Text)
  | [] =>
      if needle.isEmpty then some ([], []) else none
  | c :: rest =>
      match dropBeginning? needle (c :: rest) with
      | some after => some ([], after)
      | none =>
          (breakOn? needle rest).map fun (before, after) => (c :: before, after)

/-- The text holds this part. -/
def holds (needle text : Text) : Bool :=
  (breakOn? needle text).isSome

/-- Cut the text at the first character of a class, which belongs to neither part. -/
def breakAt? (p : Char → Bool) : Text → Option (Text × Text)
  | [] => none
  | c :: rest =>
      if p c then some ([], rest)
      else (breakAt? p rest).map fun (before, after) => (c :: before, after)

/-- Cut the text at the last character of a class, which belongs to neither part. -/
def breakAtLast? (p : Char → Bool) (text : Text) : Option (Text × Text) :=
  (breakAt? p text.reverse).map fun (after, before) => (before.reverse, after.reverse)

/-- The stretches between the characters of a class, empty ones included. -/
def splitAtChars (p : Char → Bool) : Text → List Text
  | [] => [[]]
  | c :: rest =>
      if p c then
        [] :: splitAtChars p rest
      else
        match splitAtChars p rest with
        | [] => [[c]]
        | piece :: pieces => (c :: piece) :: pieces

theorem dropBeginning?_eq_append
    {beginning text rest : Text} (found : dropBeginning? beginning text = some rest) :
    text = beginning ++ rest := by
  induction beginning generalizing text with
  | nil =>
      simp only [dropBeginning?, Option.some.injEq] at found
      simp [found]
  | cons b beginning inductionHypothesis =>
      cases text with
      | nil => cases found
      | cons c text =>
          simp only [dropBeginning?] at found
          split at found
          · rename_i same
            subst same
            simp [inductionHypothesis found]
          · cases found

/-- A text is put together again from what it was cut into and the needle. -/
theorem breakOn?_eq_append
    {needle text before after : Text}
    (found : breakOn? needle text = some (before, after)) :
    text = before ++ needle ++ after := by
  induction text generalizing before with
  | nil =>
      simp only [breakOn?] at found
      split at found
      · rename_i blank
        simp only [List.isEmpty_iff] at blank
        simp only [Option.some.injEq, Prod.mk.injEq] at found
        simp [blank, ← found.1, ← found.2]
      · cases found
  | cons c rest inductionHypothesis =>
      simp only [breakOn?] at found
      split at found
      · rename_i here
        simp only [Option.some.injEq, Prod.mk.injEq] at found
        rw [← found.1, ← found.2]
        exact dropBeginning?_eq_append here
      · simp only [Option.map_eq_some_iff, Prod.mk.injEq, Prod.exists] at found
        obtain ⟨earlier, later, inRest, rfl, rfl⟩ := found
        simpa using inductionHypothesis inRest

theorem length_of_breakOn?
    {needle text before after : Text}
    (found : breakOn? needle text = some (before, after)) :
    text.length = before.length + needle.length + after.length := by
  rw [breakOn?_eq_append found, List.length_append, List.length_append]

/-- The stretches between the non-overlapping occurrences of a non-empty `separator`. -/
def splitOn (separator text : Text) : List Text :=
  if _blank : separator = [] then
    [text]
  else
    match _found : breakOn? separator text with
    | none => [text]
    | some (before, after) => before :: splitOn separator after
termination_by text.length
decreasing_by
  have := length_of_breakOn? _found
  have : 0 < separator.length := List.length_pos_iff.mpr _blank
  omega

/-- Put `separator` between the pieces. -/
def join (separator : Text) (pieces : List Text) : Text :=
  separator.intercalate pieces

/-- Replace the non-overlapping occurrences of a non-empty `needle`, from the left. -/
def replace (needle replacement text : Text) : Text :=
  join replacement (splitOn needle text)

end Text

end RefExpand
