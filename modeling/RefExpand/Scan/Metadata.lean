import RefExpand.Scan.Reader
import RefExpand.Text.Name

namespace RefExpand

/-!
# Metadata references

A metadata reference is `%(Name)` or `%(Type.Name)`, with blanks allowed around
the names.
-/

/-- A reference to metadata of the current item, or of items of one type. -/
structure MetadataReference where
  written : Text
  itemType : Option Text
  name : Text
  deriving Repr, DecidableEq, Inhabited

namespace MetadataReference

/-- The name with the item type in front of it, if there is one. -/
def key (reference : MetadataReference) : Text :=
  match reference.itemType with
  | some itemType => itemType ++ '.' :: reference.name
  | none => reference.name

/-- A name with the blanks around it, and the rest. -/
def readPart? (text : Text) : Option (Text × Text) :=
  match Text.takeDashedName text.skipBlanks with
  | ([], _) => none
  | (name, rest) => some (name, rest.skipBlanks)

/-- The names of a reference after its opening, and what stands after the closing parenthesis. -/
def readNames? (text : Text) : Option ((Option Text × Text) × Text) :=
  match readPart? text with
  | none => none
  | some (first, ')' :: rest) => some ((none, first), rest)
  | some (first, '.' :: rest) =>
      match readPart? rest with
      | some (second, ')' :: rest) => some ((some first, second), rest)
      | _ => none
  | _ => none

/-- A metadata reference at the beginning of the text. -/
def read? : Text → Option (MetadataReference × Text)
  | '%' :: '(' :: text =>
      (readNames? text).map fun ((itemType, name), rest) =>
        let written := '%' :: '(' :: text.take (text.length - rest.length)
        ({ written, itemType, name }, rest)
  | _ => none

theorem readPart?_suffix
    {text name rest : Text} (read : readPart? text = some (name, rest)) :
    rest <:+ text := by
  unfold readPart? at read
  split at read
  · cases read
  · rename_i taken rest' nonempty taken_eq
    simp only [Option.some.injEq, Prod.mk.injEq] at read
    obtain ⟨rfl, rfl⟩ := read
    have whole := Text.takeDashedName_append text.skipBlanks
    rw [taken_eq] at whole
    have taken_suffix : rest' <:+ text.skipBlanks := ⟨_, whole⟩
    exact (Text.skipBlanks_suffix _).trans (taken_suffix.trans (Text.skipBlanks_suffix text))

theorem readNames?_suffix
    {text rest : Text} {names : Option Text × Text}
    (read : readNames? text = some (names, rest)) :
    rest <:+ text := by
  unfold readNames? at read
  split at read
  · cases read
  · rename_i first rest' part
    simp only [Option.some.injEq, Prod.mk.injEq] at read
    obtain ⟨-, rfl⟩ := read
    exact (List.suffix_cons _ _).trans (readPart?_suffix part)
  · rename_i first rest' part
    split at read
    · rename_i second rest'' part'
      simp only [Option.some.injEq, Prod.mk.injEq] at read
      obtain ⟨-, rfl⟩ := read
      exact (List.suffix_cons _ _).trans
        ((readPart?_suffix part').trans ((List.suffix_cons _ _).trans (readPart?_suffix part)))
    · cases read
  · cases read

theorem read?_length
    {text rest : Text} {reference : MetadataReference}
    (read : read? text = some (reference, rest)) :
    rest.length < text.length := by
  unfold read? at read
  split at read
  · rename_i body
    simp only [Option.map_eq_some_iff, Prod.mk.injEq, Prod.exists] at read
    obtain ⟨itemType, name, rest', names, -, rfl⟩ := read
    have := (readNames?_suffix names).length_le
    simp only [List.length_cons]
    omega
  · cases read

/-- Reads metadata references. -/
def reader : Reader MetadataReference where
  read? := read?
  shrinks := read?_length

/-- Cut a text at its metadata references. -/
def cut (text : Text) : Cut MetadataReference :=
  reader.cut text

/-- How the metadata references of a text lie in it. -/
inductive Coverage where
  | absent
  | whole
  | partly
  | several
  deriving Repr, DecidableEq

/-- No reference, the whole text, one beside other text, or several. -/
def coverage (text : Text) : Coverage :=
  match cut text with
  | ⟨[], _⟩ => .absent
  | ⟨[([], _)], []⟩ => .whole
  | ⟨[_], _⟩ => .partly
  | _ => .several

/-- The text holds a metadata reference. -/
def occursIn (text : Text) : Bool :=
  !(cut text).found.isEmpty

end MetadataReference

end RefExpand
