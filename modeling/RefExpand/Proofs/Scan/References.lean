import RefExpand.Proofs.Text.Name
import RefExpand.Scan.ItemVector

namespace RefExpand

/-!
# Cutting a text stretch by stretch

A reader that recognises nothing at any character of a stretch leaves it whole,
and one that recognises a stretch goes on behind it, whatever follows. So a text
is cut by cutting its stretches. Bare references are recognised everywhere.
-/

theorem Text.take_length_sub
    (front rest : Text) :
    (front ++ rest).take ((front ++ rest).length - rest.length) = front := by
  rw [List.length_append, Nat.add_sub_cancel, List.take_left]

namespace Cut

/-- Put a stretch in front of the text before the first value. -/
def prepend
    (front : Text)
    (cut : Cut α) :
    Cut α :=
  match cut.found with
  | [] => { cut with last := front ++ cut.last }
  | (gap, value) :: more => { cut with found := (front ++ gap, value) :: more }

@[simp] theorem prepend_nil
    (cut : Cut α) :
    cut.prepend [] = cut := by
  obtain ⟨found, last⟩ := cut
  cases found <;> rfl

theorem prepend_cons
    (c : Char)
    (front : Text)
    (cut : Cut α) :
    cut.prepend (c :: front) = (cut.prepend front).push c := by
  obtain ⟨found, last⟩ := cut
  cases found <;> rfl

end Cut

namespace Reader

variable {reader : Reader α}

@[simp] theorem cut_nil :
    reader.cut [] = { found := [], last := [] } := by
  rw [cut]

/-- What is recognised comes first, and cutting goes on behind it. -/
theorem cut_of_read
    {text rest : Text}
    {value : α}
    (read : reader.read? text = some (value, rest)) :
    reader.cut text =
      { reader.cut rest with found := ([], value) :: (reader.cut rest).found } := by
  cases text with
  | nil =>
      exact absurd (reader.shrinks read) (by simp)
  | cons c tail =>
      rw [cut]
      split
      · rename_i value' rest' read'
        rw [read, Option.some.injEq, Prod.mk.injEq] at read'
        obtain ⟨rfl, rfl⟩ := read'
        rfl
      · rename_i unread
        rw [read] at unread
        cases unread

/-- Where nothing is recognised, cutting goes on one character later. -/
theorem cut_of_unread
    {c : Char}
    {rest : Text}
    (unread : reader.read? (c :: rest) = none) :
    reader.cut (c :: rest) = (reader.cut rest).push c := by
  rw [cut]
  split
  · rename_i value rest' read
    rw [unread] at read
    cases read
  · rfl

/-- A text that is one value is cut into this value. -/
theorem cut_of_whole
    {text : Text}
    {value : α}
    (read : reader.read? text = some (value, [])) :
    reader.cut text = { found := [([], value)], last := [] } := by
  rw [cut_of_read read, cut_nil]

/-- A stretch in which nothing is ever recognised is left whole. -/
theorem cut_append
    {front : Text}
    (unread : ∀ c ∈ front, ∀ rest, reader.read? (c :: rest) = none)
    (rest : Text) :
    reader.cut (front ++ rest) = (reader.cut rest).prepend front := by
  induction front with
  | nil =>
      simp
  | cons c front inductionHypothesis =>
      have later :=
        inductionHypothesis fun d isMember => unread d (List.mem_cons_of_mem _ isMember)
      rw [List.cons_append, cut_of_unread (unread c List.mem_cons_self _), later,
        Cut.prepend_cons]

end Reader

namespace MetadataReference

/-- The reference to a name, perhaps of one item type, without blanks. -/
def bare
    (itemType : Option Text)
    (name : Text) :
    MetadataReference :=
  { written :=
      '%' :: '(' :: ((itemType.map (· ++ ['.'])).getD [] ++ name ++ [')'])
    itemType
    name }

/-- A metadata reference begins with a percent sign. -/
theorem read?_eq_none
    {c : Char}
    (other : c ≠ '%')
    (rest : Text) :
    read? (c :: rest) = none := by
  unfold read?
  split
  · rename_i isPercent
    cases isPercent
    exact absurd rfl other
  · rfl

end MetadataReference

namespace ItemVector

/-- The vector of all items of a type, without blanks. -/
def bare
    (itemType : Text) :
    ItemVector :=
  { written := '@' :: '(' :: (itemType ++ [')'])
    itemType
    transforms := []
    separator := none }

/-- A vector begins with an at sign. -/
theorem read?_eq_none
    {c : Char}
    (other : c ≠ '@')
    (rest : Text) :
    read? (c :: rest) = none := by
  unfold read?
  split
  · rename_i isAt
    cases isAt
    exact absurd rfl other
  · rfl

end ItemVector

end RefExpand
