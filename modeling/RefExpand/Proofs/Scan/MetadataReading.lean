import RefExpand.Proofs.Scan.Cuts

namespace RefExpand

/-!
# Reading a metadata reference

A reference is read from what is written between its parentheses and from
nothing behind them, so the same characters are read in the same way wherever
they stand. Neither an at sign nor an inner closing parenthesis is among them.
-/

namespace Text

/-- A name as it stands in a metadata reference; unlike other names it may end at an arrow. -/
def IsDashedName (name : Text) : Prop :=
  ∃ first rest,
    name = first :: rest ∧ isNameStart first = true ∧ ∀ c ∈ rest, isNameContinue c = true

theorem exists_of_takeDashedName
    (text : Text)
    (some : (takeDashedName text).1 ≠ []) :
    IsDashedName (takeDashedName text).1 := by
  cases text with
  | nil =>
      exact absurd rfl some
  | cons c rest =>
      simp only [takeDashedName] at some ⊢
      split at some
      · rename_i starts
        rw [if_pos starts]
        exact ⟨c, _, rfl, starts, List.all_eq_true.mp List.all_takeWhile⟩
      · exact absurd rfl some

theorem IsDashedName.continues
    {name : Text}
    (dashed : IsDashedName name) :
    ∀ c ∈ name, isNameContinue c = true := by
  obtain ⟨first, rest, rfl, starts, continues⟩ := dashed
  intro c isMember
  rcases List.mem_cons.mp isMember with rfl | inRest
  · exact isNameContinue_of_isNameStart starts
  · exact continues c inRest

/-- A name is read up to the first character that cannot continue it. -/
theorem IsDashedName.take
    {name rest : Text}
    (dashed : IsDashedName name)
    (stops : ∀ c ∈ rest.head?, isNameContinue c = false) :
    takeDashedName (name ++ rest) = (name, rest) := by
  obtain ⟨first, tail, rfl, starts, continues⟩ := dashed
  rw [List.cons_append, takeDashedName, if_pos starts, List.takeWhile_append_of_pos continues,
    List.dropWhile_append_of_pos continues]
  cases rest with
  | nil =>
      simp
  | cons c rest =>
      have stopsHere : isNameContinue c = false := by
        simpa using stops
      simp [stopsHere]

end Text

namespace MetadataReference

/-- A name with blanks around it, as it stands between the delimiters of a reference. -/
def IsPart (part name : Text) : Prop :=
  Text.IsDashedName name ∧
    ∃ before after,
      part = before ++ (name ++ after) ∧
        (∀ c ∈ before, isAsciiBlank c = true) ∧ (∀ c ∈ after, isAsciiBlank c = true)

/-- What stands between the parentheses of a reference to these names. -/
def Encloses (inside : Text) (itemType : Option Text) (name : Text) : Prop :=
  match itemType with
  | none => IsPart inside name
  | some typeName =>
      ∃ first second,
        inside = first ++ '.' :: second ∧ IsPart first typeName ∧ IsPart second name

theorem exists_of_readPart?
    {text name rest : Text}
    (read : readPart? text = some (name, rest)) :
    ∃ part, text = part ++ rest ∧ IsPart part name := by
  unfold readPart? at read
  split at read
  · cases read
  · rename_i taken after nonempty taken_eq
    simp only [Option.some.injEq, Prod.mk.injEq] at read
    obtain ⟨rfl, rfl⟩ := read
    have whole := Text.takeDashedName_append text.skipBlanks
    have dashed := Text.exists_of_takeDashedName text.skipBlanks
    rw [taken_eq] at whole dashed
    have before : text.takeWhile isAsciiBlank ++ text.skipBlanks = text :=
      List.takeWhile_append_dropWhile
    have behind : after.takeWhile isAsciiBlank ++ after.skipBlanks = after :=
      List.takeWhile_append_dropWhile
    refine
      ⟨text.takeWhile isAsciiBlank ++ (taken ++ after.takeWhile isAsciiBlank), ?_,
        dashed nonempty, _, _, rfl,
        List.all_eq_true.mp List.all_takeWhile, List.all_eq_true.mp List.all_takeWhile⟩
    rw [List.append_assoc, List.append_assoc, behind, whole, before]

/-- A part is read in front of a character that ends it, whatever follows. -/
theorem IsPart.read
    {part name : Text}
    (isPart : IsPart part name)
    (stop : Char)
    (stops : Text.isNameContinue stop = false)
    (ink : isAsciiBlank stop = false)
    (rest : Text) :
    readPart? (part ++ stop :: rest) = some (name, stop :: rest) := by
  obtain ⟨dashed, before, after, rfl, blankBefore, blankAfter⟩ := isPart
  have nameInk : ∀ c ∈ (name ++ (after ++ stop :: rest)).head?, isAsciiBlank c = false := by
    obtain ⟨first, tail, rfl, starts, -⟩ := dashed
    have notBlank : isBlank first = false :=
      Text.isBlank_of_isNameContinue (Text.isNameContinue_of_isNameStart starts)
    simpa using isAsciiBlank_of_isBlank notBlank
  have nameEnds : ∀ c ∈ (after ++ stop :: rest).head?, Text.isNameContinue c = false := by
    cases after with
    | nil =>
        simpa using stops
    | cons c after =>
        have blank : isAsciiBlank c = true := blankAfter c List.mem_cons_self
        have stopsHere : Text.isNameContinue c = false := by
          rw [← Bool.not_eq_true]
          intro continues
          rw [isAsciiBlank_of_isBlank (Text.isBlank_of_isNameContinue continues)] at blank
          cases blank
        simpa using stopsHere
  have shape :
      before ++ (name ++ after) ++ stop :: rest =
        before ++ (name ++ (after ++ stop :: rest)) := by
    simp
  rw [readPart?, shape, Text.skipBlanks_append blankBefore nameInk, dashed.take nameEnds]
  obtain ⟨first, tail, rfl, -⟩ := dashed
  dsimp only
  rw [Text.skipBlanks_append blankAfter (by simpa using ink)]

theorem IsPart.not_mem
    {part name : Text}
    (isPart : IsPart part name)
    {c : Char}
    (stops : Text.isNameContinue c = false)
    (ink : isAsciiBlank c = false) :
    c ∉ part := by
  obtain ⟨dashed, before, after, rfl, blankBefore, blankAfter⟩ := isPart
  intro isMember
  rcases List.mem_append.mp isMember with inBefore | inRest
  · rw [blankBefore c inBefore] at ink
    cases ink
  · rcases List.mem_append.mp inRest with inName | inAfter
    · rw [dashed.continues c inName] at stops
      cases stops
    · rw [blankAfter c inAfter] at ink
      cases ink

theorem exists_of_readNames?
    {text rest name : Text}
    {itemType : Option Text}
    (read : readNames? text = some ((itemType, name), rest)) :
    ∃ inside, text = inside ++ ')' :: rest ∧ Encloses inside itemType name := by
  unfold readNames? at read
  split at read
  · cases read
  · rename_i first after readFirst
    simp only [Option.some.injEq, Prod.mk.injEq] at read
    obtain ⟨⟨rfl, rfl⟩, rfl⟩ := read
    exact exists_of_readPart? readFirst
  · rename_i first after readFirst
    split at read
    · rename_i second last readSecond
      simp only [Option.some.injEq, Prod.mk.injEq] at read
      obtain ⟨⟨rfl, rfl⟩, rfl⟩ := read
      obtain ⟨typePart, rfl, isType⟩ := exists_of_readPart? readFirst
      obtain ⟨namePart, rfl, isName⟩ := exists_of_readPart? readSecond
      exact ⟨typePart ++ '.' :: namePart, by simp, typePart, namePart, rfl, isType, isName⟩
    · cases read
  · cases read

theorem Encloses.readNames?
    {inside name : Text}
    {itemType : Option Text}
    (encloses : Encloses inside itemType name)
    (rest : Text) :
    MetadataReference.readNames? (inside ++ ')' :: rest) = some ((itemType, name), rest) := by
  cases itemType with
  | none =>
      have isName : IsPart inside name := encloses
      simp [MetadataReference.readNames?, isName.read ')' (by decide) (by decide)]
  | some typeName =>
      obtain ⟨first, second, rfl, isType, isName⟩ := encloses
      have atDot := isType.read '.' (by decide) (by decide) (second ++ ')' :: rest)
      have atClose := isName.read ')' (by decide) (by decide) rest
      simp [MetadataReference.readNames?, atDot, atClose]

/-- A reference that was read: what it encloses, and how it is written. -/
theorem exists_of_read?
    {text rest : Text}
    {reference : MetadataReference}
    (read : read? text = some (reference, rest)) :
    ∃ inside,
      reference.written = '%' :: '(' :: (inside ++ [')']) ∧
        Encloses inside reference.itemType reference.name := by
  have whole : text = reference.written ++ rest := reader_takes read
  unfold read? at read
  split at read
  · rename_i body
    simp only [Option.map_eq_some_iff, Prod.mk.injEq, Prod.exists] at read
    obtain ⟨itemType, name, after, names, rfl, rfl⟩ := read
    obtain ⟨inside, rfl, encloses⟩ := exists_of_readNames? names
    refine ⟨inside, ?_, encloses⟩
    exact List.append_cancel_right (whole.symm.trans (by simp) : _ ++ after = _ ++ after)
  · cases read

/-- A reference that encloses such names is read, whatever follows. -/
theorem Encloses.read?
    {inside name : Text}
    {itemType : Option Text}
    (encloses : Encloses inside itemType name)
    (rest : Text) :
    MetadataReference.read? ('%' :: '(' :: (inside ++ [')']) ++ rest) =
      some ({ written := '%' :: '(' :: (inside ++ [')']), itemType, name }, rest) := by
  have taken := Text.take_length_sub (inside ++ [')']) rest
  have shape :
      '%' :: '(' :: (inside ++ [')']) ++ rest = '%' :: '(' :: (inside ++ [')'] ++ rest) :=
    rfl
  have names :
      MetadataReference.readNames? (inside ++ [')'] ++ rest) =
        some ((itemType, name), rest) := by
    rw [List.append_assoc, List.singleton_append]
    exact encloses.readNames? rest
  rw [shape, MetadataReference.read?, names, Option.map_some]
  dsimp only
  rw [taken]

/-- A reference is read in the same way wherever it stands. -/
theorem read?_written
    {text rest : Text}
    {reference : MetadataReference}
    (read : read? text = some (reference, rest))
    (other : Text) :
    read? (reference.written ++ other) = some (reference, other) := by
  obtain ⟨inside, written, encloses⟩ := exists_of_read? read
  rw [written, encloses.read? other, ← written]

theorem isPart_of_isName
    {name : Text}
    (named : name.isName = true) :
    IsPart name name :=
  ⟨Text.exists_cons_of_isName named, [], [], by simp, by simp, by simp⟩

/-- A bare reference is recognised, whatever follows. -/
theorem read?_bare_append
    {itemType : Option Text}
    {name : Text}
    (typeNamed : ∀ typeName ∈ itemType, typeName.isName = true)
    (named : name.isName = true)
    (rest : Text) :
    read? ((bare itemType name).written ++ rest) = some (bare itemType name, rest) := by
  have encloses :
      Encloses ((itemType.map (· ++ ['.'])).getD [] ++ name) itemType name := by
    cases itemType with
    | none =>
        exact isPart_of_isName named
    | some typeName =>
        exact
          ⟨typeName, name, by simp, isPart_of_isName (typeNamed typeName rfl),
            isPart_of_isName named⟩
  exact encloses.read? rest

/-- Between the parentheses stand names, blanks, and perhaps a dot. -/
theorem Encloses.not_mem
    {inside name : Text}
    {itemType : Option Text}
    (encloses : Encloses inside itemType name)
    {c : Char}
    (stops : Text.isNameContinue c = false)
    (ink : isAsciiBlank c = false)
    (noDot : c ≠ '.') :
    c ∉ inside := by
  cases itemType with
  | none =>
      have isName : IsPart inside name := encloses
      exact isName.not_mem stops ink
  | some typeName =>
      obtain ⟨first, second, rfl, isType, isName⟩ := encloses
      simp [isType.not_mem stops ink, isName.not_mem stops ink, noDot]

theorem sign_not_mem_written
    {text rest : Text}
    {reference : MetadataReference}
    (read : read? text = some (reference, rest)) :
    '@' ∉ reference.written := by
  obtain ⟨inside, written, encloses⟩ := exists_of_read? read
  have noSign : '@' ∉ inside := encloses.not_mem (by decide) (by decide) (by decide)
  simp [written, noSign]

/-- A reference ends at its first closing parenthesis. -/
theorem eq_nil_of_written
    {text rest front back : Text}
    {reference : MetadataReference}
    (read : read? text = some (reference, rest))
    (written : reference.written = front ++ ')' :: back) :
    back = [] := by
  obtain ⟨inside, shape, encloses⟩ := exists_of_read? read
  have noClose : ')' ∉ '%' :: '(' :: inside := by
    have notInside : ')' ∉ inside := encloses.not_mem (by decide) (by decide) (by decide)
    simp [notInside]
  rw [written] at shape
  rcases List.append_eq_append_iff.mp
      (show front ++ ')' :: back = ('%' :: '(' :: inside) ++ [')'] by simpa using shape) with
    ⟨middle, longer, rest⟩ | ⟨middle, -, rest⟩
  · cases middle with
    | nil =>
        simpa using rest
    | cons c middle =>
        rw [List.cons_append, List.cons.injEq] at rest
        rw [longer, ← rest.1] at noClose
        simp at noClose
  · cases middle with
    | nil =>
        simpa using rest.symm
    | cons c middle =>
        simp at rest

theorem dashed_of_read?
    {text rest : Text}
    {reference : MetadataReference}
    (read : read? text = some (reference, rest)) :
    (∀ typeName ∈ reference.itemType, Text.IsDashedName typeName) ∧
      Text.IsDashedName reference.name := by
  obtain ⟨inside, -, encloses⟩ := exists_of_read? read
  rcases reference with ⟨written, itemType, name⟩
  cases itemType with
  | none =>
      have isName : IsPart inside name := encloses
      exact ⟨by simp, isName.1⟩
  | some typeName =>
      obtain ⟨first, second, -, isType, isName⟩ := encloses
      exact ⟨by simpa using isType.1, isName.1⟩

end MetadataReference

end RefExpand
