import RefExpand.Proofs.Scan.References

namespace RefExpand

/-!
# Cutting loses nothing

A reader that takes what it recognises as it is written cuts a text into
stretches that make the text again, and each value was recognised where its
stretch ends. Both readers of references are of this kind.
-/

namespace Cut

/-- The stretches before the values and the values as they are written, one after the other. -/
def spread
    (written : α → Text)
    (found : List (Text × α)) :
    Text :=
  found.flatMap fun stretch => stretch.1 ++ written stretch.2

@[simp] theorem spread_nil
    (written : α → Text) :
    spread written [] = [] :=
  rfl

@[simp] theorem spread_cons
    (written : α → Text)
    (stretch : Text × α)
    (found : List (Text × α)) :
    spread written (stretch :: found) =
      stretch.1 ++ (written stretch.2 ++ spread written found) := by
  simp [spread]

end Cut

namespace Reader

variable {reader : Reader α} {written : α → Text}

/-- What is recognised stands at the beginning of the text as it is written. -/
def Takes
    (reader : Reader α)
    (written : α → Text) :
    Prop :=
  ∀ {text rest : Text} {value : α},
    reader.read? text = some (value, rest) → text = written value ++ rest

/-- The stretches of a text make the text. -/
theorem spread_cut
    (takes : reader.Takes written)
    (text : Text) :
    Cut.spread written (reader.cut text).found ++ (reader.cut text).last = text := by
  induction text using Reader.cut.induct reader with
  | case1 =>
      simp
  | case2 c tail value rest read inductionHypothesis =>
      rw [cut_of_read read, takes read]
      simp [inductionHypothesis]
  | case3 c tail unread inductionHypothesis =>
      rw [cut_of_unread unread]
      rcases later : reader.cut tail with ⟨found, last⟩
      rw [later] at inductionHypothesis
      cases found with
      | nil =>
          simpa [Cut.push] using inductionHypothesis
      | cons stretch more =>
          simpa [Cut.push] using inductionHypothesis

/-- Each value was recognised behind the stretches before it. -/
theorem read_of_found
    (takes : reader.Takes written)
    {text : Text}
    {earlier later : List (Text × α)}
    {gap : Text}
    {value : α}
    (found : (reader.cut text).found = earlier ++ (gap, value) :: later) :
    ∃ rest,
      text = Cut.spread written earlier ++ (gap ++ (written value ++ rest)) ∧
        reader.read? (written value ++ rest) = some (value, rest) := by
  induction text using Reader.cut.induct reader generalizing earlier gap with
  | case1 =>
      simp at found
  | case2 c tail first after read inductionHypothesis =>
      rw [cut_of_read read] at found
      have whole := takes read
      cases earlier with
      | nil =>
          simp only [List.nil_append, List.cons.injEq, Prod.mk.injEq] at found
          obtain ⟨⟨rfl, rfl⟩, -⟩ := found
          exact ⟨after, by simpa using whole, whole ▸ read⟩
      | cons stretch earlier =>
          simp only [List.cons_append, List.cons.injEq] at found
          obtain ⟨rfl, foundLater⟩ := found
          obtain ⟨rest, shape, readLater⟩ := inductionHypothesis foundLater
          exact ⟨rest, by rw [whole, shape]; simp, readLater⟩
  | case3 c tail unread inductionHypothesis =>
      rw [cut_of_unread unread] at found
      rcases tailCut : reader.cut tail with ⟨tailFound, last⟩
      rw [tailCut] at found inductionHypothesis
      cases tailFound with
      | nil =>
          simp [Cut.push] at found
      | cons stretch more =>
          cases earlier with
          | nil =>
              simp only [Cut.push, List.nil_append, List.cons.injEq, Prod.mk.injEq] at found
              obtain ⟨⟨rfl, sameValue⟩, rfl⟩ := found
              have foundHere : stretch :: more = [] ++ (stretch.1, value) :: more := by
                simp [← sameValue]
              obtain ⟨rest, shape, readHere⟩ := inductionHypothesis foundHere
              exact ⟨rest, by simpa using shape, readHere⟩
          | cons head earlier =>
              simp only [Cut.push, List.cons_append, List.cons.injEq] at found
              obtain ⟨rfl, rfl⟩ := found
              have foundLater :
                  stretch :: (earlier ++ (gap, value) :: later) =
                    (stretch :: earlier) ++ (gap, value) :: later :=
                rfl
              obtain ⟨rest, shape, readLater⟩ := inductionHypothesis foundLater
              exact ⟨rest, by rw [shape]; simp, readLater⟩

/-- A text in which something is recognised somewhere is not left whole. -/
theorem found_ne_nil
    {text part rest : Text}
    {value : α}
    (inside : part <:+ text)
    (read : reader.read? part = some (value, rest)) :
    (reader.cut text).found ≠ [] := by
  induction text using Reader.cut.induct reader with
  | case1 =>
      rw [List.suffix_nil.mp inside] at read
      exact absurd (reader.shrinks read) (Nat.not_lt_zero _)
  | case2 c tail found after readHere inductionHypothesis =>
      rw [cut_of_read readHere]
      exact List.cons_ne_nil _ _
  | case3 c tail unread inductionHypothesis =>
      rw [cut_of_unread unread]
      rcases List.suffix_cons_iff.mp inside with rfl | inTail
      · rw [unread] at read
        cases read
      · have later := inductionHypothesis inTail
        rcases cutTail : reader.cut tail with ⟨found, last⟩
        rw [cutTail] at later
        cases found with
        | nil =>
            exact absurd rfl later
        | cons stretch more =>
            exact List.cons_ne_nil _ _

end Reader

theorem Text.utf8Size_cons
    (c : Char)
    (text : Text) :
    utf8Size (c :: text) = c.utf8Size + utf8Size text :=
  rfl

theorem Text.utf8Size_append
    (front back : Text) :
    (front ++ back).utf8Size = front.utf8Size + back.utf8Size := by
  induction front with
  | nil =>
      simp [utf8Size]
  | cons c front inductionHypothesis =>
      rw [List.cons_append, utf8Size_cons, utf8Size_cons, inductionHypothesis, Nat.add_assoc]

theorem Text.utf8Size_pos_of_ne_nil
    {text : Text}
    (nonempty : text ≠ []) :
    0 < text.utf8Size := by
  cases text with
  | nil =>
      exact absurd rfl nonempty
  | cons c tail =>
      exact Nat.add_pos_left (Char.utf8Size_pos c) _

theorem Text.takeBytes_cons
    (c : Char)
    (offset : Nat)
    (text : Text) :
    takeBytes (c.utf8Size + offset) (c :: text) = c :: takeBytes offset text := by
  have positive := Char.utf8Size_pos c
  obtain ⟨more, size⟩ : ∃ more, c.utf8Size + offset = more + 1 :=
    ⟨c.utf8Size + offset - 1, by omega⟩
  rw [size, takeBytes, ← size, Nat.add_sub_cancel_left]

theorem Text.dropBytes_cons
    (c : Char)
    (offset : Nat)
    (text : Text) :
    dropBytes (c.utf8Size + offset) (c :: text) = dropBytes offset text := by
  have positive := Char.utf8Size_pos c
  obtain ⟨more, size⟩ : ∃ more, c.utf8Size + offset = more + 1 :=
    ⟨c.utf8Size + offset - 1, by omega⟩
  rw [size, dropBytes, ← size, Nat.add_sub_cancel_left]

theorem Text.takeBytes_append
    (front back : Text) :
    takeBytes (utf8Size front) (front ++ back) = front := by
  induction front with
  | nil =>
      simp [utf8Size, takeBytes]
  | cons c front inductionHypothesis =>
      rw [utf8Size_cons, List.cons_append, takeBytes_cons, inductionHypothesis]

theorem Text.dropBytes_append
    (front back : Text) :
    dropBytes (utf8Size front) (front ++ back) = back := by
  induction front with
  | nil =>
      simp [utf8Size, dropBytes]
  | cons c front inductionHypothesis =>
      rw [utf8Size_cons, List.cons_append, dropBytes_cons, inductionHypothesis]

/-- The part of a text between two offsets is what stands between them. -/
theorem Text.window_append
    (before part after : Text) :
    window before.utf8Size (before.utf8Size + part.utf8Size) (before ++ (part ++ after)) =
      part := by
  rw [window, ← utf8Size_append, ← List.append_assoc, takeBytes_append, dropBytes_append]

/-- Of two beginnings of a text the one of fewer bytes is a beginning of the other. -/
theorem Text.exists_of_append_eq_append
    {left right left' right' : Text}
    (same : left ++ right = left' ++ right')
    (notLonger : left.utf8Size ≤ left'.utf8Size) :
    ∃ middle, left' = left ++ middle ∧ right = middle ++ right' := by
  rcases List.append_eq_append_iff.mp same with ⟨middle, longer, rest⟩ | ⟨excess, longer, rest⟩
  · exact ⟨middle, longer, rest⟩
  · cases excess with
    | nil =>
        exact ⟨[], by simpa using longer.symm, by simpa using rest.symm⟩
    | cons c excess =>
        have positive := Char.utf8Size_pos c
        rw [longer, utf8Size_append] at notLonger
        simp only [utf8Size, List.foldr_cons] at notLonger
        omega

/-- A value is placed behind the stretches before it. -/
theorem Cut.exists_of_mem_place
    {written : α → Text}
    {start offset : Nat}
    {value : α}
    {found : List (Text × α)}
    (placed : (offset, value) ∈ place written start found) :
    ∃ earlier gap later,
      found = earlier ++ (gap, value) :: later ∧
        offset = start + (spread written earlier ++ gap).utf8Size := by
  induction found generalizing start with
  | nil =>
      cases placed
  | cons stretch found inductionHypothesis =>
      rcases List.mem_cons.mp placed with here | inLater
      · obtain ⟨rfl, rfl⟩ := Prod.mk.inj here
        exact ⟨[], stretch.1, found, rfl, by simp⟩
      · obtain ⟨earlier, gap, later, rfl, rfl⟩ := inductionHypothesis inLater
        refine ⟨stretch :: earlier, gap, later, rfl, ?_⟩
        simp only [spread_cons, Text.utf8Size_append]
        omega

theorem MetadataReference.reader_takes :
    MetadataReference.reader.Takes (·.written) := by
  intro text rest reference read
  change MetadataReference.read? text = some (reference, rest) at read
  unfold MetadataReference.read? at read
  split at read
  · rename_i body
    simp only [Option.map_eq_some_iff, Prod.mk.injEq, Prod.exists] at read
    obtain ⟨itemType, name, after, names, rfl, rfl⟩ := read
    have whole := List.suffix_iff_eq_append.mp (readNames?_suffix names)
    simp [whole]
  · cases read

theorem ItemVector.reader_takes :
    ItemVector.reader.Takes (·.written) := by
  intro text rest vector read
  change ItemVector.read? text = some (vector, rest) at read
  unfold ItemVector.read? at read
  split at read
  · rename_i body
    simp only [Option.map_eq_some_iff, Prod.mk.injEq, Prod.exists] at read
    obtain ⟨itemType, transforms, separator, after, parts, rfl, rfl⟩ := read
    have whole := List.suffix_iff_eq_append.mp (readParts?_lengths parts).1
    simp [whole]
  · cases read

end RefExpand
