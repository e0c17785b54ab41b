import RefExpand.Proofs.Scan.MetadataReading
import RefExpand.Proofs.Scan.VectorGrammar

namespace RefExpand

/-!
# Metadata references around vectors

A metadata reference holds no at sign, and a closing parenthesis only at its
end, so none begins on one side of a vector's border and ends on the other. The
references of a text are those of its stretches, vectors included.
-/

namespace Cut

/-- Two cuts, of a text and of the text behind it, as one. -/
def append (left right : Cut α) : Cut α :=
  { found := left.found ++ (right.prepend left.last).found
    last := (right.prepend left.last).last }

@[simp] theorem values_prepend
    (front : Text)
    (cut : Cut α) :
    (cut.prepend front).values = cut.values := by
  obtain ⟨found, last⟩ := cut
  cases found <;> rfl

@[simp] theorem values_append
    (left right : Cut α) :
    (left.append right).values = left.values ++ right.values := by
  have tail := values_prepend left.last right
  simp only [values] at tail
  simp [append, values, tail]

theorem append_push
    (c : Char)
    (left right : Cut α) :
    (left.push c).append right = (left.append right).push c := by
  obtain ⟨found, last⟩ := left
  cases found with
  | nil =>
      obtain ⟨rightFound, rightLast⟩ := right
      cases rightFound <;> rfl
  | cons stretch more =>
      rfl

/-- What stands before the first value. -/
def front (cut : Cut α) : Text :=
  match cut.found with
  | [] => cut.last
  | (gap, _) :: _ => gap

/-- One list from a cut: of each gap what it gives, and of each value. -/
def gather (outside : Text → List β) (inside : α → List β) (cut : Cut α) : List β :=
  (cut.found.flatMap fun stretch => outside stretch.1 ++ inside stretch.2) ++ outside cut.last

theorem gather_cons
    {outside : Text → List β}
    {inside : α → List β}
    (gap : Text)
    (value : α)
    (cut : Cut α) :
    gather outside inside { cut with found := (gap, value) :: cut.found } =
      outside gap ++ inside value ++ gather outside inside cut := by
  simp [gather]

/-- What stands in front adds to what the first gap gives. -/
theorem gather_prepend
    {outside : Text → List β}
    {inside : α → List β}
    {front : Text}
    {extra : List β}
    {cut : Cut α}
    (adds : outside (front ++ cut.front) = extra ++ outside cut.front) :
    gather outside inside (cut.prepend front) = extra ++ gather outside inside cut := by
  obtain ⟨found, last⟩ := cut
  cases found with
  | nil =>
      simpa [gather, prepend, Cut.front] using adds
  | cons stretch more =>
      have addsHere : outside (front ++ stretch.1) = extra ++ outside stretch.1 :=
        adds
      simp [gather, prepend, addsHere]

theorem mem_gather
    {outside : Text → List β}
    {inside : α → List β}
    {cut : Cut α}
    {x : β} :
    x ∈ gather outside inside cut ↔
      (∃ stretch ∈ cut.found, x ∈ outside stretch.1) ∨ x ∈ outside cut.last ∨
        ∃ value ∈ cut.values, x ∈ inside value := by
  simp only [gather, values, List.mem_append, List.mem_flatMap, List.mem_map]
  constructor
  · rintro (⟨stretch, isFound, inGap | inValue⟩ | inLast)
    · exact .inl ⟨stretch, isFound, inGap⟩
    · exact .inr (.inr ⟨_, ⟨stretch, isFound, rfl⟩, inValue⟩)
    · exact .inr (.inl inLast)
  · rintro (⟨stretch, isFound, inGap⟩ | inLast | ⟨_, ⟨stretch, isFound, rfl⟩, inValue⟩)
    · exact .inl ⟨stretch, isFound, .inl inGap⟩
    · exact .inr inLast
    · exact .inl ⟨stretch, isFound, .inr inValue⟩

theorem gather_congr
    {outside : Text → List β}
    {inside inside' : α → List β}
    {cut : Cut α}
    (same : ∀ value ∈ cut.values, inside value = inside' value) :
    gather outside inside cut = gather outside inside' cut := by
  have stretches :
      ∀ stretch ∈ cut.found,
        outside stretch.1 ++ inside stretch.2 = outside stretch.1 ++ inside' stretch.2 := by
    intro stretch isFound
    rw [same _ (List.mem_map_of_mem isFound)]
  rw [gather, gather, List.flatMap_def, List.flatMap_def, List.map_congr_left stretches]

theorem map_gather
    {outside : Text → List β}
    {inside : α → List β}
    (f : β → γ)
    (cut : Cut α) :
    (gather outside inside cut).map f =
      gather (fun gap => (outside gap).map f) (fun value => (inside value).map f) cut := by
  simp [gather, List.map_flatMap]

end Cut

namespace Reader

variable {reader : Reader α} {written : α → Text}

theorem front_cut
    (takes : reader.Takes written)
    (text : Text) :
    (reader.cut text).front <+: text := by
  have whole := spread_cut takes text
  unfold Cut.front
  split
  · rename_i nothing
    rw [nothing, Cut.spread_nil, List.nil_append] at whole
    exact ⟨[], by simpa using whole⟩
  · rename_i gap value more found
    rw [found, Cut.spread_cons, List.append_assoc] at whole
    exact ⟨_, whole⟩

/-- Where no value reaches over the border of two texts, they are cut one after the other. -/
theorem cut_append_of_border
    (takes : reader.Takes written)
    {front back : Text}
    (border :
      ∀ part,
        part <:+ front → part ≠ [] →
          reader.read? (part ++ back) =
            (reader.read? part).map fun (value, rest) => (value, rest ++ back)) :
    reader.cut (front ++ back) = (reader.cut front).append (reader.cut back) := by
  induction front using Reader.cut.induct reader with
  | case1 =>
      simp [Cut.append]
  | case2 c tail value rest read inductionHypothesis =>
      have inFront : rest <:+ c :: tail := ⟨written value, (takes read).symm⟩
      have readWhole := border (c :: tail) (List.suffix_refl _) (List.cons_ne_nil _ _)
      rw [read, Option.map_some] at readWhole
      rw [cut_of_read read, cut_of_read readWhole,
        inductionHypothesis fun part isSuffix => border part (isSuffix.trans inFront)]
      rfl
  | case3 c tail unread inductionHypothesis =>
      have unreadWhole := border (c :: tail) (List.suffix_refl _) (List.cons_ne_nil _ _)
      rw [unread, Option.map_none, List.cons_append] at unreadWhole
      rw [List.cons_append, cut_of_unread unread, cut_of_unread unreadWhole, Cut.append_push,
        inductionHypothesis fun part isSuffix =>
          border part (isSuffix.trans (List.suffix_cons c tail))]

end Reader

namespace MetadataReference

/-- No reference reaches over the border of two texts like these. -/
def Border (front back : Text) : Prop :=
  (∀ c ∈ back.head?, c = '@') ∨ (∀ c ∈ front.getLast?, c = ')')

theorem read?_append
    {front back : Text}
    (some : front ≠ [])
    (border : Border front back) :
    read? (front ++ back) =
      (read? front).map fun (reference, rest) => (reference, rest ++ back) := by
  cases whole : read? (front ++ back) with
  | none =>
      have unread : read? front = none := by
        rw [Option.eq_none_iff_forall_not_mem]
        rintro ⟨reference, rest⟩ read
        have shape : front = reference.written ++ rest := reader_takes read
        have readWhole := read?_written read (rest ++ back)
        rw [← List.append_assoc, ← shape, whole] at readWhole
        cases readWhole
      rw [unread, Option.map_none]
  | some found =>
      obtain ⟨reference, rest⟩ := found
      have shape : front ++ back = reference.written ++ rest := reader_takes whole
      rcases List.append_eq_append_iff.mp shape with ⟨middle, longer, rfl⟩ | ⟨middle, rfl, rfl⟩
      · -- The reference is not longer than the front, or it would reach over the border.
        have nothing : middle = [] := by
          cases middle with
          | nil =>
              rfl
          | cons c middle =>
              rcases border with signFirst | closeLast
              · have isSign : c = '@' := by
                  simpa using signFirst
                have noSign := sign_not_mem_written whole
                rw [longer, isSign] at noSign
                simp at noSign
              · rcases front.eq_nil_or_concat with nothing | ⟨start, last, concat⟩
                · exact absurd nothing some
                · rw [List.concat_eq_append] at concat
                  subst concat
                  have isClose : last = ')' := by
                    simpa using closeLast
                  subst isClose
                  exact absurd (eq_nil_of_written whole (by simpa using longer))
                    (List.cons_ne_nil c middle)
        subst nothing
        rw [List.append_nil] at longer
        have readFront := read?_written whole []
        rw [List.append_nil, longer] at readFront
        simp [readFront]
      · rw [read?_written whole middle]
        rfl

/-- A text is cut at its references piece by piece, where no reference reaches over the border. -/
theorem cut_append
    {front back : Text}
    (border : Border front back) :
    cut (front ++ back) = (cut front).append (cut back) := by
  refine Reader.cut_append_of_border reader_takes fun part isSuffix some => ?_
  refine read?_append some ?_
  refine border.imp id fun closeLast => ?_
  obtain ⟨before, rfl⟩ := isSuffix
  rwa [List.getLast?_append, List.getLast?_eq_some_getLast some, Option.some_or,
    ← List.getLast?_eq_some_getLast some] at closeLast

/-- The references of a text. -/
def allIn (text : Text) : List MetadataReference :=
  (cut text).values

theorem allIn_append
    {front back : Text}
    (border : Border front back) :
    allIn (front ++ back) = allIn front ++ allIn back := by
  rw [allIn, cut_append border, Cut.values_append]
  rfl

end MetadataReference

namespace ItemVector

/-- The references of a text are those between its vectors and those within its vectors. -/
theorem allIn_eq_gather
    (text : Text) :
    MetadataReference.allIn text =
      (cut text).gather MetadataReference.allIn fun vector =>
        MetadataReference.allIn vector.written := by
  have whole : Cut.spread (·.written) (cut text).found ++ (cut text).last = text :=
    Reader.spread_cut reader_takes text
  have readAll :
      ∀ stretch ∈ (cut text).found, ∃ text rest, read? text = some (stretch.2, rest) := by
    intro stretch isFound
    obtain ⟨earlier, later, found⟩ := List.append_of_mem isFound
    obtain ⟨rest, -, read⟩ := Reader.read_of_found reader_takes found
    exact ⟨_, rest, read⟩
  rcases cutText : cut text with ⟨found, last⟩
  rw [cutText] at whole readAll
  rw [← whole]
  clear whole cutText
  induction found with
  | nil =>
      rfl
  | cons stretch found inductionHypothesis =>
      obtain ⟨_, rest, read⟩ := readAll stretch List.mem_cons_self
      obtain ⟨inside, written⟩ := exists_written read
      have beforeVector :
          MetadataReference.Border stretch.1
            (stretch.2.written ++ (Cut.spread (·.written) found ++ last)) := by
        left
        simp [written]
      have behindVector :
          MetadataReference.Border stretch.2.written
            (Cut.spread (·.written) found ++ last) := by
        right
        rw [written, ← List.cons_append, ← List.cons_append, List.getLast?_concat]
        simp
      have later :=
        inductionHypothesis fun stretch isFound => readAll stretch (List.mem_cons_of_mem _ isFound)
      rw [Cut.spread_cons, List.append_assoc, List.append_assoc,
        MetadataReference.allIn_append beforeVector, MetadataReference.allIn_append behindVector,
        later]
      simp [Cut.gather]

end ItemVector

end RefExpand
