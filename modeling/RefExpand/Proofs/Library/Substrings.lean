import Mathlib
import RefExpand.Library.TextMembers
import RefExpand.Proofs.Scan.Cuts
import RefExpand.Proofs.Text.Casing
import RefExpand.Proofs.Text.Order

namespace RefExpand

/-!
# Stretches are found where they are

A stretch of a text is looked for in the text it was cut from. As long as case counts it
is found, first and last, around the place it was cut at. A search that ignores case
runs on lower-case copies and gives a place of the copy: this is a place of the text,
for all stretches at once, exactly if the case of the text is steady.
-/

namespace Text

open Unicode

/--
The stretch of a length at a place is found: first not behind the place and last not before
it, and the text begins with the stretch where it is found first.
-/
def FindsStretch
    (ignoreCase : Bool)
    (text : Text)
    (start length : Nat) :
    Prop :=
  ∃ (part rest : Text) (first last : Nat),
    text.stretch? start length = some part ∧
      indexFrom? (part.folded ignoreCase) (text.folded ignoreCase) 0 = some first ∧
      first ≤ start ∧
      lastIndex? (part.folded ignoreCase) (text.folded ignoreCase) = some last ∧
      start ≤ last ∧ last ≤ text.length ∧
      text.tailFrom? first = some rest ∧
      startsWith (part.folded ignoreCase) (rest.folded ignoreCase) = true

variable {text : Text}

theorem stretch?_append
    (front part back : Text) :
    stretch? front.length part.length (front ++ part ++ back) = some part := by
  rw [stretch?, if_pos (by simp), List.append_assoc, List.drop_left, List.take_left]

theorem exists_append_of_within
    {start length : Nat}
    (within : start + length ≤ text.length) :
    ∃ front part back : Text,
      text = front ++ part ++ back ∧ front.length = start ∧ part.length = length := by
  refine
    ⟨text.take start, (text.drop start).take length, text.drop (start + length), ?_,
      List.length_take_of_le (by omega), List.length_take_of_le (by rw [List.length_drop]; omega)⟩
  rw [List.append_assoc, ← List.drop_drop, List.take_append_drop, List.take_append_drop]

/-- A search in copies that are made character by character finds every stretch. -/
theorem findsStretch_of_map
    {ignoreCase : Bool}
    (change : Char → Char)
    (folds : ∀ part : Text, part <:+: text → part.folded ignoreCase = part.map change)
    {start length : Nat}
    (within : start + length ≤ text.length) :
    FindsStretch ignoreCase text start length := by
  obtain ⟨front, part, back, cut, rfl, rfl⟩ := exists_append_of_within within
  have isPart : part <:+: text :=
    ⟨front, back, cut.symm⟩
  have copy : text.map change = front.map change ++ part.map change ++ back.map change := by
    rw [cut, List.map_append, List.map_append]
  obtain ⟨first, isFirst, notBehind⟩ :=
    exists_indexFrom? (front.map change) (part.map change) (back.map change)
  obtain ⟨last, isLast, notBefore⟩ :=
    exists_lastIndex? (front.map change) (part.map change) (back.map change)
  rw [← copy] at isFirst isLast
  rw [List.length_map] at notBehind notBefore
  refine ⟨part, text.drop first, first, last, ?_, ?_, notBehind, ?_, notBefore, ?_, ?_, ?_⟩
  · rw [cut]
    exact stretch?_append front part back
  · rw [folds part isPart, folds text List.infix_rfl, isFirst]
  · rw [folds part isPart, folds text List.infix_rfl, isLast]
  · obtain ⟨before, after, shape, rfl⟩ := exists_of_lastIndex? isLast
    have sizes := congrArg List.length shape
    simp only [List.length_append, List.length_map] at sizes
    omega
  · rw [tailFrom?, if_pos (by omega)]
  · obtain ⟨before, after, shape, rfl⟩ := exists_of_indexFrom? isFirst
    rw [folds part isPart, folds _ (List.drop_suffix _ _).isInfix, startsWith_iff, List.map_drop,
      shape, List.append_assoc, List.drop_left]
    exact List.prefix_append _ _

/-- The last place of the empty stretch is behind a text with an `İ`. -/
theorem noDotted_of_findsStretch
    (finds : FindsStretch true text 0 0) :
    'İ' ∉ text := by
  intro dotted
  obtain ⟨part, -, -, last, isPart, -, -, isLast, -, within, -, -⟩ := finds
  have nothing : part = [] := by
    rw [stretch?, if_pos (Nat.zero_le _), List.take_zero, Option.some.injEq] at isPart
    exact isPart.symm
  subst nothing
  have atEnd : lastIndex? [] text.lower = some text.lower.length := by
    rw [lastIndex?, ← List.length_reverse]
    cases text.lower.reverse <;> rfl
  change lastIndex? [] text.lower = some last at isLast
  rw [atEnd, Option.some.injEq, length_lower] at isLast
  have occurs := List.count_pos_iff.mpr dotted
  omega

/-- The beginning of a text is only found at its place if lower case keeps it a beginning. -/
theorem lower_isPrefix_of_findsStretch
    {part back : Text}
    (finds : FindsStretch true (part ++ back) 0 part.length) :
    part.lower <+: (part ++ back).lower := by
  obtain ⟨found, -, first, -, isPart, isFirst, notBehind, -⟩ := finds
  obtain rfl := Option.some.inj (isPart.symm.trans (stretch?_append [] part back))
  obtain ⟨earlier, later, shape, atFront⟩ := exists_of_indexFrom? isFirst
  obtain rfl := List.eq_nil_of_length_eq_zero (atFront.trans (Nat.le_zero.mp notBehind))
  exact ⟨later, shape.symm⟩

/-- The end of a text is only found at its place if lower case keeps it an end. -/
theorem lower_isSuffix_of_findsStretch
    {front part : Text}
    (noDotted : 'İ' ∉ front ++ part)
    (finds : FindsStretch true (front ++ part) front.length part.length) :
    part.lower <:+ (front ++ part).lower := by
  obtain ⟨found, -, -, last, isPart, -, -, isLast, notBefore, -⟩ := finds
  have cut := stretch?_append front part []
  rw [List.append_nil] at cut
  obtain rfl := Option.some.inj (isPart.symm.trans cut)
  obtain ⟨earlier, later, shape, rfl⟩ := exists_of_lastIndex? isLast
  change (front ++ found).lower = earlier ++ found.lower ++ later at shape
  have sizes := congrArg List.length shape
  rw [length_lower, List.count_eq_zero.mpr noDotted, List.length_append, List.length_append,
    List.length_append, length_lower] at sizes
  obtain rfl : later = [] :=
    List.eq_nil_of_length_eq_zero (by omega)
  rw [List.append_nil] at shape
  exact ⟨earlier, shape.symm⟩

/--
A capital sigma behind a letter is final where it ends a text, and is not where it begins
one: whichever it is in a text, one of the two stretches is not found at its place.
-/
theorem sigmaLeads_of_findsStretch
    {front back : Text}
    (noDotted : 'İ' ∉ front ++ 'Σ' :: back)
    (findsFront : FindsStretch true (front ++ ['Σ'] ++ back) 0 (front ++ ['Σ']).length)
    (findsBack : FindsStretch true (front ++ 'Σ' :: back) front.length ('Σ' :: back).length) :
    meetsCased front.reverse = false := by
  rw [← Bool.not_eq_true]
  intro meets
  obtain ⟨before, after, whole, atFront, atBack⟩ := exists_lower_sigma front back
  rw [meets, Bool.true_and] at whole
  cases final : meetsCased back with
  | true =>
      obtain ⟨later, shape⟩ := lower_isPrefix_of_findsStretch findsFront
      obtain ⟨before', after', ending, atFront', -⟩ := exists_lower_sigma front []
      rw [List.append_assoc, List.singleton_append, whole, ending, meets, final,
        List.append_assoc] at shape
      have sigmas := (List.append_inj shape (atFront'.trans atFront.symm)).2
      cases (List.cons.inj sigmas).1
  | false =>
      obtain ⟨earlier, shape⟩ := lower_isSuffix_of_findsStretch noDotted findsBack
      obtain ⟨before', after', beginning, nothing, atBack'⟩ := exists_lower_sigma [] back
      obtain rfl := List.eq_nil_of_length_eq_zero nothing
      rw [List.nil_append, List.nil_append] at beginning
      rw [whole, beginning, final] at shape
      have sizes : ('σ' :: after').length = ('ς' :: after).length :=
        congrArg (· + 1) (atBack'.trans atBack.symm)
      have sigmas := (List.append_inj' shape sizes).2
      cases (List.cons.inj sigmas).1

/-- All stretches of a text are found exactly if case counts or its case is steady. -/
theorem findsStretches_iff
    {ignoreCase : Bool} :
    (∀ start length, start + length ≤ text.length → FindsStretch ignoreCase text start length) ↔
      (ignoreCase = true → text.HasSteadyCase) := by
  constructor
  · rintro finds rfl
    have noDotted : 'İ' ∉ text :=
      noDotted_of_findsStretch (finds 0 0 (Nat.zero_le _))
    refine ⟨noDotted, ?_⟩
    rintro front back rfl
    refine sigmaLeads_of_findsStretch noDotted ?_ (finds _ _ (by rw [List.length_append]))
    rw [List.append_assoc]
    exact finds _ _ (by simp)
  · intro steady start length within
    cases ignoreCase with
    | true =>
        refine findsStretch_of_map simpleLower (fun part isPart => ?_) within
        exact ((steady rfl).ofInfix isPart).lower_eq_map
    | false =>
        refine findsStretch_of_map id (fun part _ => ?_) within
        rw [List.map_id]
        rfl

/-- Lower case takes no more characters than the text has bytes. -/
theorem length_folded_le
    (ignoreCase : Bool)
    (text : Text) :
    (text.folded ignoreCase).length ≤ text.utf8Size := by
  have within : text.length + text.count 'İ' ≤ text.utf8Size := by
    induction text with
    | nil =>
        rfl
    | cons c rest inductionHypothesis =>
        have positive := c.utf8Size_pos
        rw [utf8Size_cons, List.length_cons, List.count_cons]
        split
        · rename_i isDotted
          have twoBytes : c.utf8Size = 2 := by
            rw [eq_of_beq isDotted]
            decide
          omega
        · omega
  cases ignoreCase with
  | true =>
      exact (length_lower text).trans_le within
  | false =>
      exact (Nat.le_add_right _ _).trans within

end Text

theorem Invocation.natural_ofNat
    {call : Invocation}
    {index n : Nat}
    (isArgument : call.argument index = .int (.ofNat n))
    (fits : n < 2 ^ 63)
    (message : Text) :
    call.natural index message = .ok n := by
  have isNat := Int64.toInt_ofNat_of_lt fits
  have notNegative : ¬ Int64.ofNat n < 0 := by
    rw [Int64.lt_iff_toInt_lt, isNat]
    exact Int.not_lt.mpr (Int.natCast_nonneg n)
  rw [natural, integer, isArgument]
  change (if Int64.ofNat n < 0 then _ else _) = _
  rw [if_neg notNegative, isNat]
  rfl

namespace TextMembers

variable {text : Text} {start length place : Nat}

/-- A call on a text. -/
def callOn
    (surroundings : Surroundings)
    (text : Text)
    (arguments : List Value) :
    Invocation :=
  { receiver := some (.str text), arguments, surroundings }

/--
What `Substring` gives for a place and a length is found by `IndexOf` not behind the place,
by `LastIndexOf` not before it and in the text, and the text from the first of these
on starts with it.
-/
def FindsSubstring
    (surroundings : Surroundings)
    (comparison : Int64)
    (text : Text)
    (start length : Nat) :
    Prop :=
  ∃ (part rest : Text) (first last : Nat),
    substring (callOn surroundings text [.int (.ofNat start), .int (.ofNat length)]) =
        .ok (.str part) ∧
      indexOf (callOn surroundings text [.str part, .int comparison]) =
        .ok (.int (.ofNat first)) ∧
      first ≤ start ∧
      lastIndexOf (callOn surroundings text [.str part, .int comparison]) =
        .ok (.int (.ofNat last)) ∧
      start ≤ last ∧ last ≤ text.length ∧
      substring (callOn surroundings text [.int (.ofNat first)]) = .ok (.str rest) ∧
      startsWith (callOn surroundings rest [.str part, .int comparison]) = .ok (.bool true)

theorem within_eq_ok_iff
    {found : Option Text}
    {part : Text} :
    (within found).map Value.str = .ok (.str part) ↔ found = some part := by
  cases found <;> simp [within, Except.map]

theorem substring_eq
    (surroundings : Surroundings)
    (text : Text)
    (startFits : start < 2 ^ 63)
    (lengthFits : length < 2 ^ 63) :
    substring (callOn surroundings text [.int (.ofNat start), .int (.ofNat length)]) =
      (within (text.stretch? start length)).map .str := by
  rw [substring, position, Invocation.natural_ofNat rfl startFits]
  change (position _ 1 >>= _) = _
  rw [position, Invocation.natural_ofNat rfl lengthFits]
  rfl

theorem substring_tail_eq
    (surroundings : Surroundings)
    (text : Text)
    (startFits : start < 2 ^ 63) :
    substring (callOn surroundings text [.int (.ofNat start)]) =
      (within (text.tailFrom? start)).map .str := by
  rw [substring, position, Invocation.natural_ofNat rfl startFits]
  rfl

/-- A place below the limit of integers is told from all others, and from none. -/
theorem positionValue_eq_iff
    {found : Option Nat}
    (foundFits : ∀ known ∈ found, known < 2 ^ 63)
    (fits : place < 2 ^ 63) :
    positionValue found = .int (.ofNat place) ↔ found = some place := by
  have isPlace := Int64.toInt_ofNat_of_lt fits
  cases found with
  | none =>
      have differs : (-1 : Int64) ≠ Int64.ofNat place := by
        intro same
        rw [← same] at isPlace
        change (-1 : Int) = place at isPlace
        omega
      simp [positionValue, differs]
  | some known =>
      have isKnown := Int64.toInt_ofNat_of_lt (foundFits known rfl)
      have same : Int64.ofNat known = Int64.ofNat place ↔ known = place := by
        rw [← Int64.toInt_inj, isKnown, isPlace, Int.natCast_inj]
      simpa [positionValue] using same

/-- A place of a part is a number below the size of the text in bytes. -/
theorem place_le_of_eq
    {ignoreCase : Bool}
    {before part after : Text}
    (shape : text.folded ignoreCase = before ++ part ++ after) :
    before.length ≤ text.utf8Size := by
  refine Nat.le_trans ?_ (Text.length_folded_le ignoreCase text)
  rw [shape, List.append_assoc, List.length_append]
  exact Nat.le_add_right _ _

theorem indexOf_eq_ok_iff
    {surroundings : Surroundings}
    {comparison : Int64}
    {part : Text}
    (fits : text.utf8Size < 2 ^ 63)
    (placeFits : place < 2 ^ 63) :
    indexOf (callOn surroundings text [.str part, .int comparison]) =
        .ok (.int (.ofNat place)) ↔
      Text.indexFrom? (part.folded (ignoresCase comparison))
        (text.folded (ignoresCase comparison)) 0 = some place := by
  have opened :
      indexOf (callOn surroundings text [.str part, .int comparison]) =
        .ok (positionValue (Text.indexFrom? (part.folded (ignoresCase comparison))
          (text.folded (ignoresCase comparison)) 0)) :=
    rfl
  rw [opened, Except.ok.injEq]
  refine positionValue_eq_iff (fun known isKnown => ?_) placeFits
  obtain ⟨before, after, shape, rfl⟩ := Text.exists_of_indexFrom? isKnown
  exact (place_le_of_eq shape).trans_lt fits

theorem lastIndexOf_eq_ok_iff
    {surroundings : Surroundings}
    {comparison : Int64}
    {part : Text}
    (fits : text.utf8Size < 2 ^ 63)
    (placeFits : place < 2 ^ 63) :
    lastIndexOf (callOn surroundings text [.str part, .int comparison]) =
        .ok (.int (.ofNat place)) ↔
      Text.lastIndex? (part.folded (ignoresCase comparison))
        (text.folded (ignoresCase comparison)) = some place := by
  have opened :
      lastIndexOf (callOn surroundings text [.str part, .int comparison]) =
        .ok (positionValue (Text.lastIndex? (part.folded (ignoresCase comparison))
          (text.folded (ignoresCase comparison)))) :=
    rfl
  rw [opened, Except.ok.injEq]
  refine positionValue_eq_iff (fun known isKnown => ?_) placeFits
  obtain ⟨before, after, shape, rfl⟩ := Text.exists_of_lastIndex? isKnown
  exact (place_le_of_eq shape).trans_lt fits

theorem startsWith_eq_ok_iff
    {surroundings : Surroundings}
    {comparison : Int64}
    {part : Text} :
    startsWith (callOn surroundings text [.str part, .int comparison]) = .ok (.bool true) ↔
      Text.startsWith (part.folded (ignoresCase comparison))
        (text.folded (ignoresCase comparison)) = true := by
  have opened :
      startsWith (callOn surroundings text [.str part, .int comparison]) =
        .ok (.bool (Text.startsWith (part.folded (ignoresCase comparison))
          (text.folded (ignoresCase comparison)))) :=
    rfl
  rw [opened, Except.ok.injEq, Value.bool.injEq]

theorem findsSubstring_iff
    (surroundings : Surroundings)
    (comparison : Int64)
    (fits : text.utf8Size < 2 ^ 63)
    (isWithin : start + length ≤ text.length) :
    FindsSubstring surroundings comparison text start length ↔
      Text.FindsStretch (ignoresCase comparison) text start length := by
  have lengthFits : text.length < 2 ^ 63 :=
    (Text.length_folded_le false text).trans_lt fits
  unfold FindsSubstring Text.FindsStretch
  constructor
  · rintro ⟨part, rest, first, last, isPart, isFirst, notBehind, isLast, notBefore, inside, isRest,
      begins⟩
    rw [substring_eq surroundings text (by omega) (by omega), within_eq_ok_iff] at isPart
    rw [indexOf_eq_ok_iff fits (by omega)] at isFirst
    rw [lastIndexOf_eq_ok_iff fits (by omega)] at isLast
    rw [substring_tail_eq surroundings text (by omega), within_eq_ok_iff] at isRest
    rw [startsWith_eq_ok_iff] at begins
    exact ⟨part, rest, first, last, isPart, isFirst, notBehind, isLast, notBefore, inside, isRest,
      begins⟩
  · rintro ⟨part, rest, first, last, isPart, isFirst, notBehind, isLast, notBefore, inside, isRest,
      begins⟩
    refine ⟨part, rest, first, last, ?_, ?_, notBehind, ?_, notBefore, inside, ?_, ?_⟩
    · rwa [substring_eq surroundings text (by omega) (by omega), within_eq_ok_iff]
    · rwa [indexOf_eq_ok_iff fits (by omega)]
    · rwa [lastIndexOf_eq_ok_iff fits (by omega)]
    · rwa [substring_tail_eq surroundings text (by omega), within_eq_ok_iff]
    · rwa [startsWith_eq_ok_iff]

/--
`IndexOf` and `LastIndexOf` find every substring of a text around the place it was cut at
exactly if the comparison heeds case or the case of the text is steady.
-/
theorem substrings_found_iff
    (surroundings : Surroundings)
    (comparison : Int64)
    (fits : text.utf8Size < 2 ^ 63) :
    (∀ start length, start + length ≤ text.length →
        FindsSubstring surroundings comparison text start length) ↔
      (ignoresCase comparison = true → text.HasSteadyCase) := by
  rw [← Text.findsStretches_iff]
  refine forall_congr' fun start => forall_congr' fun length => forall_congr' fun isWithin => ?_
  exact findsSubstring_iff surroundings comparison fits isWithin

/-- Two Kelvin signs and a sigma that no letter leads are found whatever their case. -/
theorem substrings_found_iff_of_kelvin_signs :
    let text : Text := "\u212a Σ\u212a"
    let surroundings : Surroundings :=
      { host := { now := default, freshId := fun _ => [] }
        fileSystem := ({} : ListedFiles).toFileSystem }
    text.utf8Size < 2 ^ 63 ∧ ignoresCase 5 = true ∧ text.HasSteadyCase ∧
      FindsSubstring surroundings 5 text 3 1 := by
  intro text surroundings
  have fits : text.utf8Size < 2 ^ 63 := by
    decide
  have steady : text.HasSteadyCase := by
    decide +kernel
  have finds := (substrings_found_iff surroundings 5 fits).mpr fun _ => steady
  exact ⟨fits, rfl, steady, finds 3 1 (by decide)⟩

/-- Behind an `İ` a search that ignores case gives a place one character too far. -/
theorem not_every_substring_found :
    ¬ ∀ (surroundings : Surroundings) (comparison : Int64) (text : Text) (start length : Nat),
      text.utf8Size < 2 ^ 63 → start + length ≤ text.length →
        FindsSubstring surroundings comparison text start length := by
  intro claimed
  have found :=
    claimed
      { host := { now := default, freshId := fun _ => [] }
        fileSystem := ({} : ListedFiles).toFileSystem }
      5 "İx" 1 1 (by decide) (by decide)
  obtain ⟨part, rest, first, last, isPart, isFirst, notBehind, -⟩ := found
  cases isPart
  rw [indexOf_eq_ok_iff (by decide) (by omega)] at isFirst
  have isTwo : Text.indexFrom? (Text.folded true "x") (Text.folded true "İx") 0 = some 2 := by
    decide +kernel
  cases isFirst.symm.trans isTwo
  omega

end TextMembers

end RefExpand
