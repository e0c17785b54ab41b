import RefExpand.Proofs.Expand.PropertyFailures
import RefExpand.Proofs.Expand.StretchRuns
import RefExpand.Proofs.Scan.Cuts

namespace RefExpand

/-!
# Bodies that are cut inside a character

A body is compared with the word of the registry by its first nine bytes, whatever
characters these are. If the ninth byte ends inside a character the body is cut there, and
the run halts. The property phase cuts nowhere else, so these references are told from the
text alone: a run halts at one of them, or in a call.
-/

namespace Text

theorem charAround?_isSome_iff
    (offset start : Nat)
    (text : Text) :
    (charAround? offset start text).isSome = true ↔
      ∃ (before : Text) (c : Char) (after : Text),
        text = before ++ c :: after ∧
          start + before.utf8Size < offset ∧
          offset < start + before.utf8Size + c.utf8Size := by
  induction text generalizing start with
  | nil =>
      simp [charAround?]
  | cons c rest inductionHypothesis =>
      rw [charAround?]
      split
      · rename_i behind
        simp only [Option.isSome_none, Bool.false_eq_true, false_iff]
        rintro ⟨before, d, after, -, starts, -⟩
        omega
      · rename_i inFront
        split
        · rename_i inside
          refine iff_of_true rfl ⟨[], c, rest, rfl, ?_, ?_⟩
          · simpa [utf8Size] using inFront
          · simpa [utf8Size] using inside
        · rename_i beyond
          rw [inductionHypothesis]
          constructor
          · rintro ⟨before, d, after, rfl, starts, ends⟩
            refine ⟨c :: before, d, after, rfl, ?_, ?_⟩
            all_goals
              rw [utf8Size_cons]
              omega
          · rintro ⟨before, d, after, shape, starts, ends⟩
            cases before with
            | nil =>
                obtain ⟨rfl, -⟩ := List.cons.inj shape
                have blank : utf8Size [] = 0 :=
                  rfl
                rw [blank] at ends
                omega
            | cons first before =>
                obtain ⟨rfl, rfl⟩ := List.cons.inj shape
                rw [utf8Size_cons] at starts ends
                exact ⟨before, d, after, rfl, by omega, by omega⟩

/-- A text is cut inside a character if one begins in front of the offset and ends behind it. -/
theorem cutsCharacter_iff
    (offset : Nat)
    (text : Text) :
    cutsCharacter offset text = true ↔
      ∃ (before : Text) (c : Char) (after : Text),
        text = before ++ c :: after ∧
          before.utf8Size < offset ∧
          offset < before.utf8Size + c.utf8Size := by
  simp only [cutsCharacter, charAround?_isSome_iff, Nat.zero_add]

end Text

namespace Stretch

/-- One character of the body stands on both sides of its ninth byte's end. -/
def Splits
    (inside : Text) :
    Prop :=
  ∃ (before : Text) (c : Char) (after : Text),
    inside.trim = before ++ c :: after ∧
      before.utf8Size < Template.registryWord.length ∧
      Template.registryWord.length < before.utf8Size + c.utf8Size

/-- The reference asks for a call. -/
def IsCall
    (inside : Text) :
    Prop :=
  ∃ receiver chain, Request.read inside = .call receiver chain

end Stretch

namespace Request

/-- The cut of a body inside a character. -/
def split
    (inside : Text) :
    Halt :=
  .cutCharacter Template.registryWord.length inside.trim

/-- Exactly the references whose bodies split a character are cut. -/
theorem read_eq_cutInside_iff
    {inside body : Text}
    {offset : Nat} :
    read inside = .cutInside offset body ↔
      Stretch.Splits inside ∧ split inside = .cutCharacter offset body := by
  rw [Stretch.Splits, ← Text.cutsCharacter_iff, split, Halt.cutCharacter.injEq]
  constructor
  · intro asks
    have reading := reading inside
    rw [asks] at reading
    cases reading with
    | cutInside splits =>
        exact ⟨splits, rfl, rfl⟩
  · rintro ⟨splits, rfl, rfl⟩
    have present : ¬ inside.trim.isEmpty = true := by
      intro blank
      rw [List.isEmpty_iff.mp blank] at splits
      cases splits
    rw [read, if_neg present, if_pos splits]

theorem evaluate_of_splits
    {inside : Text}
    (splits : Stretch.Splits inside)
    (phase : PropertyPhase) :
    (read inside).evaluate phase (Stretch.written inside) = throw (.halt (split inside)) := by
  rw [read_eq_cutInside_iff.mpr ⟨splits, rfl⟩, evaluate]
  rfl

end Request

namespace PropertyPhase

variable {phase : PropertyPhase}

/-- A halt that a reference raises is the cut of its body, or a halt of a call. -/
theorem Raises.halt
    {inside : Text}
    {breach : Halt}
    (raises : phase.Raises inside (.halt breach)) :
    (Stretch.Splits inside ∧ breach = Request.split inside) ∨
      (Stretch.IsCall inside ∧ phase.context.resolver.Halts breach) := by
  generalize isHalt : Failure.halt breach = failure at raises
  cases raises with
  | cutInside asks =>
      obtain ⟨splits, isSplit⟩ := Request.read_eq_cutInside_iff.mp asks
      cases isHalt
      exact .inl ⟨splits, isSplit.symm⟩
  | call asks raised passes =>
      have isBreach := Failure.eq_halt_of_withLocation isHalt.symm
      subst isBreach
      cases raised with
      | halt halts =>
          exact .inr ⟨⟨_, _, asks⟩, halts⟩
  | uncallable asks passes =>
      cases isHalt
  | malformed asks passes =>
      cases isHalt

/-- A run halts at a reference whose body splits a character, or in a call. -/
theorem exists_of_halt
    {expression : Text}
    {before : Trace}
    {breach : Halt}
    (halts : ((phase.value expression).runFrom before).1 = .error (.halt breach)) :
    ∃ inside,
      Stretch.StandsIn inside expression ∧
        ((Stretch.Splits inside ∧ breach = Request.split inside) ∨
          (Stretch.IsCall inside ∧ phase.context.resolver.Halts breach)) := by
  obtain ⟨inside, stands, raises⟩ := phase.value_raisesOnly expression before _ halts
  exact ⟨inside, stands, raises.halt⟩

/-- An expression one of whose references splits a character has no value. -/
theorem value_fails_of_splits
    {expression inside : Text}
    (isReference : Stretch.reference inside ∈ Stretch.cut expression)
    (splits : Stretch.Splits inside) :
    (phase.value expression).Fails := by
  refine phase.value_fails isReference ?_
  rw [Request.evaluate_of_splits splits]
  exact .throw _

/--
The property phase halts only at references that stand in the expression: at one whose
ninth byte ends inside a character, or at a call, where a function halts. It does halt at
the first reference of the former kind that it comes to, and an expression that is cut into
one has no value at all.
-/
theorem halts_at_split_bodies
    (phase : PropertyPhase)
    (expression : Text)
    (before : Trace) :
    (∀ breach,
        ((phase.value expression).runFrom before).1 = .error (.halt breach) →
          ∃ inside,
            Stretch.StandsIn inside expression ∧
              ((Stretch.Splits inside ∧ breach = Request.split inside) ∨
                (Stretch.IsCall inside ∧ phase.context.resolver.Halts breach))) ∧
      (∀ front inside rest pieces middle,
        Stretch.cut expression = front ++ .reference inside :: rest →
          Stretch.Splits inside →
          (front.mapM (phase.stretchLevel phase.enter)).runFrom before = (.ok pieces, middle) →
          (phase.value expression).runFrom before =
            (.error (.halt (Request.split inside)), middle)) ∧
      ∀ inside,
        Stretch.reference inside ∈ Stretch.cut expression →
          Stretch.Splits inside →
          (phase.value expression).Fails := by
  refine ⟨fun breach => exists_of_halt, ?_, ?_⟩
  · intro front inside rest pieces middle shape splits reached
    refine phase.runFrom_value_of_error shape reached ?_
    rw [Request.evaluate_of_splits splits]
    rfl
  · intro inside isReference splits
    exact value_fails_of_splits isReference splits

/-- A call with an accent in its argument is cut in this accent. -/
theorem halts_at_split_bodies_of_accent :
    let phase : PropertyPhase :=
      { table := { entries := [("A".toList, "xé".toList)] }
        options := .properties
        context := .onEmptyMachine }
    let inside := "A.Trim('é')".toList
    Stretch.Splits inside ∧
      Stretch.cut (Stretch.written inside) =
        [.literal []] ++ .reference inside :: [.literal []] ∧
      (phase.value (Stretch.written inside)).runFrom {} =
        (.error (.halt (Request.split inside)), {}) ∧
      (phase.value (Stretch.written inside)).Fails := by
  intro phase inside
  have splits : Stretch.Splits inside :=
    ⟨"A.Trim('".toList, 'é', "')".toList, rfl, by decide, by decide⟩
  have shape := Stretch.cut_written (.of_closes rfl : Nested inside)
  have isReference : Stretch.reference inside ∈ Stretch.cut (Stretch.written inside) := by
    simp [shape]
  have reached :
      ([Stretch.literal []].mapM (phase.stretchLevel phase.enter)).runFrom {} =
        (.ok [.literal []], {}) :=
    rfl
  have halts := halts_at_split_bodies phase (Stretch.written inside) {}
  exact ⟨splits, shape, halts.2.1 _ _ _ _ _ shape splits reached,
    halts.2.2 _ isReference splits⟩

/-- A body is cut inside a character, where the call has a value. -/
theorem not_every_body_cut_between_characters :
    ¬ ∀ (phase : PropertyPhase) (expression : Text) (before : Trace),
        (∃ value, ((phase.value expression).runFrom before).1 = .ok value) ∨
          ∃ cause, ((phase.value expression).runFrom before).1 = .error (.error cause) := by
  intro always
  let phase : PropertyPhase :=
    { table := { entries := [("A".toList, "xé".toList)] }
      options := .properties
      context := .onEmptyMachine }
  have splits : Stretch.Splits "A.Trim('é')".toList :=
    ⟨"A.Trim('".toList, 'é', "')".toList, rfl, by decide, by decide⟩
  have nested : Nested "A.Trim('é')".toList :=
    .of_closes rfl
  have halts := always phase (Stretch.written "A.Trim('é')".toList) {}
  rw [phase.value_written nested, Request.evaluate_of_splits splits] at halts
  rcases halts with ⟨value, isValue⟩ | ⟨cause, isError⟩
  · cases isValue
  · cases isError

end PropertyPhase

end RefExpand
