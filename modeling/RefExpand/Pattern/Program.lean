import RefExpand.Pattern.Basic

namespace RefExpand.Pattern

/-!
# Programs of patterns

A pattern is laid out as a program whose threads are run side by side, so that a
search takes one pass over the text and ends for every pattern. Steps refer to
each other by their places in the program.
-/

/-- One step of a program. -/
inductive Instruction where
  | read (set : CharSet)
  | check (assertion : Assertion)
  | fork (preferred other : Nat)
  | jump (target : Nat)
  | save (slot : Nat)
  | accept
  deriving Repr, DecidableEq, Inhabited

/-- The steps of a program in order. -/
abbrev Program := Array Instruction

mutual

/-- The number of steps of a pattern. -/
def stepCount : Pattern → Nat
  | .literal text => text.length
  | .one _ => 1
  | .check _ => 1
  | .sequence parts => stepCountOfAll parts
  | .choice alternatives => stepCountOfAll alternatives + 2 * (alternatives.length - 1)
  | .repeated least most _ body =>
      match most with
      | some most => least * body.stepCount + (most - least) * (body.stepCount + 1)
      | none => if least = 0 then body.stepCount + 2 else least * body.stepCount + 1
  | .group _ body => body.stepCount + 2

/-- The number of steps of several patterns. -/
def stepCountOfAll : List Pattern → Nat
  | [] => 0
  | part :: parts => part.stepCount + stepCountOfAll parts

end

/-- A fork to two places, the first preferred if the repetition is greedy. -/
def forkBy (greedy : Bool) (inner outer : Nat) : Instruction :=
  if greedy then .fork inner outer else .fork outer inner

/-- Lay out an optional copy that leads to `finish` when it is left out. -/
def optionalCopy (greedy : Bool) (finish : Nat) (layOut : Program → Program)
    (program : Program) : Program :=
  layOut (program.push (forkBy greedy (program.size + 1) finish))

/-- Lay out any number of copies, at least one. -/
def someCopies (greedy : Bool) (layOut : Program → Program) (program : Program) : Program :=
  let start := program.size
  let program := layOut program
  program.push (forkBy greedy start (program.size + 1))

/-- Lay out any number of copies of a pattern of `count` steps. -/
def anyCopies (greedy nullable : Bool) (count : Nat) (layOut : Program → Program)
    (program : Program) : Program :=
  let start := program.size
  let entered := program.push (forkBy greedy (start + 1) (start + count + 2))
  if nullable then someCopies greedy layOut entered
  else (layOut entered).push (.jump start)

mutual

/-- Lay out a pattern behind a program. -/
def layOut : Pattern → Program → Program
  | .literal text, program => text.foldl (fun program c => program.push (.read (.ofChar c))) program
  | .one set, program => program.push (.read set)
  | .check assertion, program => program.push (.check assertion)
  | .sequence parts, program => layOutAll parts program
  | .choice alternatives, program =>
      let count := stepCountOfAll alternatives + 2 * (alternatives.length - 1)
      layOutChoice (program.size + count) alternatives program
  | .repeated least most greedy body, program =>
      match most with
      | some most =>
          let program := Nat.repeat body.layOut least program
          let finish := program.size + (most - least) * (body.stepCount + 1)
          Nat.repeat (optionalCopy greedy finish body.layOut) (most - least) program
      | none =>
          if least = 0 then
            anyCopies greedy body.nullable body.stepCount body.layOut program
          else
            someCopies greedy body.layOut (Nat.repeat body.layOut (least - 1) program)
  | .group index body, program =>
      (body.layOut (program.push (.save (2 * index)))).push (.save (2 * index + 1))

/-- Lay out patterns one after the other. -/
def layOutAll : List Pattern → Program → Program
  | [], program => program
  | part :: parts, program => layOutAll parts (part.layOut program)

/-- Lay out alternatives, each of which leads to `finish`. -/
def layOutChoice (finish : Nat) : List Pattern → Program → Program
  | [], program => program
  | [last], program => last.layOut program
  | first :: second :: later, program =>
      let next := program.size + first.stepCount + 2
      let program := first.layOut (program.push (.fork (program.size + 1) next))
      layOutChoice finish (second :: later) (program.push (.jump finish))

end

/-- The program that captures the whole match as group zero. -/
def program (pattern : Pattern) : Program :=
  ((Pattern.group 0 pattern).layOut #[]).push .accept

end RefExpand.Pattern
