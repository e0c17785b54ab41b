import RefExpand.Proofs.Scan.VectorGrammar
import RefExpand.Proofs.Text.ListCutter

namespace RefExpand

/-!
# Where a vector ends for the list cutter

For the cutter a vector ends at the first closing parenthesis outside single
quotes. A vector whose transforms are all quoted has no other parenthesis there,
so the cutter leaves it where the scanner does. The argument list of a function
has one, and the part of the vector behind it is exposed.
-/

namespace Text

/-- What stands behind the first closing parenthesis outside single quotes. -/
def behindClose? : (quoted : Bool) → Text → Option Text
  | _, [] => none
  | quoted, c :: rest =>
      if c = '\'' then behindClose? (!quoted) rest
      else if c = ')' && !quoted then some rest
      else behindClose? quoted rest

/-- The cutter's mode inside a vector. -/
def CutterMode.inVector (quoted : Bool) : CutterMode :=
  if quoted then .quoted else .vector

theorem behindClose?_cons
    (quoted : Bool)
    {c : Char}
    (noQuote : c ≠ '\'')
    (passes : c = ')' → quoted = true)
    (rest : Text) :
    behindClose? quoted (c :: rest) = behindClose? quoted rest := by
  cases quoted with
  | true =>
      simp [behindClose?, noQuote]
  | false =>
      have noClose : c ≠ ')' := by
        intro closes
        cases passes closes
      simp [behindClose?, noQuote, noClose]

/-- Outside quotes a stretch without quotes and closing parentheses is passed over. -/
theorem behindClose?_append_of_plain
    {front : Text}
    (plain : ∀ c ∈ front, c ≠ '\'' ∧ c ≠ ')')
    (rest : Text) :
    behindClose? false (front ++ rest) = behindClose? false rest := by
  induction front with
  | nil =>
      rfl
  | cons c front inductionHypothesis =>
      obtain ⟨noQuote, noClose⟩ := plain c List.mem_cons_self
      rw [List.cons_append, behindClose?_cons false noQuote fun closes => absurd closes noClose]
      exact inductionHypothesis fun d isMember => plain d (List.mem_cons_of_mem _ isMember)

/-- A quoted span is passed over, whatever it holds. -/
theorem behindClose?_quoted
    {body : Text}
    (noQuote : '\'' ∉ body)
    (rest : Text) :
    behindClose? true (body ++ '\'' :: rest) = behindClose? false rest := by
  induction body with
  | nil =>
      simp [behindClose?]
  | cons c body inductionHypothesis =>
      rw [List.mem_cons, not_or] at noQuote
      rw [List.cons_append, behindClose?_cons true (Ne.symm noQuote.1) fun _ => rfl]
      exact inductionHypothesis noQuote.2

/-- The cutter runs to the end of the vector, never cuts inside, and is outside behind it. -/
theorem exists_of_behindClose?
    {quoted : Bool}
    {text behind : Text}
    (closes : behindClose? quoted text = some behind) :
    ∃ inside,
      text = inside ++ ')' :: behind ∧
        (CutterMode.inVector quoted).run (inside ++ [')']) = .outside ∧
        ∀ front back,
          inside = front ++ ';' :: back →
            ((CutterMode.inVector quoted).run front).cuts = false := by
  induction text generalizing quoted with
  | nil =>
      cases closes
  | cons c rest inductionHypothesis =>
      have inside : (CutterMode.inVector quoted).cuts = false := by
        cases quoted <;> rfl
      by_cases ends : c = ')' ∧ quoted = false
      · obtain ⟨rfl, rfl⟩ := ends
        have found : rest = behind := by
          simpa [behindClose?] using closes
        subst found
        refine ⟨[], rfl, rfl, fun front back shape => ?_⟩
        cases front <;> cases shape
      · -- The mode behind the character is the one in which the search goes on.
        obtain ⟨quoted', step, later⟩ :
            ∃ quoted',
              (CutterMode.inVector quoted).step c = CutterMode.inVector quoted' ∧
                behindClose? quoted' rest = some behind := by
          by_cases isQuote : c = '\''
          · subst isQuote
            refine ⟨!quoted, ?_, by simpa [behindClose?] using closes⟩
            cases quoted <;> rfl
          · have passes : c = ')' → quoted = true := by
              intro isClose
              rw [← Bool.not_eq_false]
              exact fun unquoted => ends ⟨isClose, unquoted⟩
            refine ⟨quoted, ?_, by rwa [behindClose?_cons quoted isQuote passes] at closes⟩
            cases quoted with
            | true =>
                simp [CutterMode.inVector, CutterMode.step, isQuote]
            | false =>
                have noClose : c ≠ ')' := by
                  intro isClose
                  cases passes isClose
                simp [CutterMode.inVector, CutterMode.step, isQuote, noClose]
        obtain ⟨part, shape, leaves, uncut⟩ := inductionHypothesis later
        refine ⟨c :: part, by rw [shape]; rfl, ?_, ?_⟩
        · rw [List.cons_append, CutterMode.run_cons, step, leaves]
        · intro front back shape
          cases front with
          | nil =>
              exact inside
          | cons d front =>
              rw [List.cons_append, List.cons.injEq] at shape
              obtain ⟨rfl, shape⟩ := shape
              rw [CutterMode.run_cons, step]
              exact uncut front back shape

/-- A search that leaves the second stretch whole ends in the first one. -/
theorem behindClose?_of_append
    {quoted : Bool}
    {front back : Text}
    (closes : behindClose? quoted (front ++ back) = some back) :
    behindClose? quoted front = some [] := by
  induction front generalizing quoted with
  | nil =>
      obtain ⟨inside, shape, -⟩ := exists_of_behindClose? closes
      have sizes := congrArg List.length shape
      simp only [List.nil_append, List.length_append, List.length_cons] at sizes
      omega
  | cons c front inductionHypothesis =>
      rw [List.cons_append, behindClose?] at closes
      rw [behindClose?]
      split at closes
      · rename_i isQuote
        rw [if_pos isQuote]
        exact inductionHypothesis closes
      · rename_i noQuote
        rw [if_neg noQuote]
        split at closes
        · rename_i ends
          rw [if_pos ends]
          have nothing : front = [] := by
            simpa using closes
          rw [nothing]
        · rename_i goesOn
          rw [if_neg goesOn]
          exact inductionHypothesis closes

theorem behindClose?_skipBlanks
    (text : Text) :
    behindClose? false text.skipBlanks = behindClose? false text := by
  have plain : ∀ c ∈ text.takeWhile isAsciiBlank, c ≠ '\'' ∧ c ≠ ')' := by
    intro c isMember
    have blank : isAsciiBlank c = true :=
      List.all_eq_true.mp List.all_takeWhile c isMember
    constructor
    all_goals
      rintro rfl
      exact absurd blank (by decide)
  have whole : text.takeWhile isAsciiBlank ++ text.skipBlanks = text :=
    List.takeWhile_append_dropWhile
  rw [← behindClose?_append_of_plain plain, whole]

theorem behindClose?_takeName
    (text : Text) :
    behindClose? false (takeName text).2 = behindClose? false text := by
  have plain : ∀ c ∈ (takeName text).1, c ≠ '\'' ∧ c ≠ ')' := by
    intro c isMember
    have continues := continues_of_mem_takeName c isMember
    exact
      ⟨ne_of_isNameContinue continues (by decide), ne_of_isNameContinue continues (by decide)⟩
  rw [← behindClose?_append_of_plain plain, takeName_append]

end Text

namespace ItemVector

/-- The part of a vector that the list cutter takes for text behind the vector. -/
def exposed? (vector : ItemVector) : Option Text :=
  Text.behindClose? false (vector.written.drop 2)

theorem behindClose?_of_readQuoted?
    {text body rest : Text}
    (read : readQuoted? text = some (body, rest)) :
    Text.behindClose? false text = Text.behindClose? false rest := by
  have opens :
      ∀ tail, Text.behindClose? false ('\'' :: tail) = Text.behindClose? true tail :=
    fun _ => rfl
  rw [readQuoted?_eq_append read, opens,
    Text.behindClose?_quoted (quote_not_mem_of_readQuoted? read)]

/-- Quoted transforms are passed over, with the arrows before them. -/
theorem behindClose?_of_readTransforms?
    {size : Nat}
    {text rest : Text}
    {transforms : List Transform}
    (read : readTransforms? size text = some (transforms, rest))
    (allQuoted : ∀ transform ∈ transforms, transform.functionName? = none) :
    Text.behindClose? false text = Text.behindClose? false rest := by
  fun_induction readTransforms? size text generalizing transforms rest with
  | case1 =>
      cases read
  | case2 =>
      cases read
  | case3 tail kind after readOne later last recursion inductionHypothesis =>
      simp only [Option.some.injEq, Prod.mk.injEq] at read
      obtain ⟨rfl, rfl⟩ := read
      have arrow :
          Text.behindClose? false ('-' :: '>' :: tail) = Text.behindClose? false tail :=
        rfl
      have quotedHere :
          Text.behindClose? false (Text.skipBlanks tail) = Text.behindClose? false after := by
        unfold readTransform? at readOne
        split at readOne
        · rename_i quoted
          simp only [Option.some.injEq, Prod.mk.injEq] at readOne
          rw [← readOne.2]
          exact behindClose?_of_readQuoted? quoted
        · simp only [Option.map_eq_some_iff, Prod.mk.injEq, Prod.exists] at readOne
          obtain ⟨name, arguments, _, -, rfl, rfl⟩ := readOne
          have isFunction := allQuoted _ List.mem_cons_self
          cases isFunction
      rw [arrow, ← Text.behindClose?_skipBlanks, quotedHere, ← Text.behindClose?_skipBlanks after]
      exact inductionHypothesis recursion fun transform isMember =>
        allQuoted transform (List.mem_cons_of_mem _ isMember)
  | case4 =>
      simp only [Option.some.injEq, Prod.mk.injEq] at read
      rw [read.2]

theorem behindClose?_of_readSeparator?
    {size : Nat}
    {text rest : Text}
    {separator : Option Separator}
    (read : readSeparator? size text = some (separator, rest)) :
    Text.behindClose? false text = Text.behindClose? false rest := by
  unfold readSeparator? at read
  split at read
  · rename_i tail
    simp only [Option.map_eq_some_iff, Prod.mk.injEq, Prod.exists] at read
    obtain ⟨body, after, quoted, -, rfl⟩ := read
    have comma :
        Text.behindClose? false (',' :: tail) = Text.behindClose? false tail :=
      rfl
    rw [comma, ← Text.behindClose?_skipBlanks, behindClose?_of_readQuoted? quoted,
      Text.behindClose?_skipBlanks]
  · simp only [Option.some.injEq, Prod.mk.injEq] at read
    rw [read.2]

/-- Nothing of a vector without functions is exposed: scanner and cutter end it together. -/
theorem exposed?_of_quoted
    {text rest : Text}
    {vector : ItemVector}
    (read : read? text = some (vector, rest))
    (allQuoted : ∀ transform ∈ vector.transforms, transform.functionName? = none) :
    vector.exposed? = some [] := by
  obtain
    ⟨size, body, afterName, afterTransforms, shape, taken, readTransforms, readSeparator, -⟩ :=
    exists_of_read? read
  obtain ⟨inside, written⟩ := exists_written read
  have atEnd : Text.behindClose? false body = some rest := by
    have name : (Text.takeName (Text.skipBlanks body)).2 = afterName := by
      rw [taken]
    have close : Text.behindClose? false (')' :: rest) = some rest :=
      rfl
    rw [← Text.behindClose?_skipBlanks, ← Text.behindClose?_takeName, name,
      ← Text.behindClose?_skipBlanks, behindClose?_of_readTransforms? readTransforms allQuoted,
      behindClose?_of_readSeparator? readSeparator, close]
  have whole : text = vector.written ++ rest := reader_takes read
  rw [shape, written, List.cons_append, List.cons_append, List.cons.injEq,
    List.cons.injEq] at whole
  rw [whole.2.2] at atEnd
  rw [exposed?, written]
  exact Text.behindClose?_of_append atEnd

end ItemVector

end RefExpand
