import RefExpand.Proofs.Scan.Balanced
import RefExpand.Proofs.Scan.Cuts
import RefExpand.Scan.Window

namespace RefExpand

/-!
# Parentheses in a window

The search in a window looks for the quote that ends a quoted span in all of the text
and checks then that it lies in the window. It finds a closing parenthesis if the
search in all of the text finds it, and before the window ends.
-/

theorem utf8Size_of_isQuote
    {c : Char}
    (quote : isQuote c = true) :
    c.utf8Size = 1 := by
  simp only [isQuote, Bool.or_eq_true, beq_iff_eq] at quote
  rcases quote with (rfl | rfl) | rfl
  all_goals decide

theorem Text.not_mem_of_breakAt?
    {c : Char}
    {text : Text}
    (absent : breakAt? (· == c) text = none) :
    c ∉ text := by
  intro isMember
  obtain ⟨front, back, rfl, notEarlier⟩ := List.eq_append_cons_of_mem isMember
  have others : ∀ d ∈ front, (d == c) = false := by
    intro d inFront
    rw [beq_eq_false_iff_ne]
    rintro rfl
    exact notEarlier inFront
  rw [breakAt?_append_cons (p := (· == c)) others (beq_self_eq_true c) back] at absent
  cases absent

/-- A quoted span that is not closed has no parenthesis behind it. -/
theorem scanClose_of_not_mem
    {quote : Char}
    {text : Text}
    (neverCloses : quote ∉ text)
    (depth : Nat) :
    scanClose (some quote) depth text = none := by
  induction text with
  | nil =>
      rfl
  | cons c text inductionHypothesis =>
      rw [List.mem_cons, not_or] at neverCloses
      rw [scanClose, if_neg (Ne.symm neverCloses.1), inductionHypothesis neverCloses.2]
      rfl

theorem Text.utf8Size_enclosed
    {opening closing : Char}
    (openingSingle : opening.utf8Size = 1)
    (closingSingle : closing.utf8Size = 1)
    (body rest : Text) :
    utf8Size (opening :: (body ++ closing :: rest)) = body.utf8Size + 2 + rest.utf8Size := by
  rw [utf8Size_cons, utf8Size_append, utf8Size_cons, openingSingle, closingSingle]
  omega

/-- What stands from a quote to the next one is a nested text. -/
theorem quoted_of_breakAt?
    {quote : Char}
    {rest body behind : Text}
    (opens : isQuote quote = true)
    (found : Text.breakAt? (· == quote) rest = some (body, behind)) :
    quote :: rest = quote :: (body ++ [quote]) ++ behind ∧
      Nested (quote :: (body ++ [quote])) ∧
      Text.utf8Size (quote :: (body ++ [quote])) = body.utf8Size + 2 := by
  obtain ⟨stop, isStop, rfl⟩ := Text.breakAt?_eq_append found
  have isQuote : stop = quote := by
    simpa using isStop
  subst isQuote
  have closesFirst : stop ∉ body := by
    intro isMember
    have differs := Text.of_mem_breakAt? found stop isMember
    simp at differs
  have single := utf8Size_of_isQuote opens
  exact ⟨by simp, .quoted opens closesFirst .nil, Text.utf8Size_enclosed single single body []⟩

namespace Place

/-- What closes a parenthesis counts if it lies in the window. -/
def ifWithin
    (room : Nat)
    (parts : Text × Text) :
    Option (Text × Place) :=
  if parts.1.utf8Size < room then
    some (parts.1, { ahead := parts.2, room := room - (parts.1.utf8Size + 1) })
  else
    none

theorem ifWithin_eq_some_iff
    {room : Nat}
    {parts : Text × Text}
    {inside : Text}
    {next : Place} :
    ifWithin room parts = some (inside, next) ↔
      parts.1.utf8Size < room ∧ inside = parts.1 ∧
        next = { ahead := parts.2, room := room - (parts.1.utf8Size + 1) } := by
  rw [ifWithin]
  split
  · rename_i fits
    simp [fits, eq_comm]
  · rename_i beyond
    simp [beyond]

/-- What is passed over takes its room from the window. -/
theorem bind_ifWithin_front
    (room : Nat)
    (front : Text)
    (found : Option (Text × Text)) :
    (found.map fun parts => (front ++ parts.1, parts.2)).bind (ifWithin room) =
      (found.bind (ifWithin (room - front.utf8Size))).map (passed front) := by
  cases found with
  | none =>
      rfl
  | some parts =>
      simp only [Option.map_some, Option.bind_some, ifWithin, Text.utf8Size_append]
      by_cases fits : front.utf8Size + parts.1.utf8Size < room
      · have fitsBehind : parts.1.utf8Size < room - front.utf8Size := by
          omega
        rw [if_pos fits, if_pos fitsBehind, Option.map_some, passed]
        simp only [Option.some.injEq, Prod.mk.injEq, mk.injEq, true_and]
        omega
      · have beyond : ¬parts.1.utf8Size < room - front.utf8Size := by
          omega
        rw [if_neg fits, if_neg beyond, Option.map_none]

theorem bind_ifWithin_zero
    (found : Option (Text × Text)) :
    found.bind (ifWithin 0) = none := by
  cases found <;> rfl

end Place

namespace Place

/-- A nested text is passed over, and the window is smaller by its size. -/
theorem bind_ifWithin_nested
    (depth room : Nat)
    {front : Text}
    (nested : Nested front)
    (rest : Text) :
    ((scanClose none depth (front ++ rest)).map (·.parts)).bind (ifWithin room) =
      (((scanClose none depth rest).map (·.parts)).bind
        (ifWithin (room - front.utf8Size))).map (passed front) := by
  rw [nested.scanClose_append, ← bind_ifWithin_front, Option.map_map]
  rfl

/-- A parenthesis is passed over like other text, at another depth. -/
theorem bind_ifWithin_parenthesis
    {depth inner : Nat}
    {c : Char}
    {rest : Text}
    (room : Nat)
    (step :
      (scanClose none depth (c :: rest)).map (·.parts) =
        ((scanClose none inner rest).map (·.parts)).map fun parts => ([c] ++ parts.1, parts.2)) :
    ((scanClose none depth (c :: rest)).map (·.parts)).bind (ifWithin room) =
      (((scanClose none inner rest).map (·.parts)).bind
        (ifWithin (room - c.utf8Size))).map (passed [c]) := by
  rw [step, bind_ifWithin_front]
  rfl

/-- The search in a window finds what the search in all of the text finds within it. -/
theorem closeWithin_eq
    (depth room : Nat)
    (text : Text) :
    closeWithin depth room text =
      ((scanClose none depth text).map (·.parts)).bind (ifWithin room) := by
  fun_induction closeWithin depth room text with
  | case1 =>
      rfl
  | case2 =>
      exact (bind_ifWithin_zero _).symm
  | case3 depth room c rest someRoom quote unclosed =>
      have neverCloses := Text.not_mem_of_breakAt? unclosed
      simp [scanClose, quote, scanClose_of_not_mem neverCloses]
  | case4 depth room c rest left someRoom quote body behind closes beyond =>
      obtain ⟨shape, nested, size⟩ := quoted_of_breakAt? quote closes
      have full : room - (body.utf8Size + 2) = 0 := by
        have single := utf8Size_of_isQuote quote
        omega
      rw [shape, bind_ifWithin_nested depth room nested, size, full, bind_ifWithin_zero]
      rfl
  | case5 depth room c rest left someRoom quote body behind closes fits inductionHypothesis =>
      obtain ⟨shape, nested, size⟩ := quoted_of_breakAt? quote closes
      have left_eq : left - (body.utf8Size + 1) = room - (body.utf8Size + 2) := by
        have single := utf8Size_of_isQuote quote
        omega
      rw [shape, bind_ifWithin_nested depth room nested, size, inductionHypothesis, left_eq]
  | case6 depth room rest someRoom left noQuote inductionHypothesis =>
      have step :
          (scanClose none depth ('(' :: rest)).map (·.parts) =
            ((scanClose none (depth + 1) rest).map (·.parts)).map
              fun parts => (['('] ++ parts.1, parts.2) := by
        rw [Option.map_map]
        simp [scanClose, isQuote, ClosedSpan.parts, ClosedSpan.push, Function.comp_def]
      rw [bind_ifWithin_parenthesis room step, inductionHypothesis]
  | case7 room rest someRoom left noQuote noOpen =>
      have closes :
          (scanClose none 0 (')' :: rest)).map (·.parts) = some ([], rest) := by
        simp [scanClose, isQuote, ClosedSpan.parts]
      have enough : Text.utf8Size [] < room :=
        Nat.pos_of_ne_zero someRoom
      rw [closes, Option.bind_some, ifWithin, if_pos enough]
      rfl
  | case8 room rest someRoom depth left noQuote noOpen inductionHypothesis =>
      have step :
          (scanClose none (depth + 1) (')' :: rest)).map (·.parts) =
            ((scanClose none depth rest).map (·.parts)).map
              fun parts => ([')'] ++ parts.1, parts.2) := by
        rw [Option.map_map]
        simp [scanClose, isQuote, ClosedSpan.parts, ClosedSpan.push, Function.comp_def]
      rw [bind_ifWithin_parenthesis room step, inductionHypothesis]
  | case9 depth room c rest left someRoom noQuote noOpen noClose inductionHypothesis =>
      have plain : Nested [c] :=
        .plain (Bool.not_eq_true _ ▸ noQuote) noOpen noClose .nil
      have step := bind_ifWithin_nested depth room plain rest
      rw [List.singleton_append] at step
      rw [step, inductionHypothesis]
      rfl

/-- The search behind an opening parenthesis, in all of the text first. -/
theorem readParens?_parenthesis
    (rest : Text)
    (room : Nat) :
    readParens? { ahead := '(' :: rest, room } =
      ((closeParen? rest).map (·.parts)).bind (ifWithin (room - 1)) :=
  closeWithin_eq 0 (room - 1) rest

/-- An argument list is read in a window if it is one and its end lies in the window. -/
theorem readParens?_eq_some_iff
    {place next : Place}
    {inside : Text} :
    place.readParens? = some (inside, next) ↔
      ∃ rest,
        place.ahead = '(' :: (inside ++ ')' :: rest) ∧ Nested inside ∧
          inside.utf8Size + 2 ≤ place.room ∧
          next = { ahead := rest, room := place.room - (inside.utf8Size + 2) } := by
  rcases place with ⟨ahead, room⟩
  constructor
  · intro read
    obtain ⟨tail, rfl⟩ : ∃ tail, ahead = '(' :: tail := by
      unfold readParens? at read
      split at read
      · rename_i tail starts
        exact ⟨tail, starts⟩
      · cases read
    rw [readParens?_parenthesis, Option.bind_eq_some_iff] at read
    obtain ⟨parts, closedParts, counted⟩ := read
    obtain ⟨span, closed, rfl⟩ := Option.map_eq_some_iff.mp closedParts
    obtain ⟨fits, rfl, rfl⟩ := ifWithin_eq_some_iff.mp counted
    have shape := closeParen?_eq_append closed
    refine ⟨span.rest, by rw [shape]; rfl, .of_closeParen? closed, ?_, ?_⟩
    · change span.inside.utf8Size + 2 ≤ room
      change span.inside.utf8Size < room - 1 at fits
      omega
    · rw [Nat.sub_sub, Nat.add_comm 1]
      rfl
  · rintro ⟨rest, starts, nested, fits, rfl⟩
    dsimp only at starts fits
    obtain ⟨span, closed, rfl, rfl⟩ := nested.closeParen? rest
    rw [starts, readParens?_parenthesis, closed, Option.map_some, Option.bind_some,
      ifWithin_eq_some_iff]
    refine ⟨?_, rfl, ?_⟩
    · change span.inside.utf8Size < room - 1
      omega
    · rw [Nat.sub_sub, Nat.add_comm 1]
      rfl

end Place

end RefExpand
