import RefExpand.Proofs.Text.Name
import RefExpand.Scan.ItemVector

namespace RefExpand

/-!
# What scanning does not notice

A scanner of item vectors looks for names, blanks and a few marks. A change of
characters that keeps these apart from all others goes unnoticed: what is read from the
changed text is read from the text, and ends at the same place.
-/

namespace ItemVector

/-- Behind an arrow stands a transform, and behind it the other ones. -/
theorem readTransforms?_arrow
    (size : Nat)
    (tail : Text) :
    readTransforms? size ('-' :: '>' :: tail) =
      match readTransform? (Text.skipBlanks tail) with
      | none => none
      | some (kind, rest) =>
          (readTransforms? size rest.skipBlanks).map fun (later, last) =>
            (Transform.between size (Text.skipBlanks tail) rest kind :: later, last) := by
  rw [readTransforms?]
  cases readTransform? (Text.skipBlanks tail) with
  | none =>
      rfl
  | some found =>
      rcases found with ⟨kind, rest⟩
      dsimp only
      cases readTransforms? size rest.skipBlanks <;> rfl

theorem readTransforms?_of_no_arrow
    {text : Text}
    (noArrow : ∀ tail, text ≠ '-' :: '>' :: tail)
    (size : Nat) :
    readTransforms? size text = some ([], text) := by
  rw [readTransforms?.eq_def]
  split
  · rename_i tail
    exact absurd rfl (noArrow tail)
  · rfl

end ItemVector

/-- The characters that a scanner of item vectors compares with. -/
def scanMarks : Text := "@(->)'`\","

/-- A change of characters that keeps names, blanks and marks, and makes no new ones. -/
structure ScansAlike
    (change : Char → Char) :
    Prop where
  nameStart : ∀ c, Text.isNameStart (change c) = Text.isNameStart c
  nameContinue : ∀ c, Text.isNameContinue (change c) = Text.isNameContinue c
  blank : ∀ c, isAsciiBlank (change c) = isAsciiBlank c
  mark : ∀ mark ∈ scanMarks, ∀ c, change c = mark ↔ c = mark

namespace ScansAlike

variable {change : Char → Char}

theorem keeps
    (alike : ScansAlike change)
    {mark : Char}
    (isMark : mark ∈ scanMarks) :
    change mark = mark :=
  (alike.mark mark isMark mark).mpr rfl

theorem mem_scanMarks_of_isQuote
    {c : Char}
    (quotes : isQuote c = true) :
    c ∈ scanMarks := by
  simp only [isQuote, Bool.or_eq_true, beq_iff_eq] at quotes
  rcases quotes with (rfl | rfl) | rfl <;> decide

theorem isQuote_change
    (alike : ScansAlike change)
    (c : Char) :
    isQuote (change c) = isQuote c := by
  have each :
      ∀ mark ∈ scanMarks, (change c == mark) = (c == mark) := by
    intro mark isMark
    rw [Bool.eq_iff_iff, beq_iff_eq, beq_iff_eq]
    exact alike.mark mark isMark c
  simp only [isQuote, each '\'' (by decide), each '`' (by decide), each '"' (by decide)]

/-- A text that begins with a mark after the change began with it before. -/
theorem of_map_eq_cons
    (alike : ScansAlike change)
    {mark : Char}
    (isMark : mark ∈ scanMarks)
    {text tail : Text}
    (shape : text.map change = mark :: tail) :
    ∃ before, text = mark :: before ∧ tail = before.map change := by
  obtain ⟨c, before, rfl, isChanged, rfl⟩ := List.map_eq_cons_iff.mp shape
  exact ⟨before, by rw [(alike.mark mark isMark c).mp isChanged], rfl⟩

theorem skipBlanks_map
    (alike : ScansAlike change)
    (text : Text) :
    Text.skipBlanks (text.map change) = (Text.skipBlanks text).map change := by
  induction text with
  | nil =>
      rfl
  | cons c text inductionHypothesis =>
      unfold Text.skipBlanks at inductionHypothesis ⊢
      rw [List.map_cons, List.dropWhile_cons, List.dropWhile_cons, alike.blank,
        inductionHypothesis]
      split <;> rfl

theorem takeNameTail_map
    (alike : ScansAlike change)
    (text : Text) :
    Text.takeNameTail (text.map change) =
      ((Text.takeNameTail text).1.map change, (Text.takeNameTail text).2.map change) := by
  induction text with
  | nil =>
      rfl
  | cons c text inductionHypothesis =>
      have dash : (change c == '-') = (c == '-') := by
        rw [Bool.eq_iff_iff, beq_iff_eq, beq_iff_eq]
        exact alike.mark '-' (by decide) c
      have point : ((text.map change).head? == some '>') = (text.head? == some '>') := by
        cases text with
        | nil =>
            rfl
        | cons d text =>
            rw [Bool.eq_iff_iff]
            simpa using alike.mark '>' (by decide) d
      simp only [List.map_cons, Text.takeNameTail, alike.nameContinue, dash, point,
        inductionHypothesis]
      split <;> rfl

theorem takeName_map
    (alike : ScansAlike change)
    (text : Text) :
    Text.takeName (text.map change) =
      ((Text.takeName text).1.map change, (Text.takeName text).2.map change) := by
  cases text with
  | nil =>
      rfl
  | cons c text =>
      simp only [List.map_cons, Text.takeName, alike.nameStart, alike.takeNameTail_map]
      split <;> rfl

/-- The scan for a closing parenthesis goes through the same states. -/
theorem scanClose_map
    (alike : ScansAlike change)
    {quote : Option Char}
    (quotes : ∀ opened ∈ quote, isQuote opened = true)
    (depth : Nat)
    (text : Text) :
    (scanClose quote depth (text.map change)).map (·.rest) =
      (scanClose quote depth text).map fun span => span.rest.map change := by
  induction text generalizing quote depth with
  | nil =>
      rfl
  | cons c text inductionHypothesis =>
      have unquoted : ∀ later ∈ (none : Option Char), isQuote later = true := by
        rintro later ⟨⟩
      cases quote with
      | some opened =>
          have isMark := mem_scanMarks_of_isQuote (quotes opened rfl)
          simp only [List.map_cons, scanClose, alike.mark opened isMark, Option.map_map]
          split
          · exact inductionHypothesis unquoted depth
          · exact inductionHypothesis quotes depth
      | none =>
          have opens := alike.mark '(' (by decide) c
          have closes := alike.mark ')' (by decide) c
          simp only [List.map_cons, scanClose, alike.isQuote_change, opens, closes]
          split
          · rename_i isQuoted
            have quotesLater : ∀ later ∈ some c, isQuote later = true := by
              rintro later ⟨⟩
              exact isQuoted
            rw [alike.keeps (mem_scanMarks_of_isQuote isQuoted), Option.map_map, Option.map_map]
            exact inductionHypothesis quotesLater depth
          · split
            · rw [Option.map_map, Option.map_map]
              exact inductionHypothesis unquoted (depth + 1)
            · split
              · cases depth with
                | zero =>
                    rfl
                | succ depth =>
                    rw [Option.map_map, Option.map_map]
                    exact inductionHypothesis unquoted depth
              · rw [Option.map_map, Option.map_map]
                exact inductionHypothesis unquoted depth

theorem breakAt?_map
    {stops : Char → Bool}
    (same : ∀ c, stops (change c) = stops c)
    (text : Text) :
    (Text.breakAt? stops (text.map change)).map (·.2) =
      (Text.breakAt? stops text).map fun found => found.2.map change := by
  induction text with
  | nil =>
      rfl
  | cons c text inductionHypothesis =>
      simp only [List.map_cons, Text.breakAt?, same]
      split
      · rfl
      · rw [Option.map_map, Option.map_map]
        exact inductionHypothesis

/-- Both texts are read to the same place, or neither can be read. -/
def Follows
    (change : Char → Char)
    (changed : Option (α × Text))
    (read : Option (β × Text)) :
    Prop :=
  (changed = none ∧ read = none) ∨
    ∃ changedValue value rest,
      changed = some (changedValue, rest.map change) ∧ read = some (value, rest)

namespace Follows

theorem unread :
    Follows change (none : Option (α × Text)) (none : Option (β × Text)) :=
  Or.inl ⟨rfl, rfl⟩

theorem read
    (changedValue : α)
    (value : β)
    (rest : Text) :
    Follows change (some (changedValue, rest.map change)) (some (value, rest)) :=
  Or.inr ⟨changedValue, value, rest, rfl, rfl⟩

theorem of_rests
    {changed : Option (α × Text)}
    {read : Option (β × Text)}
    (same : changed.map (·.2) = read.map fun found => found.2.map change) :
    Follows change changed read := by
  rcases changed with _ | ⟨changedValue, changedRest⟩
  · rcases read with _ | ⟨value, rest⟩
    · exact unread
    · cases same
  · rcases read with _ | ⟨value, rest⟩
    · cases same
    · obtain rfl : changedRest = rest.map change :=
        Option.some.inj same
      exact Follows.read changedValue value rest

theorem map
    {changed : Option (α × Text)}
    {read : Option (β × Text)}
    (follows : Follows change changed read)
    (makeChanged : α × Text → γ)
    (make : β × Text → δ) :
    Follows change (changed.map fun found => (makeChanged found, found.2))
      (read.map fun found => (make found, found.2)) := by
  rcases follows with ⟨rfl, rfl⟩ | ⟨changedValue, value, rest, rfl, rfl⟩
  · exact unread
  · exact Follows.read _ _ rest

end Follows

theorem readParens?_follows
    (alike : ScansAlike change)
    (text : Text) :
    Follows change (readParens? (text.map change)) (readParens? text) := by
  apply Follows.of_rests
  rcases text with _ | ⟨c, text⟩
  · rfl
  · by_cases opens : c = '('
    · subst opens
      have unquoted : ∀ opened ∈ (none : Option Char), isQuote opened = true := by
        rintro opened ⟨⟩
      rw [List.map_cons, alike.keeps (by decide), readParens?, readParens?, Option.map_map,
        Option.map_map]
      exact alike.scanClose_map unquoted 0 text
    · have opensNot : change c ≠ '(' :=
        mt (alike.mark '(' (by decide) c).mp opens
      simp [readParens?, opens, opensNot]

theorem readQuoted?_follows
    (alike : ScansAlike change)
    (text : Text) :
    Follows change (ItemVector.readQuoted? (text.map change)) (ItemVector.readQuoted? text) := by
  apply Follows.of_rests
  rcases text with _ | ⟨c, text⟩
  · rfl
  · by_cases opens : c = '\''
    · subst opens
      rw [List.map_cons, alike.keeps (by decide)]
      apply breakAt?_map
      intro d
      rw [Bool.eq_iff_iff, beq_iff_eq, beq_iff_eq]
      exact alike.mark '\'' (by decide) d
    · have opensNot : change c ≠ '\'' :=
        mt (alike.mark '\'' (by decide) c).mp opens
      simp [ItemVector.readQuoted?, opens, opensNot]

theorem readFunction?_follows
    (alike : ScansAlike change)
    (text : Text) :
    Follows change (ItemVector.readFunction? (text.map change))
      (ItemVector.readFunction? text) := by
  unfold ItemVector.readFunction?
  rw [alike.takeName_map]
  rcases Text.takeName text with ⟨name, rest⟩
  cases name with
  | nil =>
      exact Follows.unread
  | cons c name =>
      simp only [List.map_cons, alike.skipBlanks_map]
      exact (alike.readParens?_follows rest.skipBlanks).map (fun found => (_, found.1))
        (fun found => (_, found.1))

theorem readTransform?_follows
    (alike : ScansAlike change)
    (text : Text) :
    Follows change (ItemVector.readTransform? (text.map change))
      (ItemVector.readTransform? text) := by
  unfold ItemVector.readTransform?
  rcases alike.readQuoted?_follows text with
    ⟨changedUnread, unread⟩ | ⟨changedBody, body, rest, changedRead, read⟩
  · rw [changedUnread, unread]
    exact (alike.readFunction?_follows text).map
      (fun found => TransformKind.function found.1.1 found.1.2)
      (fun found => TransformKind.function found.1.1 found.1.2)
  · rw [changedRead, read]
    exact Follows.read _ _ rest

theorem map_arrow
    (alike : ScansAlike change)
    (tail : Text) :
    ('-' :: '>' :: tail).map change = '-' :: '>' :: tail.map change := by
  rw [List.map_cons, List.map_cons, alike.keeps (by decide), alike.keeps (by decide)]

theorem readTransforms?_follows_arrow
    (alike : ScansAlike change)
    {size : Nat}
    {tail rest : Text}
    {kind : TransformKind}
    (read : ItemVector.readTransform? (Text.skipBlanks tail) = some (kind, rest))
    (later :
      Follows change (ItemVector.readTransforms? size (rest.skipBlanks.map change))
        (ItemVector.readTransforms? size rest.skipBlanks)) :
    Follows change (ItemVector.readTransforms? size (('-' :: '>' :: tail).map change))
      (ItemVector.readTransforms? size ('-' :: '>' :: tail)) := by
  rw [alike.map_arrow, ItemVector.readTransforms?_arrow,
    ItemVector.readTransforms?_arrow, alike.skipBlanks_map]
  rcases alike.readTransform?_follows (Text.skipBlanks tail) with
    ⟨-, unread⟩ | ⟨changedKind, kind', rest', changedRead, read'⟩
  · rw [read] at unread
    cases unread
  · obtain ⟨rfl, rfl⟩ : kind = kind' ∧ rest = rest' := by
      rw [read] at read'
      cases read'
      exact ⟨rfl, rfl⟩
    rw [read, changedRead]
    simp only [alike.skipBlanks_map]
    exact later.map (fun found => _ :: found.1) (fun found => _ :: found.1)

theorem readTransforms?_follows
    (alike : ScansAlike change)
    (size : Nat)
    (text : Text) :
    Follows change (ItemVector.readTransforms? size (text.map change))
      (ItemVector.readTransforms? size text) := by
  induction text using ItemVector.readTransforms?.induct size with
  | case1 tail unread =>
      rw [alike.map_arrow, ItemVector.readTransforms?_arrow,
        ItemVector.readTransforms?_arrow, alike.skipBlanks_map]
      rcases alike.readTransform?_follows (Text.skipBlanks tail) with
        ⟨changedUnread, -⟩ | ⟨changedKind, kind, rest, -, read⟩
      · rw [changedUnread, unread]
        exact Follows.unread
      · rw [unread] at read
        cases read
  | case2 tail kind rest read unread inductionHypothesis =>
      exact alike.readTransforms?_follows_arrow read inductionHypothesis
  | case3 tail kind rest read later last readLater inductionHypothesis =>
      exact alike.readTransforms?_follows_arrow read inductionHypothesis
  | case4 text noArrow =>
      have noArrowEither : ∀ tail, text.map change ≠ '-' :: '>' :: tail := by
        intro tail shape
        obtain ⟨behindDash, rfl, inTail⟩ := alike.of_map_eq_cons (by decide) shape
        obtain ⟨behindArrow, rfl, -⟩ := alike.of_map_eq_cons (by decide) inTail.symm
        exact noArrow behindArrow rfl
      rw [ItemVector.readTransforms?_of_no_arrow noArrowEither,
        ItemVector.readTransforms?_of_no_arrow noArrow]
      exact Follows.read _ _ text

theorem readSeparator?_follows
    (alike : ScansAlike change)
    (size : Nat)
    (text : Text) :
    Follows change (ItemVector.readSeparator? size (text.map change))
      (ItemVector.readSeparator? size text) := by
  rcases text with _ | ⟨c, text⟩
  · exact Follows.read _ _ []
  · by_cases separates : c = ','
    · subst separates
      rw [List.map_cons, alike.keeps (by decide)]
      simp only [ItemVector.readSeparator?, alike.skipBlanks_map]
      rcases alike.readQuoted?_follows (Text.skipBlanks text) with
        ⟨changedUnread, unread⟩ | ⟨changedBody, body, rest, changedRead, read⟩
      · rw [changedUnread, unread]
        exact Follows.unread
      · rw [changedRead, read]
        simp only [Option.map_some, alike.skipBlanks_map]
        exact Follows.read _ _ rest.skipBlanks
    · have separatesNot : change c ≠ ',' :=
        mt (alike.mark ',' (by decide) c).mp separates
      have nothing : ItemVector.readSeparator? size (c :: text) = some (none, c :: text) := by
        simp [ItemVector.readSeparator?, separates]
      have nothingEither :
          ItemVector.readSeparator? size ((c :: text).map change) =
            some (none, (c :: text).map change) := by
        simp [ItemVector.readSeparator?, separatesNot]
      rw [nothing, nothingEither]
      exact Follows.read _ _ (c :: text)

theorem readParts?_follows
    (alike : ScansAlike change)
    (size : Nat)
    (text : Text) :
    Follows change (ItemVector.readParts? size (text.map change))
      (ItemVector.readParts? size text) := by
  unfold ItemVector.readParts?
  rw [alike.skipBlanks_map, alike.takeName_map]
  rcases Text.takeName (Text.skipBlanks text) with ⟨name, afterName⟩
  cases name with
  | nil =>
      exact Follows.unread
  | cons c name =>
      simp only [List.map_cons, alike.skipBlanks_map]
      rcases alike.readTransforms?_follows size afterName.skipBlanks with
        ⟨changedUnread, unread⟩ | ⟨changedTransforms, transforms, rest, changedRead, read⟩
      · rw [changedUnread, unread]
        exact Follows.unread
      · rw [changedRead, read]
        dsimp only
        rcases alike.readSeparator?_follows size rest with
          ⟨changedUnread, unread⟩ | ⟨changedSeparator, separator, last, changedRead, read⟩
        · rw [changedUnread, unread]
          exact Follows.unread
        · rw [changedRead, read]
          rcases last with _ | ⟨d, last⟩
          · exact Follows.unread
          · by_cases closes : d = ')'
            · subst closes
              rw [List.map_cons, alike.keeps (by decide)]
              exact Follows.read _ _ last
            · have closesNot : change d ≠ ')' :=
                mt (alike.mark ')' (by decide) d).mp closes
              simp [closes, closesNot, Follows.unread]

/-- A vector is read from the changed text only where one is read from the text. -/
theorem read?_eq_none
    (alike : ScansAlike change)
    {text : Text}
    (unread : ItemVector.read? text = none) :
    ItemVector.read? (text.map change) = none := by
  cases changedRead : ItemVector.read? (text.map change) with
  | none =>
      rfl
  | some found =>
      unfold ItemVector.read? at changedRead
      split at changedRead
      · rename_i changedTail shape
        obtain ⟨opened, rfl, inTail⟩ := alike.of_map_eq_cons (by decide) shape
        obtain ⟨tail, rfl, rfl⟩ := alike.of_map_eq_cons (by decide) inTail.symm
        rw [ItemVector.read?, Option.map_eq_none_iff] at unread
        have follows := alike.readParts?_follows (tail.length + 2) tail
        rw [unread] at follows
        rcases follows with ⟨changedUnread, -⟩ | ⟨changedParts, parts, rest, -, read⟩
        · rw [List.length_map, changedUnread] at changedRead
          cases changedRead
        · cases read
      · cases changedRead

end ScansAlike

end RefExpand
