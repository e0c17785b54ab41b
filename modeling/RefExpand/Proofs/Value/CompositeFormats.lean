import RefExpand.Proofs.Number.Decimal
import RefExpand.Proofs.Text.Pieces
import RefExpand.Value.Composite

namespace RefExpand

/-!
# Composite formats substitute

A format is read from the front: characters, doubled braces and items follow each other
in any order, and what they give is put together in their order. So a template of
literals and items gives the literals and the raw texts of the arguments, each padded
to its width. A template is refused for an index beyond the arguments, an item that is
not closed, and a closing brace of its own, wherever in it that stands.
-/

namespace Composite

/-- The width of an item; it is negative where the padding goes behind the text. -/
structure FieldWidth where
  count : Int
  natAbs_le : count.natAbs ≤ 65535

/-- A piece of a template for a number of arguments. -/
inductive Piece (count : Nat) where
  | literal (text : Text)
  | item (index : Fin count) (width : Option FieldWidth)

/-- A literal as it is written in a template. -/
def doubled (text : Text) : Text :=
  text.flatMap fun c => if c = '{' ∨ c = '}' then [c, c] else [c]

/-- What stands between the braces of an item. -/
def itemText
    (index : Nat)
    (width : Option Int)
    (pattern : Option Text) :
    Text :=
  Decimal.ofNat index ++ (width.elim [] fun count => ',' :: Decimal.ofInt count) ++
    pattern.elim [] (':' :: ·)

namespace Piece

variable {count : Nat}

/-- The text of a piece in a template. -/
def written : Piece count → Text
  | .literal text => doubled text
  | .item index width => '{' :: (itemText index (width.map (·.count)) none ++ ['}'])

/-- A text padded with blanks to a width. -/
def padded (width : Option FieldWidth) (text : Text) : Text :=
  match width with
  | none => text
  | some width =>
      if width.count < 0 then text.rightpad width.count.natAbs ' '
      else text.leftpad width.count.natAbs ' '

/-- What a piece gives for the arguments. -/
def filled (arguments : List Value) : Piece arguments.length → Text
  | .literal text => text
  | .item index width => padded width arguments[index].raw

end Piece

/-- A text that ends outside an item: other characters, doubled braces, and closed items. -/
inductive IsWhole : Text → Prop where
  | nil : IsWhole []
  | char {c : Char} {rest : Text} (noOpen : c ≠ '{') (noClose : c ≠ '}')
      (whole : IsWhole rest) : IsWhole (c :: rest)
  | opening {rest : Text} (whole : IsWhole rest) : IsWhole ('{' :: '{' :: rest)
  | closing {rest : Text} (whole : IsWhole rest) : IsWhole ('}' :: '}' :: rest)
  | item {inner rest : Text} (closed : '}' ∉ inner) (opens : inner.head? ≠ some '{')
      (whole : IsWhole rest) : IsWhole ('{' :: (inner ++ '}' :: rest))

/-- What no template for a number of arguments may go on with. -/
inductive Flaw (count : Nat) : Text → Prop where
  | outOfRange {index : Nat} (width : Option Int) {pattern : Option Text} (rest : Text)
      (beyond : count ≤ index) (closed : ∀ text ∈ pattern, '}' ∉ text) :
      Flaw count ('{' :: (itemText index width pattern ++ '}' :: rest))
  | unclosed {inner : Text} (open' : '}' ∉ inner) (opens : inner.head? ≠ some '{') :
      Flaw count ('{' :: inner)
  | loneClosing {rest : Text} (alone : rest.head? ≠ some '}') : Flaw count ('}' :: rest)

/-- Fill what stands between the braces of an item. -/
def fillInner (arguments : List Value) (inner : Text) : Except CallError Text :=
  match readItem? inner with
  | none => .error malformed
  | some item => fillItem arguments item

variable {arguments : List Value}

theorem format_nil :
    format arguments [] = .ok [] := by
  rw [format]

theorem format_char
    {c : Char}
    (noOpen : c ≠ '{')
    (noClose : c ≠ '}')
    (rest : Text) :
    format arguments (c :: rest) = (format arguments rest).map (c :: ·) := by
  rw [format] <;> simp_all

theorem format_opening
    (rest : Text) :
    format arguments ('{' :: '{' :: rest) = (format arguments rest).map ('{' :: ·) := by
  rw [format]

theorem format_closing
    (rest : Text) :
    format arguments ('}' :: '}' :: rest) = (format arguments rest).map ('}' :: ·) := by
  rw [format]

theorem format_loneClosing
    {rest : Text}
    (alone : rest.head? ≠ some '}') :
    format arguments ('}' :: rest) = .error malformed := by
  rw [format]
  rintro later rfl
  exact alone rfl

theorem format_unclosed
    {inner : Text}
    (open' : '}' ∉ inner)
    (opens : inner.head? ≠ some '{') :
    format arguments ('{' :: inner) = .error malformed := by
  have unfound : Text.breakAt? (· == '}') inner = none :=
    Text.breakAt?_of_free (Text.free_of_not_mem open')
  rw [format]
  · split
    · rfl
    · rename_i found
      rw [unfound] at found
      cases found
  · rintro later rfl
    exact opens rfl

theorem format_item
    {inner : Text}
    (closed : '}' ∉ inner)
    (opens : inner.head? ≠ some '{')
    (rest : Text) :
    format arguments ('{' :: (inner ++ '}' :: rest)) =
      (fillInner arguments inner).bind fun filled =>
        (format arguments rest).map (filled ++ ·) := by
  have found : Text.breakAt? (· == '}') (inner ++ '}' :: rest) = some (inner, rest) :=
    Text.breakAt?_append_cons (Text.free_of_not_mem closed) rfl rest
  rw [format]
  · split
    · rename_i unfound
      rw [found] at unfound
      cases unfound
    · rename_i inner' after cut
      rw [found] at cut
      cases cut
      unfold fillInner
      cases readItem? inner with
      | none =>
          rfl
      | some item =>
          cases fillItem arguments item <;> cases format arguments rest <;> rfl
  · intro later shape
    cases inner with
    | nil =>
        cases shape
    | cons c inner =>
        cases shape
        exact opens rfl

/-- What stands behind whole parts is formatted behind what they give. -/
theorem format_append
    {front : Text}
    (whole : IsWhole front)
    (rest : Text) :
    format arguments (front ++ rest) =
      (format arguments front).bind fun filled => (format arguments rest).map (filled ++ ·) := by
  induction whole with
  | nil =>
      rw [format_nil]
      cases later : format arguments rest <;> simp [later, Except.bind, Except.map]
  | @char c front noOpen noClose _ inductionHypothesis =>
      rw [List.cons_append, format_char noOpen noClose, format_char noOpen noClose,
        inductionHypothesis]
      cases format arguments front <;> cases format arguments rest <;> rfl
  | @opening front _ inductionHypothesis =>
      rw [List.cons_append, List.cons_append, format_opening, format_opening, inductionHypothesis]
      cases format arguments front <;> cases format arguments rest <;> rfl
  | @closing front _ inductionHypothesis =>
      rw [List.cons_append, List.cons_append, format_closing, format_closing, inductionHypothesis]
      cases format arguments front <;> cases format arguments rest <;> rfl
  | @item inner front closed opens _ inductionHypothesis =>
      rw [List.cons_append, List.append_assoc, List.cons_append, format_item closed opens,
        format_item closed opens, inductionHypothesis]
      cases fillInner arguments inner <;> cases format arguments front <;>
        cases format arguments rest <;> simp [Except.bind, Except.map]

theorem itemText_eq
    (index : Nat)
    (width : Option Int)
    (pattern : Option Text) :
    itemText index width pattern = itemText index width none ++ pattern.elim [] (':' :: ·) := by
  simp [itemText]

/-- Index and width are written in digits, commas and minus signs. -/
theorem mem_itemText
    {index : Nat}
    {width : Option Int}
    {c : Char}
    (isMember : c ∈ itemText index width none) :
    c.isDigit = true ∨ c = ',' ∨ c = '-' := by
  rw [itemText, Option.elim_none, List.append_nil, List.mem_append] at isMember
  rcases isMember with inIndex | inWidth
  · exact .inl (Decimal.isDigit_of_mem_ofNat inIndex)
  · cases width with
    | none =>
        cases inWidth
    | some count =>
        rcases List.mem_cons.mp inWidth with isComma | inCount
        · exact .inr (.inl isComma)
        · exact (Decimal.mem_ofInt inCount).symm.imp_right .inr

/-- The pattern of an item is what stands behind its first colon. -/
theorem breakAt?_itemText
    (index : Nat)
    (width : Option Int)
    (pattern : Option Text) :
    Text.breakAt? (· == ':') (itemText index width pattern) =
      pattern.map fun pattern => (itemText index width none, pattern) := by
  have noColon : ':' ∉ itemText index width none :=
    fun isMember => absurd (mem_itemText isMember) (by decide)
  have free := Text.free_of_not_mem noColon
  cases pattern with
  | none =>
      exact Text.breakAt?_of_free free
  | some pattern =>
      rw [itemText_eq, Option.elim_some, Text.breakAt?_append_cons free rfl, Option.map_some]

/-- An item is read back, as far as its numbers are in range. -/
theorem readItem?_itemText
    (index : Nat)
    (width : Option Int)
    (pattern : Option Text) :
    readItem? (itemText index width pattern) =
      (width.elim (some none) fun count =>
          (Number.readInteger? (Decimal.ofInt count)).map some).bind fun width =>
        (Decimal.readNat64? (Decimal.ofNat index)).map fun index => { index, width, pattern } := by
  have free := Text.free_of_not_mem (Decimal.not_mem_ofNat (c := ',') rfl index)
  have trimmed : (Decimal.ofNat index).trim = Decimal.ofNat index :=
    Decimal.trim_ofInt index
  rw [readItem?, breakAt?_itemText]
  cases width with
  | none =>
      have alone : itemText index none none = Decimal.ofNat index := by
        simp [itemText]
      have uncut : Text.breakAt? (· == ',') (Decimal.ofNat index) = none :=
        Text.breakAt?_of_free free
      cases pattern
      all_goals
        dsimp only [Option.map_none, Option.map_some]
        rw [alone, uncut, trimmed]
        cases Decimal.readNat64? (Decimal.ofNat index) <;> rfl
  | some count =>
      have shape :
          itemText index (some count) none = Decimal.ofNat index ++ ',' :: Decimal.ofInt count := by
        simp [itemText]
      have cut :
          Text.breakAt? (· == ',') (Decimal.ofNat index ++ ',' :: Decimal.ofInt count) =
            some (Decimal.ofNat index, Decimal.ofInt count) :=
        Text.breakAt?_append_cons free rfl _
      cases pattern
      all_goals
        dsimp only [Option.map_none, Option.map_some]
        rw [shape, cut]
        dsimp only [Option.elim_some]
        rw [trimmed]
        cases Number.readInteger? (Decimal.ofInt count) <;>
          cases Decimal.readNat64? (Decimal.ofNat index) <;> rfl

theorem close_not_mem_itemText
    (index : Nat)
    (width : Option Int)
    {pattern : Option Text}
    (closed : ∀ text ∈ pattern, '}' ∉ text) :
    '}' ∉ itemText index width pattern := by
  rw [itemText_eq, List.mem_append, not_or]
  refine ⟨fun isMember => absurd (mem_itemText isMember) (by decide), ?_⟩
  cases pattern with
  | none =>
      exact List.not_mem_nil
  | some text =>
      rw [Option.elim_some, List.mem_cons, not_or]
      exact ⟨by decide, closed text rfl⟩

theorem head?_itemText
    (index : Nat)
    (width : Option Int)
    (pattern : Option Text) :
    (itemText index width pattern).head? ≠ some '{' := by
  rw [itemText, List.append_assoc]
  intro isOpen
  obtain ⟨inner, shape⟩ := List.head?_eq_some_iff.mp isOpen
  exact Decimal.ofNat_append_ne_cons rfl index _ inner shape

theorem index_of_readItem?
    {index : Nat}
    {width : Option Int}
    {pattern : Option Text}
    {item : FormatItem}
    (read : readItem? (itemText index width pattern) = some item) :
    item.index = index := by
  rw [readItem?_itemText, Decimal.readNat64?_ofNat, Option.bind_eq_some_iff] at read
  obtain ⟨readWidth, -, isItem⟩ := read
  split at isItem
  · cases isItem
    rfl
  · cases isItem

/-- An index beyond the arguments is refused, with any width and pattern. -/
theorem fillInner_of_beyond
    {index : Nat}
    (beyond : arguments.length ≤ index)
    (width : Option Int)
    (pattern : Option Text) :
    ∃ message, fillInner arguments (itemText index width pattern) = .error (.failed message) := by
  unfold fillInner
  cases read : readItem? (itemText index width pattern) with
  | none =>
      exact ⟨_, rfl⟩
  | some item =>
      dsimp only
      rw [fillItem, index_of_readItem? read, List.getElem?_eq_none beyond]
      exact ⟨_, rfl⟩

/-- The width of an item is a number of 64 bits. -/
theorem FieldWidth.toInt_ofInt
    (width : FieldWidth) :
    (Int64.ofInt width.count).toInt = width.count := by
  have bound := width.natAbs_le
  exact Int64.toInt_ofInt_of_le (by omega) (by omega)

theorem FieldWidth.readInteger?_text
    (width : FieldWidth) :
    Number.readInteger? (Decimal.ofInt width.count) = some (Int64.ofInt width.count) := by
  have read := Number.readInteger?_ofInt64 (Int64.ofInt width.count)
  rwa [Decimal.ofInt64, width.toInt_ofInt] at read

theorem FieldWidth.align_eq
    (width : FieldWidth)
    (text : Text) :
    align (Int64.ofInt width.count) text = Piece.padded (some width) text := by
  have negative : Int64.ofInt width.count < 0 ↔ width.count < 0 := by
    rw [Int64.lt_iff_toInt_lt, width.toInt_ofInt]
    rfl
  rw [align, Piece.padded, width.toInt_ofInt]
  simp only [negative]
  rfl

/-- An item gives the text of its argument under its pattern, padded to its width. -/
theorem fillInner_itemText
    (fits : arguments.length ≤ UInt64.size)
    (index : Fin arguments.length)
    (width : Option FieldWidth)
    (pattern : Option Text) :
    fillInner arguments (itemText index (width.map (·.count)) pattern) =
      (formatValue arguments[index] pattern).map (Piece.padded width) := by
  have inRange : index.val < UInt64.size :=
    index.isLt.trans_le fits
  have isArgument : arguments[index.val]? = some arguments[index] :=
    List.getElem?_eq_getElem index.isLt
  rw [fillInner, readItem?_itemText, Decimal.readNat64?_ofNat, if_pos inRange]
  cases width with
  | none =>
      change fillItem arguments { index, width := none, pattern } = _
      rw [fillItem, isArgument]
      dsimp only
      cases formatValue arguments[index] pattern <;> rfl
  | some width =>
      rw [Option.map_some, Option.elim_some, width.readInteger?_text]
      change fillItem arguments { index, width := some (.ofInt width.count), pattern } = _
      rw [fillItem, isArgument]
      dsimp only
      cases formatValue arguments[index] pattern with
      | error cause =>
          rfl
      | ok text =>
          exact congrArg Except.ok (width.align_eq text)

theorem doubled_cons
    (c : Char)
    (text : Text) :
    doubled (c :: text) = (if c = '{' ∨ c = '}' then [c, c] else [c]) ++ doubled text :=
  List.flatMap_cons

/-- A literal is made of characters and doubled braces. -/
theorem isWhole_doubled_append
    (text : Text)
    {rest : Text}
    (whole : IsWhole rest) :
    IsWhole (doubled text ++ rest) := by
  induction text with
  | nil =>
      exact whole
  | cons c text inductionHypothesis =>
      rw [doubled_cons, List.append_assoc]
      by_cases isOpen : c = '{'
      · subst isOpen
        exact .opening inductionHypothesis
      · by_cases isClose : c = '}'
        · subst isClose
          exact .closing inductionHypothesis
        · rw [if_neg (not_or.mpr ⟨isOpen, isClose⟩)]
          exact .char isOpen isClose inductionHypothesis

/-- A literal gives its text, whatever follows. -/
theorem format_doubled
    (text rest : Text) :
    format arguments (doubled text ++ rest) = (format arguments rest).map (text ++ ·) := by
  induction text with
  | nil =>
      change format arguments rest = _
      cases format arguments rest <;> rfl
  | cons c text inductionHypothesis =>
      have first :
          format arguments (doubled (c :: text) ++ rest) =
            (format arguments (doubled text ++ rest)).map (c :: ·) := by
        rw [doubled_cons, List.append_assoc]
        by_cases isOpen : c = '{'
        · subst isOpen
          exact format_opening _
        · by_cases isClose : c = '}'
          · subst isClose
            exact format_closing _
          · rw [if_neg (not_or.mpr ⟨isOpen, isClose⟩)]
            exact format_char isOpen isClose _
      rw [first, inductionHypothesis]
      cases format arguments rest <;> rfl

theorem Piece.isWhole_append
    {count : Nat}
    (piece : Piece count)
    {rest : Text}
    (whole : IsWhole rest) :
    IsWhole (piece.written ++ rest) := by
  cases piece with
  | literal text =>
      exact isWhole_doubled_append text whole
  | item index width =>
      rw [written, List.cons_append, List.append_assoc]
      exact .item (close_not_mem_itemText index _ nofun) (head?_itemText index _ none) whole

theorem isWhole_pieces
    {count : Nat}
    (pieces : List (Piece count)) :
    IsWhole (pieces.flatMap Piece.written) := by
  induction pieces with
  | nil =>
      exact .nil
  | cons piece pieces inductionHypothesis =>
      rw [List.flatMap_cons]
      exact piece.isWhole_append inductionHypothesis

/-- Every piece gives what it stands for, whatever follows. -/
theorem format_piece
    (fits : arguments.length ≤ UInt64.size)
    (piece : Piece arguments.length)
    (rest : Text) :
    format arguments (piece.written ++ rest) =
      (format arguments rest).map (piece.filled arguments ++ ·) := by
  cases piece with
  | literal text =>
      exact format_doubled text rest
  | item index width =>
      have closed : '}' ∉ itemText index (width.map (·.count)) none :=
        close_not_mem_itemText _ _ nofun
      have opens := head?_itemText index (width.map (·.count)) none
      rw [Piece.written, List.cons_append, List.append_assoc, List.singleton_append,
        format_item closed opens, fillInner_itemText fits]
      rfl

/-- The pieces of a template give what they stand for, in their order. -/
theorem format_pieces
    (fits : arguments.length ≤ UInt64.size)
    (pieces : List (Piece arguments.length)) :
    format arguments (pieces.flatMap Piece.written) =
      .ok (pieces.flatMap (Piece.filled arguments)) := by
  induction pieces with
  | nil =>
      exact format_nil
  | cons piece pieces inductionHypothesis =>
      rw [List.flatMap_cons, List.flatMap_cons, format_piece fits, inductionHypothesis]
      rfl

/-- A flaw is refused with a message. -/
theorem Flaw.format_eq
    {flaw : Text}
    (isFlaw : Flaw arguments.length flaw) :
    ∃ message, format arguments flaw = .error (.failed message) := by
  cases isFlaw with
  | outOfRange width rest beyond closed =>
      rename_i index pattern
      obtain ⟨message, refused⟩ := fillInner_of_beyond beyond width pattern
      rw [format_item (close_not_mem_itemText index width closed) (head?_itemText _ _ _), refused]
      exact ⟨message, rfl⟩
  | unclosed open' opens =>
      exact ⟨_, format_unclosed open' opens⟩
  | loneClosing alone =>
      exact ⟨_, format_loneClosing alone⟩

/--
A template of literals and items gives the literals and the raw texts of the arguments,
padded to their widths. Behind it an index beyond the arguments, an item that is not
closed and a closing brace of its own are refused with a message; behind other whole
parts they are refused too, if none of the parts is refused before.
-/
theorem format_substitutes_exactly
    (fits : arguments.length ≤ UInt64.size) :
    (∀ pieces : List (Piece arguments.length),
        format arguments (pieces.flatMap Piece.written) =
            .ok (pieces.flatMap (Piece.filled arguments)) ∧
          ∀ flaw, Flaw arguments.length flaw →
            ∃ message,
              format arguments (pieces.flatMap Piece.written ++ flaw) = .error (.failed message)) ∧
      ∀ front flaw, IsWhole front → Flaw arguments.length flaw →
        ∃ cause, format arguments (front ++ flaw) = .error cause := by
  refine ⟨fun pieces => ⟨format_pieces fits pieces, fun flaw isFlaw => ?_⟩, ?_⟩
  · obtain ⟨message, refused⟩ := isFlaw.format_eq
    refine ⟨message, ?_⟩
    rw [format_append (isWhole_pieces pieces), format_pieces fits, refused]
    rfl
  · intro front flaw whole isFlaw
    obtain ⟨message, refused⟩ := isFlaw.format_eq
    rw [format_append whole, refused]
    cases format arguments front with
    | error cause =>
        exact ⟨cause, rfl⟩
    | ok filled =>
        exact ⟨.failed message, rfl⟩

/-- Braces of literals stand next to those of items, and a brace too many is refused. -/
theorem format_substitutes_exactly_between_braces :
    let arguments : List Value := [.str "s", .int (-5)]
    arguments.length ≤ UInt64.size ∧
      format arguments "\x7b\x7b\x7b1,4\x7d\x7d\x7d\x7b0,-3\x7d" = .ok "\x7b  -5\x7ds  " ∧
      ∃ message,
        format arguments "\x7b\x7b\x7b1,4\x7d\x7d\x7d\x7b0,-3\x7d\x7d" =
          .error (.failed message) := by
  intro arguments
  have fits : arguments.length ≤ UInt64.size := by
    decide
  let pieces : List (Piece arguments.length) :=
    [.literal ['{'], .item 1 (some ⟨4, by decide⟩), .literal ['}'],
      .item 0 (some ⟨-3, by decide⟩)]
  have written :
      pieces.flatMap Piece.written = "\x7b\x7b\x7b1,4\x7d\x7d\x7d\x7b0,-3\x7d".toList := by
    decide +kernel
  have given : pieces.flatMap (Piece.filled arguments) = "\x7b  -5\x7ds  ".toList := by
    decide +kernel
  obtain ⟨filled, refused⟩ := (format_substitutes_exactly fits).1 pieces
  rw [written, given] at filled
  rw [written] at refused
  exact ⟨fits, filled, refused ['}'] (.loneClosing (by decide))⟩

end Composite

end RefExpand
