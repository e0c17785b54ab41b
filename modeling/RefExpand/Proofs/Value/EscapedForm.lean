import RefExpand.Proofs.Text.Escaping
import RefExpand.Value.Basic

namespace RefExpand

/-!
# The escaped form of values

A value that is no text is written out escaped, part by part. Reading it back
gives the raw text of the value: each part is read as it was written, whatever
part comes behind it. Of a sequence the parts are its items, and the escaped
form is a list that is cut between two items and nowhere else.
-/

namespace Text

/-- Read in front of anything, the written text gives the plain one. -/
def ReadsBack
    (written plain : Text) :
    Prop :=
  ∀ rest, unescape (written ++ rest) = plain ++ unescape rest

namespace ReadsBack

theorem unescape_eq
    {written plain : Text}
    (readsBack : ReadsBack written plain) :
    unescape written = plain := by
  simpa [unescape] using readsBack []

theorem ofEscape
    (text : Text) :
    ReadsBack (escape text) text :=
  unescape_escape_append text

theorem nil :
    ReadsBack [] [] :=
  fun _ => rfl

theorem singleton
    {c : Char}
    (other : c ≠ '%') :
    ReadsBack [c] [c] :=
  fun rest => unescape_cons_of_ne other rest

theorem append
    {first firstPlain second secondPlain : Text}
    (firstReads : ReadsBack first firstPlain)
    (secondReads : ReadsBack second secondPlain) :
    ReadsBack (first ++ second) (firstPlain ++ secondPlain) := by
  intro rest
  rw [List.append_assoc, firstReads, secondReads, List.append_assoc]

/-- Parts that read back do so together, if what separates them does. -/
theorem join
    {written plain : α → Text}
    {separator : Text}
    (separatorReads : ReadsBack separator separator)
    {parts : List α}
    (each : ∀ part ∈ parts, ReadsBack (written part) (plain part)) :
    ReadsBack (Text.join separator (parts.map written))
      (Text.join separator (parts.map plain)) := by
  induction parts with
  | nil =>
      exact nil
  | cons first rest inductionHypothesis =>
      have firstReads := each first List.mem_cons_self
      have later :=
        inductionHypothesis fun part isPart => each part (List.mem_cons_of_mem _ isPart)
      cases rest with
      | nil =>
          simpa [Text.join] using firstReads
      | cons second rest =>
          simp only [List.map_cons, join_cons_cons] at later ⊢
          exact (firstReads.append separatorReads).append later

end ReadsBack

/-- Escaped texts in a list are its pieces: trimmed, and without the blank ones. -/
theorem splitList_join_escape
    (texts : List Text) :
    splitList (Text.join [';'] (texts.map escape)) =
      ((texts.map trim).filter (!·.isEmpty)).map escape := by
  have free {c : Char} (reserved : isReserved c = true) (other : c ≠ '%') :
      ∀ text : Text, c ∉ escape text :=
    not_mem_escape reserved other
  have noVector : ∀ list ∈ texts.map escape, '@' ∉ list := by
    intro list isMember
    obtain ⟨text, -, rfl⟩ := List.mem_map.mp isMember
    exact free (by decide) (by decide) text
  rw [splitList_join noVector]
  clear noVector
  induction texts with
  | nil =>
      rfl
  | cons text rest inductionHypothesis =>
      have here : splitList (escape text) = [escape (trim text)].filter (!·.isEmpty) := by
        rw [splitList_of_not_mem (free (by decide) (by decide) text)
          (free (by decide) (by decide) text), escape_trim]
      rw [List.map_cons, List.flatMap_cons, here, inductionHypothesis, List.map_cons]
      by_cases blank : trim text = []
      · simp [blank]
      · simp [blank, escape_ne_nil blank]

end Text

namespace Value

theorem rawItems_eq_map
    (items : List Value) :
    rawItems items = items.map raw := by
  induction items with
  | nil =>
      rfl
  | cons item rest inductionHypothesis =>
      rw [rawItems, inductionHypothesis, List.map_cons]

theorem rawEntries_eq_map
    (entries : List (Value × Value)) :
    rawEntries entries = entries.map fun (key, value) => key.raw ++ '=' :: value.raw := by
  induction entries with
  | nil =>
      rfl
  | cons entry rest inductionHypothesis =>
      obtain ⟨key, value⟩ := entry
      rw [rawEntries, inductionHypothesis, List.map_cons]

/-- The escaped form of a value that is no text gives its raw text, whatever stands behind it. -/
theorem readsBack_escaped
    {value : Value}
    (noText : value.text? = none) :
    Text.ReadsBack value.escaped value.raw := by
  have semicolon : Text.ReadsBack [';'] [';'] :=
    .singleton (by decide)
  cases value with
  | null =>
      exact .nil
  | str text =>
      cases noText
  | seq items =>
      rw [escaped, raw, rawItems_eq_map, List.map_map]
      exact .join semicolon fun item _ => .ofEscape (raw item)
  | table entries =>
      rw [escaped, raw, rawEntries_eq_map]
      refine .join semicolon fun (key, value) _ => ?_
      have equals : Text.ReadsBack ['='] ['='] :=
        .singleton (by decide)
      exact (Text.ReadsBack.ofEscape key.raw).append (equals.append (.ofEscape value.raw))
  | char _ | bool _ | int _ | float _ | version _ | dateTime _ =>
      exact .ofEscape _

/--
A value that is no text is read back as its raw text. The list of a sequence is
cut into the raw texts of its items, trimmed and without the blank ones.
-/
theorem escaped_form_keeps_values :
    (∀ value : Value, value.text? = none → value.escaped.unescape = value.raw) ∧
      ∀ items : List Value,
        (seq items).escaped.splitList.map Text.unescape =
          (items.map fun item => item.raw.trim).filter (!·.isEmpty) := by
  refine ⟨fun value noText => (readsBack_escaped noText).unescape_eq, fun items => ?_⟩
  rw [escaped, Text.splitList_join_escape, rawItems_eq_map, List.map_map, List.map_map]
  have readBack : Text.unescape ∘ Text.escape = id :=
    funext Text.unescape_escape
  rw [readBack, List.map_id]
  rfl

/-- A sequence of a list, a table with a vector in it, blanks, nothing, and a written escape. -/
theorem escaped_form_keeps_values_of_nested_sequence :
    let inner : List Value := [.str "a;b", .null, .char '\'']
    let items : List Value :=
      [.seq inner, .table [(.str "@(A", .str "';')")], .str "  ", .null, .str " %3B "]
    (seq items).text? = none ∧
      (seq items).escaped.unescape = "a;b;;';@(A=';');  ;; %3B ".toList ∧
      (seq items).escaped.splitList.map Text.unescape =
        ["a;b;;'".toList, "@(A=';')".toList, "%3B".toList] := by
  intro inner items
  have noText : (seq items).text? = none :=
    rfl
  exact
    ⟨noText, (escaped_form_keeps_values.1 (seq items) noText).trans (by decide),
      (escaped_form_keeps_values.2 items).trans (by decide)⟩

end Value

end RefExpand
