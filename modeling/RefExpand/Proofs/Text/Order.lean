import RefExpand.Proofs.Text.Wildcards
import RefExpand.Text.Order

namespace RefExpand

/-!
# Order and search in texts

The order by code points is the lexicographic order of lists over the order of
numbers, so it is transitive, turns around with its arguments, and calls only equal
texts equal.

The search from the front stops at the first place of a part and the search from the
back at the last one: what is found is a place of the part, and no place of the part
lies before the first or behind the last.
-/

namespace Text

theorem order_eq_compareLex :
    order = List.compareLex (compareOn Char.toNat) := by
  funext left right
  induction left generalizing right with
  | nil =>
      cases right with
      | nil =>
          rfl
      | cons c rest =>
          rw [order, List.compareLex_nil_cons]
  | cons c rest inductionHypothesis =>
      cases right with
      | nil =>
          rw [order, List.compareLex_cons_nil]
      | cons d others =>
          rw [order, List.compareLex_cons_cons, inductionHypothesis]
          rfl

instance : Std.LawfulEqCmp (compareOn Char.toNat) where
  compare_self := Std.ReflOrd.compare_self
  eq_of_compare same := Char.toNat_inj.mp (Std.LawfulEqOrd.eq_of_compare same)

instance : Std.TransCmp order := by
  rw [order_eq_compareLex]
  infer_instance

instance : Std.LawfulEqCmp order := by
  rw [order_eq_compareLex]
  infer_instance

theorem ne_of_order_eq_lt
    {left right : Text}
    (before : order left right = .lt) :
    left ≠ right := by
  rintro rfl
  have same : order left left = .eq :=
    Std.ReflCmp.compare_self
  rw [same] at before
  cases before

variable {needle text : Text} {place : Nat}

theorem startsWith_iff
    {beginning : Text} :
    startsWith beginning text = true ↔ beginning <+: text := by
  rw [startsWith, isSome_dropBeginning?, List.isPrefixOf_iff_prefix]

/-- A part that stands in a text is found where it stands or before. -/
theorem exists_breakOn?
    (front needle back : Text) :
    ∃ before after,
      breakOn? needle (front ++ needle ++ back) = some (before, after) ∧
        before.length ≤ front.length := by
  induction front with
  | nil =>
      refine ⟨[], back, ?_, Nat.le_refl 0⟩
      have begins : startsWith needle (needle ++ back) = true :=
        startsWith_iff.mpr (List.prefix_append needle back)
      obtain ⟨after, found⟩ := Option.isSome_iff_exists.mp begins
      obtain rfl := List.append_cancel_left (dropBeginning?_eq_append found)
      rw [List.nil_append]
      cases text : needle ++ back with
      | nil =>
          obtain ⟨rfl, rfl⟩ := List.append_eq_nil_iff.mp text
          rfl
      | cons c rest =>
          rw [breakOn?, ← text, found]
  | cons c front inductionHypothesis =>
      obtain ⟨before, after, found, within⟩ := inductionHypothesis
      rw [List.cons_append, List.cons_append, breakOn?]
      cases dropBeginning? needle (c :: (front ++ needle ++ back)) with
      | some rest =>
          exact ⟨[], rest, rfl, Nat.zero_le _⟩
      | none =>
          rw [found]
          exact ⟨c :: before, after, rfl, Nat.succ_le_succ within⟩

/-- The search from the front finds a place, not behind the place that is known. -/
theorem exists_indexFrom?
    (front needle back : Text) :
    ∃ place,
      indexFrom? needle (front ++ needle ++ back) 0 = some place ∧ place ≤ front.length := by
  obtain ⟨before, after, found, within⟩ := exists_breakOn? front needle back
  refine ⟨before.length, ?_, within⟩
  rw [indexFrom?, if_pos (Nat.zero_le _), List.drop_zero, found]
  simp

/-- The search from the back finds a place, not before the place that is known. -/
theorem exists_lastIndex?
    (front needle back : Text) :
    ∃ place,
      lastIndex? needle (front ++ needle ++ back) = some place ∧ front.length ≤ place := by
  obtain ⟨after, before, found, within⟩ :=
    exists_breakOn? back.reverse needle.reverse front.reverse
  refine ⟨before.length, ?_, ?_⟩
  · rw [lastIndex?, List.reverse_append, List.reverse_append, ← List.append_assoc, found]
    rfl
  · have sizes := length_of_breakOn? found
    simp only [List.length_append, List.length_reverse] at sizes within
    omega

/-- What the search from the front finds is a place of the part. -/
theorem exists_of_indexFrom?
    (found : indexFrom? needle text 0 = some place) :
    ∃ before after, text = before ++ needle ++ after ∧ before.length = place := by
  rw [indexFrom?, if_pos (Nat.zero_le _), List.drop_zero, Option.map_eq_some_iff] at found
  obtain ⟨⟨before, after⟩, cut, isPlace⟩ := found
  exact ⟨before, after, breakOn?_eq_append cut, by simpa using isPlace⟩

/-- What the search from the back finds is a place of the part. -/
theorem exists_of_lastIndex?
    (found : lastIndex? needle text = some place) :
    ∃ before after, text = before ++ needle ++ after ∧ before.length = place := by
  rw [lastIndex?, Option.map_eq_some_iff] at found
  obtain ⟨⟨after, before⟩, cut, isPlace⟩ := found
  refine ⟨before.reverse, after.reverse, ?_, by simpa using isPlace⟩
  have turned := congrArg List.reverse (breakOn?_eq_append cut)
  simpa using turned

end Text

end RefExpand
