import Mathlib.Data.List.Induction
import RefExpand.Library.Standard
import RefExpand.Proofs.Call.CacheHistory

namespace RefExpand

/-!
# Answers that are shared

Callers with probes of their own share one cache, and what a probe answered is
remembered under the name alone, in whatever case it was asked for. So a caller that
probes is given the first answer since the cache was last emptied, be it its own or
not, and one that does not probe is given what the catalog lists.
-/

namespace CacheCall

/-- The call empties the cache. -/
def isClear : CacheCall → Bool
  | .resolve _ _ => false
  | .clear => true

/-- What the probe of a call answers, if the call asks for this name in any case. -/
def answer?
    (catalog : Catalog)
    (name : Text) :
    CacheCall → Option TypeEntry
  | .resolve (some probe) asked => if Text.sameName asked name then probe catalog asked else none
  | .resolve none _ => none
  | .clear => none

/-- The calls behind the last one that empties the cache. -/
def sinceClear
    (calls : List CacheCall) :
    List CacheCall :=
  (calls.reverse.takeWhile fun call => !call.isClear).reverse

/-- The first answer of a probe to a name since the cache was last emptied. -/
def firstAnswer?
    (catalog : Catalog)
    (calls : List CacheCall)
    (name : Text) :
    Option TypeEntry :=
  (sinceClear calls).findSome? (answer? catalog name)

/-- One more call empties the cache, or it may give the first answer. -/
theorem firstAnswer?_concat
    (catalog : Catalog)
    (calls : List CacheCall)
    (call : CacheCall)
    (name : Text) :
    firstAnswer? catalog (calls ++ [call]) name =
      if call.isClear then none
      else (firstAnswer? catalog calls name).or (call.answer? catalog name) := by
  by_cases clears : call.isClear = true
  · simp [firstAnswer?, sinceClear, clears]
  · rw [Bool.not_eq_true] at clears
    have later : sinceClear (calls ++ [call]) = sinceClear calls ++ [call] := by
      simp [sinceClear, clears]
    rw [firstAnswer?, later, List.findSome?_append, clears]
    cases answered : call.answer? catalog name <;>
      simp [firstAnswer?, answered]

end CacheCall

namespace TypeCache

theorem history_concat
    (catalog : Catalog)
    (calls : List CacheCall)
    (call : CacheCall) :
    history catalog (calls ++ [call]) = (history catalog calls).serve catalog call := by
  simp [history]

variable {catalog : Catalog} {cache : TypeCache} {name : Text}

/-- A name that the catalog does not list is not remembered as a listed one. -/
theorem Faithful.listed_eq_none
    (faithful : cache.Faithful catalog)
    (unlisted : catalog.type? name = none) :
    cache.listed.lookup name.lowerAscii = none := by
  cases known : cache.listed.lookup name.lowerAscii with
  | none =>
      rfl
  | some entry =>
      obtain ⟨other, sameForm, isListed⟩ := faithful _ _ known
      rw [type?_congr catalog sameForm, unlisted] at isListed
      cases isListed

/-- Such a name is looked for by callers that probe, and among the earlier answers first. -/
theorem Faithful.resolve_unlisted
    (faithful : cache.Faithful catalog)
    (unlisted : catalog.type? name = none)
    (probe : Option TypeProbe) :
    cache.resolve catalog probe name =
      match probe with
      | none => (none, cache)
      | some ask => cache.resolveProbed ask name := by
  unfold TypeCache.resolve
  rw [faithful.listed_eq_none unlisted, unlisted]
  cases probe <;> rfl

theorem resolveProbed_eq_or
    (cache : TypeCache)
    (ask : TypeProbe)
    (name : Text) :
    (cache.resolveProbed ask name).1 = (cache.probed.lookup name.lowerAscii).or (ask name) := by
  unfold resolveProbed
  cases cache.probed.lookup name.lowerAscii with
  | some known =>
      rfl
  | none =>
      cases ask name <;> rfl

/-- A listed type leaves the answers of the probes alone. -/
theorem resolve_probed_of_listed
    {entry : TypeEntry}
    (isListed : catalog.type? name = some entry)
    (cache : TypeCache)
    (probe : Option TypeProbe) :
    (cache.resolve catalog probe name).2.probed = cache.probed := by
  unfold resolve
  cases cache.listed.lookup name.lowerAscii with
  | some known =>
      rfl
  | none =>
      rw [isListed]

/-- A probe that is asked for a name adds its answer, unless there is one already. -/
theorem lookup_resolveProbed
    (cache : TypeCache)
    (ask : TypeProbe)
    (asked name : Text) :
    (cache.resolveProbed ask asked).2.probed.lookup name.lowerAscii =
      (cache.probed.lookup name.lowerAscii).or
        (if Text.sameName asked name then ask asked else none) := by
  by_cases same : Text.sameName asked name = true
  · have sameForm : asked.lowerAscii = name.lowerAscii :=
      Text.sameName_iff.mp same
    rw [if_pos same, resolveProbed, sameForm]
    cases known : cache.probed.lookup name.lowerAscii with
    | some remembered =>
        simp [known]
    | none =>
        cases answered : ask asked <;> simp [known]
  · rw [if_neg same, Option.or_none, resolveProbed]
    have otherForm : (name.lowerAscii == asked.lowerAscii) = false := by
      rw [beq_eq_false_iff_ne]
      intro sameForm
      exact same (Text.sameName_iff.mpr sameForm.symm)
    cases cache.probed.lookup asked.lowerAscii with
    | some remembered =>
        rfl
    | none =>
        cases ask asked with
        | none =>
            rfl
        | some answer =>
            simp [List.lookup_cons, otherForm]

/-- What one call does to the answer that is remembered for a name that is not listed. -/
theorem Faithful.lookup_serve
    (faithful : cache.Faithful catalog)
    (unlisted : catalog.type? name = none)
    (call : CacheCall) :
    (cache.serve catalog call).probed.lookup name.lowerAscii =
      if call.isClear then none
      else (cache.probed.lookup name.lowerAscii).or (call.answer? catalog name) := by
  cases call with
  | clear =>
      rfl
  | resolve probe asked =>
      change (cache.resolve catalog _ asked).2.probed.lookup _ = Option.or _ _
      cases askedListed : catalog.type? asked with
      | some entry =>
          -- The catalog finds a name in every case, so another name was asked for.
          have other : Text.sameName asked name = false := by
            rw [← Bool.not_eq_true]
            intro same
            rw [type?_congr catalog (Text.sameName_iff.mp same), unlisted] at askedListed
            cases askedListed
          rw [resolve_probed_of_listed askedListed]
          cases probe <;> simp [CacheCall.answer?, other]
      | none =>
          rw [faithful.resolve_unlisted askedListed]
          cases probe with
          | none =>
              simp [CacheCall.answer?]
          | some ask =>
              exact cache.lookup_resolveProbed (ask catalog) asked name

/-- A history leaves the first answer to each name that is not listed. -/
theorem lookup_history
    (unlisted : catalog.type? name = none)
    (calls : List CacheCall) :
    (history catalog calls).probed.lookup name.lowerAscii =
      CacheCall.firstAnswer? catalog calls name := by
  induction calls using List.reverseRecOn with
  | nil =>
      rfl
  | append_singleton calls call inductionHypothesis =>
      have faithful := Faithful.history catalog calls
      rw [history_concat, faithful.lookup_serve unlisted, inductionHypothesis,
        CacheCall.firstAnswer?_concat]

/-- What a caller is given behind a history: the listed type, else the first answer or its own. -/
theorem resolve_history
    (catalog : Catalog)
    (calls : List CacheCall)
    (probe : Option TypeProbe)
    (name : Text) :
    ((history catalog calls).resolve catalog probe name).1 =
      (catalog.type? name).or
        (probe.bind fun ask => (CacheCall.firstAnswer? catalog calls name).or (ask name)) := by
  have faithful := Faithful.history catalog calls
  cases listed : catalog.type? name with
  | some entry =>
      exact faithful.resolve_eq listed probe
  | none =>
      rw [faithful.resolve_unlisted listed]
      cases probe with
      | none =>
          rfl
      | some ask =>
          dsimp only
          rw [resolveProbed_eq_or, lookup_history listed]
          rfl

/--
Through a shared cache a name stands for the type that the catalog lists; else, for a
caller that probes, for the first answer that any caller was given since the cache was
emptied, and for its own if there was none. That is what an empty cache would give it
exactly if its own probe answers the same.
-/
theorem resolve_after_history
    (catalog : Catalog)
    (earlier : List CacheCall)
    (probe : Option TypeProbe)
    (name : Text) :
    let answered := CacheCall.firstAnswer? catalog earlier name
    let found := ((history catalog earlier).resolve catalog probe name).1
    found = (catalog.type? name).or (probe.bind fun ask => answered.or (ask name)) ∧
      (found = (({} : TypeCache).resolve catalog probe name).1 ↔
        (catalog.type? name = none →
          ∀ ask ∈ probe, ∀ entry ∈ answered, ask name = some entry)) := by
  intro answered found
  have foundHere : found = _ :=
    resolve_history catalog earlier probe name
  have foundAfresh : (({} : TypeCache).resolve catalog probe name).1 = _ :=
    resolve_history catalog [] probe name
  refine ⟨foundHere, ?_⟩
  rw [foundHere, foundAfresh]
  cases catalog.type? name with
  | some entry =>
      simp
  | none =>
      cases probe with
      | none =>
          simp
      | some ask =>
          cases given : CacheCall.firstAnswer? catalog earlier name with
          | none =>
              simp [answered, given, CacheCall.firstAnswer?, CacheCall.sinceClear]
          | some entry =>
              simp [answered, given, CacheCall.firstAnswer?, CacheCall.sinceClear, eq_comm]

/--
A probe that knows `Foo` in this case only. A later caller is served its answer, the
same probe in another case as well as a probe that knows nothing.
-/
theorem answers_are_not_always_own :
    let exact : TypeProbe := fun name =>
      if name = "Foo".toList then Catalog.standard.type? "System.IO.Path" else none
    let silent : TypeProbe := fun _ => none
    let cache := history .standard [.resolve (some fun _ => exact) "Foo"]
    (cache.resolve .standard (some exact) "foo").1 ≠
        (({} : TypeCache).resolve .standard (some exact) "foo").1 ∧
      (cache.resolve .standard (some silent) "Foo").1 ≠
        (({} : TypeCache).resolve .standard (some silent) "Foo").1 := by
  intro exact silent cache
  have differs :
      ∀ {left right : Option TypeEntry},
        left.isSome = true → right.isSome = false → left ≠ right := by
    rintro left right leftSome rightNone rfl
    rw [leftSome] at rightNone
    cases rightNone
  constructor
  · apply differs
    · decide +kernel
    · decide +kernel
  · apply differs
    · decide +kernel
    · decide +kernel

end TypeCache

end RefExpand
