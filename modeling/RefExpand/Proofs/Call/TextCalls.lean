import RefExpand.Library.Standard
import RefExpand.Proofs.Call.Binding
import RefExpand.Proofs.Expand.PerPair
import RefExpand.Proofs.Text.Escaping

namespace RefExpand

/-!
# Calls on texts, wherever they run

No member of a text looks at the machine, the file or the calls before it. So a call on
a text that succeeds gives the same result wherever it is written, and a text that it
gives is in escaped form.
-/

/-- The body gives the same result wherever it runs. -/
def Body.IgnoresSurroundings
    (body : Body) :
    Prop :=
  ∀ receiver arguments here there,
    body { receiver, arguments, surroundings := here } =
      body { receiver, arguments, surroundings := there }

/-- No overload of the member looks at its surroundings. -/
def Member.IgnoresSurroundings
    (member : Member) :
    Prop :=
  ∀ overload ∈ member.overloads, overload.body.IgnoresSurroundings

variable {here there : Surroundings}

namespace Overload

theorem run_elsewhere
    {overload : Overload}
    (ignores : overload.body.IgnoresSurroundings)
    (receiver : Option Value)
    (arguments : List Value) :
    overload.run receiver here arguments = overload.run receiver there arguments := by
  rw [run, run, ignores receiver arguments here there]

theorem agree_elsewhere
    {candidates : List Overload}
    (ignore : ∀ overload ∈ candidates, overload.body.IgnoresSurroundings)
    (receiver : Option Value)
    (operands : List Operand)
    (agreed : Option Value) :
    agree receiver here operands agreed candidates =
      agree receiver there operands agreed candidates := by
  induction candidates generalizing agreed with
  | nil =>
      cases agreed <;> rfl
  | cons overload rest inductionHypothesis =>
      have later :=
        inductionHypothesis fun other isMember => ignore other (List.mem_cons_of_mem _ isMember)
      have first :
          ∀ arguments,
            overload.run receiver here arguments = overload.run receiver there arguments :=
        run_elsewhere (ignore overload List.mem_cons_self) receiver
      cases agreed <;> simp only [agree, first, later]

end Overload

/-- Whichever overload is bound, it is bound everywhere and gives the same there. -/
theorem Member.bind_elsewhere
    {member : Member}
    (ignores : member.IgnoresSurroundings)
    (receiver : Option Value)
    (operands : List Operand)
    (byRank : Bool) :
    member.bind receiver here operands byRank = member.bind receiver there operands byRank := by
  have ignore :
      ∀ overload ∈ member.candidates operands.length byRank,
        overload.body.IgnoresSurroundings := by
    intro overload isCandidate
    exact ignores overload (mem_candidates.mp isCandidate).1
  unfold Member.bind
  dsimp only
  split
  · rfl
  · split
    · exact Overload.agree_elsewhere ignore receiver operands none
    · rename_i noOut
      rw [Bool.not_eq_true] at noOut
      split
      · rename_i overload arguments chosen
        have arity :
            ∀ candidate ∈ member.candidates operands.length byRank,
              candidate.arity = operands.length := by
          intro candidate isCandidate
          exact (mem_candidates.mp isCandidate).2
        have isCandidate := (Overload.suits_of_choose? arity noOut chosen).1
        exact Overload.run_elsewhere (ignore overload isCandidate) receiver arguments
      · rfl

/-- No member of a text looks at its surroundings. -/
theorem TextMembers.ignore_surroundings :
    ∀ member ∈ members, member.IgnoresSurroundings := by
  unfold members
  simp only [textAndComparison, typeMember, Member.single, Member.shared, List.map,
    Member.IgnoresSurroundings, List.forall_mem_cons, List.not_mem_nil, false_implies,
    implies_true, and_true]
  and_intros <;> exact fun _ _ _ _ => rfl

/-- No common call on a text looks at its surroundings. -/
theorem Catalog.textCalls_ignore_surroundings :
    ∀ call ∈ textCalls, call.body.IgnoresSurroundings := by
  unfold textCalls
  simp only [direct, List.forall_mem_cons, List.not_mem_nil, false_implies, implies_true,
    and_true]
  and_intros <;> exact fun _ _ _ _ => rfl

namespace Resolver

variable {resolver : Resolver} {context : Text} {result : Value}

/-- A member of a text that gives a result gives it everywhere. -/
theorem callOnPlain_elsewhere
    (standard : resolver.catalog = .standard)
    {text name : Text}
    {operands : List Operand}
    (called : resolver.callOnPlain (.str text) name operands here context = .ok result)
    (there : Surroundings)
    (context' : Text) :
    resolver.callOnPlain (.str text) name operands there context' = .ok result := by
  unfold callOnPlain at called ⊢
  split at called
  · rename_i call arguments isDirect
    have isListed : call ∈ Catalog.textCalls := by
      simp only [directCallsOnValue, standard] at isDirect
      obtain ⟨first, found, rest⟩ := Option.bind_eq_some_iff.mp isDirect
      obtain ⟨values, -, same⟩ := Option.bind_eq_some_iff.mp rest
      cases same
      exact List.mem_of_find?_eq_some found
    have ignores := Catalog.textCalls_ignore_surroundings call isListed
    rw [ignores _ _ there here, eq_ok_of_mapError called]
    rfl
  · unfold callMember at called ⊢
    split at called
    · cases called
    · rename_i member found
      have isListed : member ∈ TextMembers.members := by
        rw [standard] at found
        exact List.mem_of_find?_eq_some found
      have ignores := TextMembers.ignore_surroundings member isListed
      have bound : member.bind _ there _ _ = .ok result :=
        (Member.bind_elsewhere ignores _ _ _).trans (eq_ok_of_mapError called)
      simp only [bound]
      rfl

/-- A call on a text that gives a result calls the member of the plain text, if that is allowed. -/
theorem callInstance_eq_ok_iff
    {name text : Text}
    {operands : List Operand} :
    resolver.callInstance .method name (.str text) operands here context = .ok result ↔
      (Text.sameName name "GetType" && !resolver.policy.allowAll) = false ∧
        ∃ plain,
          resolver.callOnPlain (.str text.unescape) name operands here context = .ok plain ∧
            finish true plain = result := by
  have opened :
      resolver.callInstance .method name (.str text) operands here context =
        if (Text.sameName name "GetType" && !resolver.policy.allowAll) = true then
          .error <| .error <|
            .disallowedFunction "System.String" name context
              "type introspection is not allowed"
        else
          (resolver.callOnPlain (.str text.unescape) name operands here context).map
            (finish true) :=
    rfl
  rw [opened]
  cases Text.sameName name "GetType" && !resolver.policy.allowAll with
  | true =>
      simp
  | false =>
      cases resolver.callOnPlain (.str text.unescape) name operands here context <;>
        simp [Except.map]

/-- A call on a text that gives a result gives it everywhere. -/
theorem callInstance_elsewhere
    (standard : resolver.catalog = .standard)
    {name text : Text}
    {operands : List Operand}
    (called :
      resolver.callInstance .method name (.str text) operands here context = .ok result)
    (there : Surroundings)
    (context' : Text) :
    resolver.callInstance .method name (.str text) operands there context' = .ok result := by
  rw [callInstance_eq_ok_iff] at called ⊢
  obtain ⟨isOpen, plain, onPlain, finished⟩ := called
  exact ⟨isOpen, plain, callOnPlain_elsewhere standard onPlain there context', finished⟩

/-- A text that a call on a text gives is in escaped form. -/
theorem exists_escape_of_callInstance
    {name text given : Text}
    {operands : List Operand}
    (called :
      resolver.callInstance .method name (.str text) operands here context = .ok (.str given)) :
    ∃ plain, given = Text.escape plain := by
  obtain ⟨-, plain, -, finished⟩ := callInstance_eq_ok_iff.mp called
  cases plain <;> cases finished
  exact ⟨_, rfl⟩

end Resolver

end RefExpand
