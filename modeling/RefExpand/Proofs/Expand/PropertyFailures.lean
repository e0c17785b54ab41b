import RefExpand.Proofs.Call.Failures
import RefExpand.Proofs.Expand.Reentry

namespace RefExpand

/-!
# What the property phase fails with

Every failure of the property phase is raised by one reference that stands in the
expression, at the top, in an argument or in a registry key. `PropertyPhase.Raises` says
for each kind of reference what that failure can be; it is shown of whatever the phase is
entered with, by induction on what an entry enters.
-/

/-- What the inside of a reference can be read as. -/
inductive Request.Reading
    (inside : Text) :
    Request → Prop where
  | nothing :
      Reading inside .nothing
  | cutInside
      (splits : Text.cutsCharacter Template.registryWord.length inside.trim = true) :
      Reading inside (.cutInside Template.registryWord.length inside.trim)
  | registry
      (isRegistry : Template.namesRegistry inside.trim = true) :
      Reading inside
        (.registry (Template.read (inside.trim.drop Template.registryWord.length)))
  | indexed :
      Reading inside
        (.call (some (Text.takeName inside.trim).1)
          (CallChain.read true (Text.takeName inside.trim).2))
  | call {link : CallLink}
      (isCall : CallLink.read false inside.trim = .ok link) :
      Reading inside (.call link.receiverName? (CallChain.read false inside.trim))
  | uncallable {fault : CallFault}
      (isNone : CallLink.read false inside.trim = .error fault) :
      Reading inside (.uncallable inside.trim fault)
  | property :
      Reading inside (.property inside.trim)
  | malformed :
      Reading inside (.malformed inside.trim)

theorem Request.reading
    (inside : Text) :
    Reading inside (read inside) := by
  rw [read]
  split_ifs with _ splits isRegistry
  · exact .nothing
  · exact .cutInside splits
  · exact .registry isRegistry
  · exact .nothing
  · exact .indexed
  · cases isCall : CallLink.read false inside.trim with
    | error fault =>
        exact .uncallable isCall
    | ok link =>
        exact .call isCall
  · exact .property
  · exact .malformed

namespace PropertyPhase

variable (phase : PropertyPhase)

/-- The failure is not caught where the options ask to leave references as they are. -/
def Passes
    (failure : Failure) :
    Prop :=
  phase.options.contains .leaveOnError = true → ∃ breach, failure = .halt breach

/-- What a reference can raise, apart from what is raised by the references inside it. -/
inductive Raises
    (inside : Text) :
    Failure → Prop where
  | cutInside {offset : Nat} {body : Text}
      (asks : Request.read inside = .cutInside offset body) :
      Raises inside (.halt (.cutCharacter offset body))
  | call {receiver : Option Text} {chain : CallChain} {failure : Failure}
      (asks : Request.read inside = .call receiver chain)
      (raised : phase.context.resolver.Raises (Stretch.written inside) failure)
      (passes : phase.Passes failure) :
      Raises inside (failure.withLocation phase.context.location)
  | uncallable {body : Text} {fault : CallFault}
      (asks : Request.read inside = .uncallable body fault)
      (passes : phase.options.contains .leaveOnError = false) :
      Raises inside
        (phase.context.locate (.invalidFunction (Stretch.written body) fault.message))
  | malformed {body message : Text}
      (asks : Request.read inside = .malformed body)
      (passes : phase.options.contains .leaveOnError = false) :
      Raises inside
        (phase.context.locate (.invalidExpression (Stretch.written inside) message))

/-- The failure is raised by a reference that stands in the text. -/
def RaisesWithin
    (text : Text)
    (failure : Failure) :
    Prop :=
  ∃ inside, Stretch.StandsIn inside text ∧ phase.Raises inside failure

/-- What an entry can raise; the links of a call may also fail themselves. -/
def Entry.MayRaise :
    Entry → Failure → Prop
  | .expression _ text, failure => phase.RaisesWithin text failure
  | .links reference _ _ text, failure =>
      phase.RaisesWithin text failure ∨ phase.context.resolver.Raises reference failure

end PropertyPhase

/-- A location that is attached once more makes no difference. -/
theorem Failure.withLocation_withLocation
    (failure : Failure)
    (first second : Location) :
    (failure.withLocation first).withLocation second = failure.withLocation first := by
  cases failure with
  | error cause =>
      cases cause <;> rfl
  | halt breach =>
      rfl

/-- A failure that has its location is a halt if it was one before. -/
theorem Failure.eq_halt_of_withLocation
    {failure : Failure}
    {location : Location}
    {breach : Halt}
    (isHalt : failure.withLocation location = .halt breach) :
    failure = .halt breach := by
  cases failure with
  | error cause =>
      cases isHalt
  | halt other =>
      exact isHalt

namespace PropertyPhase

variable {phase : PropertyPhase}

/-- What a reference raises has its location already. -/
theorem Raises.withLocation
    {inside : Text}
    {failure : Failure}
    (raises : phase.Raises inside failure)
    (location : Location) :
    failure.withLocation location = failure := by
  cases raises with
  | cutInside asks =>
      rfl
  | call asks raised passes =>
      exact Failure.withLocation_withLocation ..
  | uncallable asks passes =>
      rfl
  | malformed asks passes =>
      rfl

theorem RaisesWithin.inInfix
    {inner outer : Text}
    {failure : Failure}
    (raises : phase.RaisesWithin inner failure)
    (part : inner <:+: outer) :
    phase.RaisesWithin outer failure := by
  obtain ⟨inside, stands, raised⟩ := raises
  exact ⟨inside, stands.inInfix part, raised⟩

/-- A guarded computation raises what it raises unguarded and the guard lets pass. -/
theorem guarded_raisesOnly
    {allowed : Failure → Prop}
    {action : Expansion Value}
    (raises : action.RaisesOnly allowed)
    (written : Text) :
    (phase.guarded written action).RaisesOnly fun failure =>
      allowed failure ∧ phase.Passes failure := by
  unfold guarded
  cases leaves : phase.options.contains .leaveOnError with
  | true =>
      rw [if_pos rfl]
      exact (raises.orElseValue _).mono fun failure ⟨isAllowed, isHalt⟩ =>
        ⟨isAllowed, fun _ => isHalt⟩
  | false =>
      rw [if_neg (by decide)]
      refine raises.mono fun failure isAllowed => ⟨isAllowed, fun left => ?_⟩
      rw [leaves] at left
      cases left

/-- A lookup never fails. -/
theorem lookup_never
    (name : Text) :
    (phase.lookup name).RaisesOnly fun _ => False :=
  fun _ => .ok _

theorem receiver_never
    (receiver : Option Text) :
    (receiver.mapM phase.lookup).RaisesOnly fun _ => False := by
  cases receiver with
  | none =>
      exact .pure none
  | some name =>
      exact (lookup_never name).bind fun _ => .pure _

/-- An error that the guard lets pass, the options do not ask to leave. -/
theorem Passes.strict
    {cause : ExpandError}
    (passes : phase.Passes (.error cause)) :
    phase.options.contains .leaveOnError = false := by
  rw [← Bool.not_eq_true]
  intro leaves
  obtain ⟨breach, isHalt⟩ := passes leaves
  cases isHalt

/-- A call raises what the references in its links raise, or what it raises itself. -/
theorem call_raisesOnly
    {text inside links : Text}
    {receiver : Option Text}
    {chain : CallChain}
    {first : Expansion α}
    {next : α → Expansion Value}
    (asks : Request.read inside = .call receiver chain)
    (stands : Stretch.StandsIn inside text)
    (part : links <:+: text)
    (never : first.RaisesOnly fun _ => False)
    (raises :
      ∀ value, (next value).RaisesOnly fun failure =>
        phase.RaisesWithin links failure ∨
          phase.context.resolver.Raises (Stretch.written inside) failure) :
    (phase.guarded (Stretch.written inside) do
      let value ← first
      Expansion.located phase.context.location (next value)).RaisesOnly
        (phase.RaisesWithin text) := by
  have located :
      ∀ value,
        (Expansion.located phase.context.location (next value)).RaisesOnly fun failure =>
          phase.RaisesWithin text failure ∨
            ∃ raised, phase.context.resolver.Raises (Stretch.written inside) raised ∧
              failure = raised.withLocation phase.context.location := by
    refine fun value => (raises value).located ?_
    rintro failure (within | raised)
    · obtain ⟨inner, innerStands, innerRaises⟩ := within.inInfix part
      rw [innerRaises.withLocation]
      exact .inl ⟨inner, innerStands, innerRaises⟩
    · exact .inr ⟨failure, raised, rfl⟩
  have call := (never.mono fun _ => False.elim).bind located
  refine (guarded_raisesOnly call (Stretch.written inside)).mono ?_
  rintro failure ⟨within | ⟨raised, isRaised, rfl⟩, passes⟩
  · exact within
  · refine ⟨inside, stands, .call asks isRaised fun leaves => ?_⟩
    obtain ⟨breach, isHalt⟩ := passes leaves
    exact ⟨breach, Failure.eq_halt_of_withLocation isHalt⟩

/-- A reference raises what it can raise itself, or what is raised by the entries it enters. -/
theorem evaluate_raisesOnly
    {adjusts : Bool}
    {text inside : Text}
    (isReference : Stretch.reference inside ∈ Stretch.cut text)
    (inner :
      ∀ entry, Entry.Enters (.expression adjusts text) entry →
        (phase.enter entry).RaisesOnly (entry.MayRaise phase)) :
    ((Request.read inside).evaluate phase (Stretch.written inside)).RaisesOnly
      (phase.RaisesWithin text) := by
  have stands : Stretch.StandsIn inside text :=
    Stretch.standsIn_of_mem_cut isReference
  have reading := Request.reading inside
  generalize asks : Request.read inside = request at reading ⊢
  cases reading with
  | nothing =>
      rw [Request.evaluate]
      exact .pure _
  | cutInside splits =>
      rw [Request.evaluate]
      exact .throw ⟨inside, stands, .cutInside asks⟩
  | registry isRegistry =>
      have enters : Entry.Enters (.expression adjusts text) _ :=
        .registry isReference isRegistry
      rw [Request.evaluate]
      refine Expansion.RaisesOnly.bind ?_ fun _ => .pure _
      exact (inner _ enters).mono fun failure within => within.inInfix enters.properPart.1
  | indexed =>
      have enters (receiver : Value) : Entry.Enters (.expression adjusts text) _ :=
        .indexed isReference receiver
      rw [Request.evaluate]
      change
        (phase.guarded (Stretch.written inside) do
          let value ← phase.lookup (Text.takeName inside.trim).1
          Expansion.located phase.context.location
            (phase.enter (.links (Stretch.written inside) (some value) true
              (Text.takeName inside.trim).2))).RaisesOnly _
      exact call_raisesOnly asks stands (enters .null).properPart.1 (lookup_never _)
        fun value => inner _ (enters value)
  | @call link isCall =>
      have enters (receiver : Option Value) : Entry.Enters (.expression adjusts text) _ :=
        .call isReference isCall receiver
      rw [Request.evaluate]
      exact call_raisesOnly asks stands (enters none).properPart.1 (receiver_never _)
        fun value => inner _ (enters value)
  | @uncallable fault isNone =>
      rw [Request.evaluate]
      refine (guarded_raisesOnly (.throw rfl) _).mono ?_
      rintro failure ⟨rfl, passes⟩
      exact ⟨inside, stands, .uncallable asks passes.strict⟩
  | property =>
      rw [Request.evaluate]
      exact (lookup_never _).mono fun _ => False.elim
  | malformed =>
      rw [Request.evaluate]
      refine (guarded_raisesOnly (.throw rfl) _).mono ?_
      rintro failure ⟨rfl, passes⟩
      exact ⟨inside, stands, .malformed asks passes.strict⟩

/-- The links of a call raise what their arguments raise, or fail as the call. -/
theorem linksLevel_raisesOnly
    {reference text : Text}
    {receiver : Option Value}
    {chained : Bool}
    (inner :
      ∀ entry, Entry.Enters (.links reference receiver chained text) entry →
        (phase.enter entry).RaisesOnly (entry.MayRaise phase)) :
    (phase.linksLevel phase.enter reference receiver chained text).RaisesOnly fun failure =>
      phase.RaisesWithin text failure ∨ phase.context.resolver.Raises reference failure := by
  unfold linksLevel
  split
  · exact .pure _
  · cases isLink : CallLink.read chained text with
    | error fault =>
        exact .throw (.inr (.error (.invalid _)))
    | ok link =>
        refine Expansion.RaisesOnly.bind (.mapM fun argument isArgument => ?_) fun operands => ?_
        · cases argument with
          | null =>
              exact .pure _
          | out =>
              exact .pure _
          | text content =>
              have enters : Entry.Enters (.links reference receiver chained text) _ :=
                .argument isLink isArgument
              refine Expansion.RaisesOnly.bind ?_ fun _ => .pure _
              exact (inner _ enters).mono fun failure within =>
                .inl (within.inInfix enters.properPart.1)
        · have calls :=
            phase.context.callLink_raisesOnly reference receiver link operands
          refine Expansion.RaisesOnly.bind (calls.mono fun _ => .inr) fun result => ?_
          have enters : Entry.Enters (.links reference receiver chained text) _ :=
            .next isLink result
          exact (inner _ enters).mono fun failure raised =>
            raised.imp_left fun within => within.inInfix enters.properPart.1

/-- Whatever the phase is entered with, it fails only with what a reference in the text raises. -/
theorem enter_raisesOnly
    (phase : PropertyPhase)
    (entry : Entry) :
    (phase.enter entry).RaisesOnly (entry.MayRaise phase) := by
  -- An entry is one level above the entries it enters, and these read less.
  induction entry using Entry.wellFounded_enters.induction with
  | _ entry inner =>
      rw [← congrFun phase.level_enter entry]
      cases entry with
      | expression adjusts text =>
          unfold level
          dsimp only
          split
          · refine Expansion.RaisesOnly.bind (.mapM fun stretch isStretch => ?_) fun _ => .pure _
            cases stretch with
            | literal literal =>
                exact .pure _
            | reference inside =>
                rw [stretchLevel, bodyLevel_enter]
                exact (evaluate_raisesOnly isStretch inner).bind fun _ => .pure _
          · exact .pure _
      | links reference receiver chained text =>
          exact linksLevel_raisesOnly inner

/-- Every failure of the phase is raised by a reference that stands in the expression. -/
theorem value_raisesOnly
    (phase : PropertyPhase)
    (expression : Text) :
    (phase.value expression).RaisesOnly (phase.RaisesWithin expression) :=
  phase.enter_raisesOnly (.expression true expression)

end PropertyPhase

end RefExpand
