import RefExpand.Call.Link
import RefExpand.Failure

namespace RefExpand

/-!
# Templates

A template is a text read for its property references: stretches to copy and
references, each with what it asks for. The arguments of a call and the key of a
registry reference are templates themselves. Everything that decides which
properties are read is in the template, so it is decided by the text alone.
-/

mutual

/-- A text as it is, or one in which a reference may stand. -/
inductive Template where
  | plain (text : Text)
  | mixed (segments : List Segment)

/-- A stretch to copy, or a reference with its written form. -/
inductive Segment where
  | literal (text : Text)
  | reference (written : Text) (request : Request)

/-- What a reference asks for. -/
inductive Request where
  /-- Nothing is asked for. -/
  | nothing
  /-- The body is cut inside a character when it is compared with the word of the registry. -/
  | cutInside (offset : Nat) (body : Text)
  | registry (key : Template)
  | property (name : Text)
  /-- A call, perhaps on the value of a property. -/
  | call (receiver : Option Text) (chain : CallChain)
  /-- The body looks like a call and is none. -/
  | uncallable (body : Text) (fault : CallFault)
  /-- The body is neither a name nor a call. -/
  | malformed (body : Text)

/-- The links of a call, and the fault at which reading stopped, if it did. -/
inductive CallChain where
  | done
  | broken (fault : CallFault)
  | link (call : CallLink) (arguments : List TemplateArgument) (next : CallChain)

/-- An argument of a link. -/
inductive TemplateArgument where
  | null
  | out
  | template (content : Template)

end

instance : Inhabited Template := ⟨.plain []⟩

end RefExpand
