import RefExpand.Location

namespace RefExpand

/-!
# Failures of an expansion

Every failure ends the one expansion that met it. A failure is a cause, wrapped
at most once with the location of the element; its code and its text are
functions of it.
-/

/-- Why an expansion failed. -/
inductive ExpandError where
  | invalidExpression (expression message : Text)
  | vectorConcatenation (expression : Text)
  | invalidFunction (expression message : Text)
  | unknownFunction (receiver member expression : Text)
  | disallowedFunction (typeName member expression reason : Text)
  | invalidTransform (function expression message : Text)
  | fileSystem (path message : Text)
  | located (location : Location) (cause : ExpandError)
  deriving Repr, DecidableEq, Inhabited

/-- The kinds of failures. -/
inductive ErrorKind where
  | invalidExpression
  | vectorConcatenation
  | invalidFunction
  | unknownFunction
  | disallowedFunction
  | invalidTransform
  | fileSystem
  deriving Repr, DecidableEq

/-- The code of a kind: the layer and a number in it. -/
def ErrorKind.code : ErrorKind → Text
  | .invalidExpression => "E0101"
  | .vectorConcatenation => "E0102"
  | .invalidFunction => "E0201"
  | .unknownFunction => "E0202"
  | .disallowedFunction => "E0203"
  | .invalidTransform => "E0301"
  | .fileSystem => "E0401"

/-- The name of a kind of error. -/
def ErrorKind.name : ErrorKind → Text
  | .invalidExpression => "InvalidExpression"
  | .vectorConcatenation => "ItemVectorConcatenation"
  | .invalidFunction => "InvalidFunction"
  | .unknownFunction => "UnknownFunction"
  | .disallowedFunction => "DisallowedFunction"
  | .invalidTransform => "InvalidTransform"
  | .fileSystem => "FileSystem"

namespace ExpandError

/-- A text in double quotes. -/
def quoted (text : Text) : Text :=
  '"' :: (text ++ ['"'])

/-- The wording of a failure, with its location if it carries one. -/
def message : ExpandError → Text
  | .invalidExpression expression message =>
      "invalid expression ".toList ++ quoted expression ++ ": ".toList ++ message
  | .vectorConcatenation expression =>
      "item list expression ".toList ++ quoted expression ++
        " cannot be combined with other text when it must be split into items".toList
  | .invalidFunction expression message =>
      "invalid property function ".toList ++ quoted expression ++ ": ".toList ++ message
  | .unknownFunction receiver member expression =>
      "cannot find member ".toList ++ quoted member ++ " on ".toList ++ quoted receiver ++
        " in ".toList ++ quoted expression
  | .disallowedFunction typeName member expression reason =>
      quoted ('[' :: (typeName ++ "]::".toList ++ member)) ++ " is not available in ".toList ++
        quoted expression ++ ": ".toList ++ reason
  | .invalidTransform function expression message =>
      "invalid use of item function ".toList ++ quoted function ++ " in ".toList ++
        quoted expression ++ ": ".toList ++ message
  | .fileSystem path message =>
      "file system error for ".toList ++ quoted path ++ ": ".toList ++ message
  | .located location cause => location.text ++ ": ".toList ++ cause.message

/-- Attach a location unless there is one already. -/
def withLocation (error : ExpandError) (location : Location) : ExpandError :=
  match error with
  | .located known cause => .located known cause
  | cause => .located location cause

/-- Name another expression in an invalid function; other failures keep theirs. -/
def withExpression (error : ExpandError) (expression : Text) : ExpandError :=
  match error with
  | .invalidFunction _ message => .invalidFunction expression message
  | .located location cause => .located location (cause.withExpression expression)
  | cause => cause

/-- The failure without its location. -/
def inner : ExpandError → ExpandError
  | .located _ cause => cause.inner
  | cause => cause

/-- The kind of the failure. -/
def kind : ExpandError → ErrorKind
  | .invalidExpression .. => .invalidExpression
  | .vectorConcatenation .. => .vectorConcatenation
  | .invalidFunction .. => .invalidFunction
  | .unknownFunction .. => .unknownFunction
  | .disallowedFunction .. => .disallowedFunction
  | .invalidTransform .. => .invalidTransform
  | .fileSystem .. => .fileSystem
  | .located _ cause => cause.kind

/-- The code and the wording. -/
def report (error : ExpandError) : Text :=
  error.kind.code ++ ": ".toList ++ error.message

/-- The expression that an invalid function names. -/
def partialExpression? (error : ExpandError) : Option Text :=
  match error.inner with
  | .invalidFunction expression _ => some expression
  | _ => none

end ExpandError

end RefExpand
