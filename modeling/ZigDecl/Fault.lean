/-! # Values of the wrong form

Settings, names and descriptions are read from documents that may hold any value anywhere. A value
that does not fit its place is a fault; `Fault.tag` is how a message that quotes a fault names
it. -/

namespace ZigDecl

/-- What is wrong with a value. -/
inductive Fault where
  /-- The value is of a type that the operation is not defined on. -/
  | wrongType
  /-- The value lacks an operation that its place asks for. -/
  | missingOperation
  /-- The value has the right type, and the operation is not defined for it. -/
  | badValue
  /-- A key is looked up that is not there. -/
  | missingKey
  /-- The bytes of a file are no UTF-8 text. -/
  | badEncoding
  /-- A path cannot be followed, for one of its names is too long or it is too long itself. -/
  | badPath
  /-- An expansion does not come to an end. -/
  | endless
  /-- A text with half of a surrogate pair in it is to be written as UTF-8. -/
  | badText
  /-- A text with such a half in it is met where only strings are described. -/
  | noString
  deriving DecidableEq, Repr

/-- The word that stands for a fault inside a message. -/
def Fault.tag : Fault → String
  | .wrongType => "<TypeError>"
  | .missingOperation => "<AttributeError>"
  | .badValue => "<ValueError>"
  | .missingKey => "<KeyError>"
  | .badEncoding => "<UnicodeDecodeError>"
  | .badPath => "<OSError>"
  | .endless => "<RecursionError>"
  | .badText => "<UnicodeEncodeError>"
  | .noString => "<no string>"

end ZigDecl
