/-!
# Limits of a document

A document may nest only so deep, and a decimal integer in it may have only so many digits.
-/

namespace SdkModel

/-- A limit that a document exceeds. -/
inductive Limit where
  | nesting
  | integerDigits
deriving DecidableEq, Repr

end SdkModel
