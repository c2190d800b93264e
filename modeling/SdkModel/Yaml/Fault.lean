import SdkModel.Value.Limit

/-!
# Faults of a YAML text

A text may be no YAML at all (`malformed`). A text that is YAML may still hold a scalar that its
tag does not fit, or exceed a limit; such faults are told apart, since they are no faults of the
notation.
-/

namespace SdkModel.Yaml

/-- Why a text has no value. -/
inductive Fault where
  /-- The text is no YAML, or holds a tag that has no values. -/
  | malformed
  /-- An escape names a code point beyond Unicode. -/
  | codePoint
  /-- An escape names a number that no word of 31 bits holds. -/
  | codeWord
  /-- A number without any character. -/
  | emptyNumber
  /-- A number that is not written as one. -/
  | badNumber
  /-- A truth value that is not written as one. -/
  | badTruth
  /-- A time that is not written as one. -/
  | badTime
  /-- A day or time that does not exist. -/
  | noSuchTime
  /-- A collection that holds itself. -/
  | endless
  | limit (l : Limit)
deriving DecidableEq, Repr

end SdkModel.Yaml
