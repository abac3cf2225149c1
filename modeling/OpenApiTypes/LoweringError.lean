/-
Why a schema cannot become a type.
-/

namespace OpenApiTypes

/-- The causes. -/
inductive LoweringError where
  | depthExceeded (limit : Nat)
  | enumNamesMismatch (names values : Nat)
  | unsupportedEnumValue (index : Nat) (value : String)
  deriving DecidableEq, Repr

/-- The cause in words. -/
def LoweringError.message : LoweringError → String
  | depthExceeded limit =>
      "schema nesting exceeds the maximum depth of " ++ toString limit
  | enumNamesMismatch names values =>
      "x-enumNames has " ++ toString names ++ " entries but enum has " ++ toString values
        ++ " values"
  | unsupportedEnumValue index value =>
      "enum value at index " ++ toString index ++ " is not a literal: " ++ value

end OpenApiTypes
