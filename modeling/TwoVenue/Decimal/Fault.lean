/-!
# Faults

A fault is the reason why an operation on decimals, or on a list of them, has no result. It ends whatever the operation
was needed for.
-/

namespace TwoVenue

/-- Why an operation on decimals or on a list of them has no result. -/
inductive Fault where
  | additionOverflow
  | subtractionOverflow
  | multiplicationOverflow
  | divisionOverflow
  | divisionByZero
  /-- A text with a fixed number of places is too long. -/
  | textOverflow
  /-- A list is larger than the memory it can have. -/
  | capacityOverflow
deriving DecidableEq

/-- The text of a fault. -/
def Fault.message : Fault → String
  | .additionOverflow => "Addition overflowed"
  | .subtractionOverflow => "Subtraction overflowed"
  | .multiplicationOverflow => "Multiplication overflowed"
  | .divisionOverflow => "Division overflowed"
  | .divisionByZero => "Division by zero"
  | .textOverflow => "called `Result::unwrap()` on an `Err` value: CapacityError: insufficient capacity"
  | .capacityOverflow => "capacity overflow"

end TwoVenue
