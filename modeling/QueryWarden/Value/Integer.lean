/-
Values as integers. Truth values count as zero and one, floating numbers lose their
fraction, and texts are read digit by digit; nothing else has an integer.
-/

import QueryWarden.Fault
import QueryWarden.Number.Reading

namespace QueryWarden

open Number

def Value.toInteger : Value → Except IntegerFault Int
  | .bool value => .ok (if value then 1 else 0)
  | .int value => .ok value
  | .float (.nan _) => .error .nan
  | .float (.infinite _) => .error .infinite
  | .float (.finite negative significand exponent) =>
      .ok (Double.truncate negative significand exponent)
  | .text value =>
      match readInteger value.toList with
      | .ok integer => .ok integer
      | .error (.tooLong digits) => .error (.tooLong digits)
      | .error _ => .error (.notDigits value)
  | value => .error (.notNumeric value.typeName)

/-- Whether a result limit is a number and not below one. -/
def checkResultLimit (limit : Value) : Except Fault Unit :=
  match limit.less (.int 1) with
  | .ok true => refuse limit.shown? .resultLimit
  | .ok false => .ok ()
  | .error fault => .error (.access fault)

end QueryWarden
