import IndexTrial.Binary64.Spelling
import IndexTrial.Text.Blank

/-! Memory settings of the server, such as `128MB`. -/

namespace IndexTrial

/-- The units and their bytes. A bare number counts blocks of 8 kB. -/
def memoryUnits : List (String × Nat) :=
  [("",8192),("B",1),("kB",2 ^ 10),("MB",2 ^ 20),("GB",2 ^ 30),("TB",2 ^ 40)]

/-- The bytes of a setting: digits, then a unit, white space around either. Neither the number nor
the bytes may leave a 64-bit word. -/
def readMemorySetting? (text : String) : Option Nat :=
  let (digits,unit) := spanDigits (trimBlanks text.toList)
  if digits.isEmpty then none
  else
    let n := digitsValue digits
    (memoryUnits.lookup (trimmed (String.ofList unit))).bind fun bytes =>
      if n * bytes < 2 ^ 64 then some (n * bytes) else none

end IndexTrial
