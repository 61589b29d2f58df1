/-!
# HomeLedger — faults

What may stop the program in the middle of a command. A fault is not a refusal: a refused command
is answered with a message and leaves the ledger as it was, while after a fault there is no answer.
Both faults come from amounts that are too large to handle.
-/

namespace HomeLedger

/-- The two ways in which an amount stops the program. -/
inductive Fault where
  /-- A sum of amounts has more digits before the point than an amount can hold. -/
  | sumOverflow
  /-- An amount has more digits than the space in which its display is put together. -/
  | displayOverflow
  deriving DecidableEq, Repr

/-- A fault in words. -/
def Fault.message : Fault → String
  | sumOverflow => "The sum of the amounts is too large"
  | displayOverflow => "The amount has too many digits to be displayed"

end HomeLedger
