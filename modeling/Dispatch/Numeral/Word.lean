/-!
# Words of 64 bits

The bounds of integers that fit a 64-bit word, without sign and with one.
-/
namespace Dispatch.Word

/-- The largest word without sign. -/
def maxUnsigned : Nat := 18446744073709551615

/-- The largest word with sign. -/
def maxSigned : Nat := 9223372036854775807

/-- Whether an integer fits a word without sign. -/
def isUnsigned (i : Int) : Bool := 0 ≤ i && i ≤ maxUnsigned

/-- Whether an integer fits a word with sign. The least one has no positive counterpart. -/
def isSigned (i : Int) : Bool := -(maxSigned + 1 : Int) ≤ i && i ≤ maxSigned

end Dispatch.Word
