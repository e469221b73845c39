/-!
# Message identifiers

Random identifiers of 128 bits, of which six are fixed: the version, four, and the variant.
They are written in lower case with hyphens.
-/
namespace Dispatch

/-- An identifier of sixteen bytes. -/
structure Uuid where
  value : BitVec 128
  deriving DecidableEq, Repr, Inhabited

namespace Uuid

/-- The identifier made of random bits: version four, variant `10`. -/
def ofRandom (bits : BitVec 128) : Uuid :=
  ⟨(bits &&& ~~~(0xF000C000000000000000#128)) ||| 0x40008000000000000000#128⟩

/-- The hexadecimal digits from the most significant one on. -/
def digits (u : Uuid) : List Char :=
  (List.range 32).map fun i => Nat.digitChar ((u.value.toNat >>> (4 * (31 - i))) % 16)

/-- Groups of 8, 4, 4, 4 and 12 digits with hyphens between them. -/
def text (u : Uuid) : String :=
  let ds := u.digits
  let group (start size : Nat) : String := String.ofList ((ds.drop start).take size)
  group 0 8 ++ "-" ++ group 8 4 ++ "-" ++ group 12 4 ++ "-" ++ group 16 4 ++ "-" ++ group 20 12

end Uuid

end Dispatch
