import Dispatch.Unicode.Chart

/-!
# White space

The characters with the property of white space, 25 in all.
-/
namespace Dispatch.Unicode

/-- The code points that are white space. -/
def spaces : Chart :=
  [(0x09, 0x0D), (0x20, 0x20), (0x85, 0x85), (0xA0, 0xA0), (0x1680, 0x1680), (0x2000, 0x200A),
   (0x2028, 0x2029), (0x202F, 0x202F), (0x205F, 0x205F), (0x3000, 0x3000)]

/-- Whether a character is white space. -/
def isSpace (c : Char) : Bool := spaces.contains c.toNat

end Dispatch.Unicode
