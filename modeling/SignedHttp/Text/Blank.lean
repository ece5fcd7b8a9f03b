/-!
# Blank characters

The white space that may stand around a header value. Beside the characters with the Unicode
property White_Space it takes in the four separators U+001C to U+001F.

* `isBlank`: the test.
* `trim`: a text without the blanks at its two ends.
* `isSpace`, `trimSpace`: the same without the four separators.
-/

set_option autoImplicit false

namespace SignedHttp
namespace Text

def isBlank (c : Char) : Bool :=
  let n := c.toNat
  (0x09 ≤ n && n ≤ 0x0D) || (0x1C ≤ n && n ≤ 0x20) || n == 0x85 || n == 0xA0 || n == 0x1680 ||
  (0x2000 ≤ n && n ≤ 0x200A) || n == 0x2028 || n == 0x2029 || n == 0x202F || n == 0x205F ||
  n == 0x3000

def trimStart (cs : List Char) : List Char := cs.dropWhile isBlank

def trimEnd (cs : List Char) : List Char := (cs.reverse.dropWhile isBlank).reverse

def trim (cs : List Char) : List Char := trimEnd (trimStart cs)

/-- The blanks that have the property White_Space, which may stand around a numeral. -/
def isSpace (c : Char) : Bool := isBlank c && !(0x1C ≤ c.toNat && c.toNat ≤ 0x1F)

def trimSpace (cs : List Char) : List Char :=
  ((cs.dropWhile isSpace).reverse.dropWhile isSpace).reverse

end Text
end SignedHttp
