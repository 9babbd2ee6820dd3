import WildcardRules.Text.CharSet

set_option autoImplicit false

namespace WildcardRules

namespace Unicode

def whiteSpace : CharSet :=
  CharSet.ofRanges
    [(0x9, 0xD), (0x20, 0x20), (0x85, 0x85), (0xA0, 0xA0), (0x1680, 0x1680), (0x2000, 0x200A),
      (0x2028, 0x2029), (0x202F, 0x202F), (0x205F, 0x205F), (0x3000, 0x3000)]

def isWhiteSpace (c : Char) : Bool := whiteSpace.contains c

end Unicode

def Text.trim (t : Text) : Text :=
  ((t.dropWhile Unicode.isWhiteSpace).reverse.dropWhile Unicode.isWhiteSpace).reverse

end WildcardRules
