import WildcardRules.Text

set_option autoImplicit false

namespace WildcardRules

abbrev Bytes := List UInt8

namespace Text

def ofBytes? (bytes : Bytes) : Option Text :=
  bytes.toByteArray.utf8Decode?.map Array.toList

def toBytes (t : Text) : Bytes := t.flatMap String.utf8EncodeChar

end Text

namespace Bytes

def lineFeed : UInt8 := 10

def carriageReturn : UInt8 := 13

-- The lines of a stream. A line ends at a line feed; one carriage return right before the line
-- feed is no part of it. What follows the last line feed is a line if it is not empty.
def lines : Bytes → List Bytes
  | [] => []
  | b :: bytes =>
      if b = lineFeed then [] :: lines bytes
      else if b = carriageReturn ∧ bytes.head? = some lineFeed then lines bytes
      else
        match lines bytes with
        | [] => [[b]]
        | line :: rest => (b :: line) :: rest

end Bytes

namespace Text

theorem to_byte_array_to_bytes (t : Text) : t.toBytes.toByteArray = t.utf8Encode := rfl

theorem of_bytes_to_bytes (t : Text) : ofBytes? t.toBytes = some t := by
  rw [ofBytes?, to_byte_array_to_bytes, List.utf8Decode?_utf8Encode]
  simp

end Text

end WildcardRules
