/-!
# Encoded text

Bytes as they stand in files and requests, and the texts they encode in UTF-8.
-/

namespace ColumnChain

/-- The contents of a file. -/
abbrev Bytes := List UInt8

namespace Text

/-- The bytes of a text. -/
def encode (text : String) : Bytes :=
  text.toUTF8.toList

/-- The text that bytes encode, if they do. -/
def decode? (bytes : Bytes) : Option String :=
  String.fromUTF8? (ByteArray.mk bytes.toArray)

/-- The bytes of an ASCII character. -/
def byte (c : Char) : UInt8 :=
  c.toNat.toUInt8

end Text
end ColumnChain
