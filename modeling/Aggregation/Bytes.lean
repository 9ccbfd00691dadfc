/-
**Bytes.**

Files and messages hold bytes. A text is put into them as UTF-8, and they are a text if they are the
UTF-8 of one.
-/

import Aggregation.Text.Utf8

namespace Aggregation

/-- What a file or a message holds. -/
abbrev Bytes := List UInt8

namespace Bytes

/-- The bytes of a text. -/
def ofText (text : String) : Bytes := Text.Utf8.encode text.toList

/-- The text of some bytes, if they have no fault. -/
def text? (bytes : Bytes) : Option String := (Text.Utf8.decode? bytes).map String.ofList

end Bytes

end Aggregation
