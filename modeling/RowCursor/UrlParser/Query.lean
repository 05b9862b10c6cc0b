import RowCursor.Text.Utf8
import RowCursor.UrlParser.Percent

/-!
# Query parameters

The query of a URL as name and value pairs: pieces between ampersands, cut at their
first equals sign, with plus signs for blanks and bytes written with a percent sign.
Empty pieces are passed over.
-/

set_option autoImplicit false

namespace RowCursor.UrlParser.Query

/-- The text of a name or a value. -/
def decodeComponent (component : Bytes) : String :=
  Utf8.decodeLossy (Percent.decode (component.map fun byte => if byte = 0x2B then 0x20 else byte))

/-- The name and the value of a piece; without an equals sign the value is empty. -/
def decodePair (piece : Bytes) : String × String :=
  let name := piece.takeWhile (· ≠ 0x3D)
  (decodeComponent name, decodeComponent (piece.drop (name.length + 1)))

/-- The pairs of a query, in order. -/
def pairs (query : Bytes) : List (String × String) :=
  ((query.splitOn 0x26).filter fun piece => !piece.isEmpty).map decodePair

end RowCursor.UrlParser.Query
