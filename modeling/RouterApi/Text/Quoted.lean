import RouterApi.Text.Printable

/-!
# Quoted text

Texts in logs and messages are quoted: between single quotes, or between double quotes when the
text has a single quote and no double one. Backslashes, the enclosing quote, and whatever is not
printable are escaped, so that a quoted text stays on one line and can be read back.
-/

namespace RouterApi
namespace Text

/-- The quote that encloses a text. -/
def quoteFor (content : Text) : CodePoint :=
  if content.contains (CodePoint.ofChar '\'') && !content.contains (CodePoint.ofChar '"') then
    CodePoint.ofChar '"'
  else
    CodePoint.ofChar '\''

/-- The written form of one code point between the given quotes. -/
def escape (quote point : CodePoint) : Text :=
  if point == quote || point == CodePoint.ofChar '\\' then [CodePoint.ofChar '\\', point]
  else if point == CodePoint.ofChar '\n' then ofString "\\n"
  else if point == CodePoint.ofChar '\r' then ofString "\\r"
  else if point == CodePoint.ofChar '\t' then ofString "\\t"
  else if point.isPrintable then [point]
  else if point.val < 0x100 then ofString "\\x" ++ ofNatHex 2 point.val
  else if point.val < 0x10000 then ofString "\\u" ++ ofNatHex 4 point.val
  else ofString "\\U" ++ ofNatHex 8 point.val

/-- The quoted form of a text. -/
def quoted (content : Text) : Text :=
  let quote := content.quoteFor
  quote :: content.flatMap (escape quote) ++ [quote]

/-- Items between brackets, separated by commas. -/
def bracketed (items : List Text) : Text :=
  ofString "[" ++ join (ofString ", ") items ++ ofString "]"

/-- Two items between parentheses. -/
def paired (first second : Text) : Text :=
  ofString "(" ++ first ++ ofString ", " ++ second ++ ofString ")"

end Text
end RouterApi
