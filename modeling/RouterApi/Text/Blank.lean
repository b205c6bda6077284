import RouterApi.Text

/-!
# Blanks

The white space that is trimmed from the ends of a text.
-/

namespace RouterApi
namespace CodePoint

/-- White space: the characters of Unicode's White_Space property and the four information
separators. -/
def isBlank (point : CodePoint) : Bool :=
  let value := point.val
  (0x09 ≤ value && value ≤ 0x0D) || (0x1C ≤ value && value ≤ 0x20) || value == 0x85 ||
    value == 0xA0 || value == 0x1680 || (0x2000 ≤ value && value ≤ 0x200A) || value == 0x2028 ||
    value == 0x2029 || value == 0x202F || value == 0x205F || value == 0x3000

/-- The blanks that may surround a number: white space without the information separators. -/
def isNumberBlank (point : CodePoint) : Bool :=
  point.isBlank && !(0x1C ≤ point.val && point.val ≤ 0x1F)

end CodePoint

namespace Text

/-- Drop the members of a class from both ends. -/
def trimWhere (blank : CodePoint → Bool) (content : Text) : Text :=
  ((content.dropWhile blank).reverse.dropWhile blank).reverse

/-- Drop the white space from both ends. -/
def trim (content : Text) : Text :=
  content.trimWhere CodePoint.isBlank

end Text
end RouterApi
