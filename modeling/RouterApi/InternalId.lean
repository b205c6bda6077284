import RouterApi.Text

/-!
# Internal identifiers

The device names its entries by an asterisk and up to eight hexadecimal digits, such as `*1F`.
-/

namespace RouterApi
namespace InternalId

/-- Drop one line end at the end of a text. -/
def dropLineEnd (content : Text) : Text :=
  if content.getLast? = some (CodePoint.ofChar '\n') then content.dropLast else content

/-- Whether a text is an internal identifier; one line end after it is tolerated. -/
def holds (content : Text) : Bool :=
  match dropLineEnd content with
  | [] => false
  | mark :: digits =>
      mark == CodePoint.ofChar '*' && 1 ≤ digits.length && digits.length ≤ 8 &&
        digits.all fun digit => digit.hexValue?.isSome

end InternalId
end RouterApi
