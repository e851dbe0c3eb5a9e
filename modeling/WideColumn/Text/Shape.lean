import WideColumn.Text.Blank
import WideColumn.Text.ShapeTable

/-!
# Characters without a shape

Some characters would not be seen if they were written as they are. Texts for diagnosis show them by
number instead.

* `WideColumn.Text.isShapeless`: whether a character is shown by its number.
-/

namespace WideColumn

namespace Text

/-- Whether a character cannot be seen when it is written. -/
def isShapeless (c : Char) : Bool :=
  let n := c.toNat
  inRanges (if n < 0x10000 then shapelessBasic else shapelessBeyond) n

end Text

end WideColumn
