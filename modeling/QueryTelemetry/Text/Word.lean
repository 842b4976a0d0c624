import QueryTelemetry.Text.Digit
import QueryTelemetry.Text.Letter

/-!
# Word characters

Letters, numbers of every script and the underscore make up words; a word boundary lies between
a word character and one that is not.
-/

namespace QueryTelemetry.Text

/-- The stretches of numbers that are no decimal digits, such as fractions and numbers in circles. -/
def numberBounds : List Nat := [
  178, 180, 185, 186, 188, 191, 2548, 2554, 2930, 2936,
  3056, 3059, 3192, 3199, 3416, 3423, 3440, 3449, 3882, 3892,
  4969, 4989, 5870, 5873, 6128, 6138, 6618, 6619, 8304, 8305,
  8308, 8314, 8320, 8330, 8528, 8579, 8581, 8586, 9312, 9372,
  9450, 9472, 10102, 10132, 11517, 11518, 12295, 12296, 12321, 12330,
  12344, 12347, 12690, 12694, 12832, 12842, 12872, 12880, 12881, 12896,
  12928, 12938, 12977, 12992, 42726, 42736, 43056, 43062, 65799, 65844,
  65856, 65913, 65930, 65932, 66273, 66300, 66336, 66340, 66369, 66370,
  66378, 66379, 66513, 66518, 67672, 67680, 67705, 67712, 67751, 67760,
  67835, 67840, 67862, 67868, 68028, 68030, 68032, 68048, 68050, 68096,
  68160, 68169, 68221, 68223, 68253, 68256, 68331, 68336, 68440, 68448,
  68472, 68480, 68521, 68528, 68858, 68864, 69216, 69247, 69405, 69415,
  69457, 69461, 69573, 69580, 69714, 69734, 70113, 70133, 71482, 71484,
  71914, 71923, 72794, 72813, 73664, 73685, 74752, 74863, 93019, 93026,
  93824, 93847, 119520, 119540, 119648, 119673, 125127, 125136, 126065, 126124,
  126125, 126128, 126129, 126133, 126209, 126254, 126255, 126270, 127232, 127245]

/-- Whether a character belongs to words. -/
def isWord (c : Char) : Bool :=
  isLetter c || c == '_' || isDigit c || inRanges numberBounds c.toNat

end QueryTelemetry.Text
