import Listing.Calendar.Iso8601
import Listing.Filter
import Listing.Selector
import Listing.Value

/-! From operands to values: which texts a column accepts, and what a comparison binds. -/
namespace Listing

namespace Domain

/-- A letter without its case. The long s, which is a form of the small one, is the only character outside
ASCII whose simple case folding is a letter of `true` or `false`. -/
def caseless (c : Char) : Char := if c = 'ſ' then 's' else c.toLower

def isBooleanWord (s : String) : Bool :=
  let cs := s.toList.map caseless
  cs == "true".toList || cs == "false".toList

def isNumeric (s : String) : Bool := !(Number.parse s).isNaN

end Domain

def SelectorType.accepts (s : String) : SelectorType → Bool
  | .string => true
  | .number => Domain.isNumeric s
  | .integer => Text.Digits.unicode.spell s.toList && Domain.isNumeric s
  | .date => Calendar.startsWithDay .unicode s.toList && Calendar.isIso8601 s.toList
  | .dateTime => Calendar.isIso8601 s.toList
  | .boolean => Domain.isBooleanWord s

def Domain.accepts (s : String) : Domain → Bool
  | .any => true
  | .type t => t.accepts s
  | .oneOf allowed => allowed.contains s

def Selector.accepts (sel : Selector) (s : String) : Bool := sel.domain.accepts s

namespace SelectorType

/-- What a single operand binds. -/
def single (s : String) : SelectorType → Value
  | string | date | dateTime => .text s
  | number | integer => .number (Number.parse s)
  | boolean => .bool (Text.sameIgnoringCase s "true")

/-- What a list of operands binds; truth values have no lists, so the first operand counts. -/
def list (ss : List String) : SelectorType → Value
  | string | date | dateTime => .texts ss
  | number | integer => .numbers (ss.map Number.parse)
  | boolean => single (ss.headD "") boolean

end SelectorType

namespace Domain

/-- A text that is not allowed is replaced by an empty one. -/
def single (s : String) : Domain → Value
  | any => .text s
  | type t => t.single s
  | oneOf allowed => .text (if allowed.contains s then s else "")

/-- Texts that are not allowed are left out. -/
def list (ss : List String) : Domain → Value
  | any => .texts ss
  | type t => t.list ss
  | oneOf allowed => .texts (ss.filter allowed.contains)

end Domain

/-- The value that a comparison binds for its first operand, or for all of them. -/
def Selectors.coerce (ss : Selectors) (c : Comparison) (asList : Bool) : Value :=
  let d := ss.domainOf c.selector
  if asList then d.list c.operands else d.single c.firstOperand

end Listing
