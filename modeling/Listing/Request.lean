import Listing.Filter
import Listing.Sort

/-! What one request asks of a listing. -/
namespace Listing

structure Request where
  filter : Option Filter := none
  sort : List SortKey := []
  cursor : Option String := none
  deriving DecidableEq

end Listing
