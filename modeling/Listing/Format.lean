import Listing.Text.LetterCase

/-! How SQL is spelled: the case of keywords and the space around symbols. -/
namespace Listing

/-- The keywords that appear in generated text. -/
inductive Keyword where
  | and | or | not | like | ilike | notIlike | in_ | notIn | desc | orderBy | where_ | any | all | is
  deriving DecidableEq, Repr

namespace Keyword

def upper : Keyword → String
  | and => "AND"
  | or => "OR"
  | not => "NOT"
  | like => "LIKE"
  | ilike => "ILIKE"
  | notIlike => "NOT ILIKE"
  | in_ => "IN"
  | notIn => "NOT IN"
  | desc => "DESC"
  | orderBy => "ORDER BY"
  | where_ => "WHERE"
  | any => "ANY"
  | all => "ALL"
  | is => "IS"

def lower : Keyword → String
  | and => "and"
  | or => "or"
  | not => "not"
  | like => "like"
  | ilike => "ilike"
  | notIlike => "not ilike"
  | in_ => "in"
  | notIn => "not in"
  | desc => "desc"
  | orderBy => "order by"
  | where_ => "where"
  | any => "any"
  | all => "all"
  | is => "is"

theorem text_upper (k : Keyword) : Text.upper k.upper = k.upper := by cases k <;> decide +kernel

theorem text_lower (k : Keyword) : Text.lower k.upper = k.lower := by cases k <;> decide +kernel

end Keyword

structure Format where
  lowerCase : Bool := false
  /-- Symbols stand between spaces. -/
  detached : Bool := false
  deriving DecidableEq, Repr, Inhabited

namespace Format

def keyword (f : Format) (k : Keyword) : String := if f.lowerCase then k.lower else k.upper

def symbol (f : Format) (s : String) : String := if f.detached then " " ++ s ++ " " else s

/-- Any other word in the case of keywords. -/
def word (f : Format) (s : String) : String := if f.lowerCase then Text.lower s else Text.upper s

theorem word_upper (f : Format) (k : Keyword) : f.word k.upper = f.keyword k := by
  unfold word keyword
  split
  · exact k.text_lower
  · exact k.text_upper

end Format
end Listing
