import Listing.Dictionary

/-! Selectors: what a field of the request stands for in SQL, and which values it takes. -/
namespace Listing

inductive SelectorType where
  | string | number | integer | date | dateTime | boolean
  deriving DecidableEq, Repr

def SelectorType.name : SelectorType → String
  | string => "string"
  | number => "number"
  | integer => "integer"
  | date => "date"
  | dateTime => "date-time"
  | boolean => "boolean"

/-- The values of a column. -/
inductive Domain where
  | any
  | type (t : SelectorType)
  /-- Membership is the only condition. -/
  | oneOf (allowed : List String)
  deriving DecidableEq, Repr

structure Column where
  /-- The SQL expression; the name of the field where there is none. -/
  sql : Option String := none
  /-- The column's name in result rows. -/
  rowName : Option String := none
  domain : Domain := .any
  sortable : Option Bool := none
  deriving DecidableEq, Repr

inductive Selector where
  /-- Nothing but an SQL expression, which is also the column's name in result rows. -/
  | bare (sql : String)
  | record (c : Column)
  deriving DecidableEq, Repr

namespace Selector

/-- A bare selector as a record without conditions. -/
def toColumn : Selector → Column
  | bare sql => { sql := some sql }
  | record c => c

def withRowName (s : Selector) (name : String) : Selector := record { s.toColumn with rowName := some name }

def withSortable (s : Selector) (b : Bool) : Selector := record { s.toColumn with sortable := some b }

def sql? (s : Selector) : Option String := s.toColumn.sql

def rowName? (s : Selector) : Option String := s.toColumn.rowName

def sortable? (s : Selector) : Option Bool := s.toColumn.sortable

def domain (s : Selector) : Domain := s.toColumn.domain

def type? (s : Selector) : Option SelectorType :=
  match s.domain with
  | .type t => some t
  | _ => none

def allowed? (s : Selector) : Option (List String) :=
  match s.domain with
  | .oneOf allowed => some allowed
  | _ => none

def isRecord : Selector → Bool
  | bare _ => false
  | record _ => true

/-- The column of a result row that is looked for before the one with the field's own name. -/
def rowCandidate? : Selector → Option String
  | bare sql => some sql
  | record c => c.rowName

end Selector

/-- The selector of each field. -/
abbrev Selectors := Dictionary Selector

namespace Selectors

/-- The SQL expression of a field: its own name where nothing else is set. -/
def resolve (ss : Selectors) (field : String) : String :=
  ((ss.get? field).bind Selector.sql?).getD field

/-- The record of a field. -/
def record? (ss : Selectors) (field : String) : Option Selector := (ss.get? field).filter (·.isRecord)

def domainOf (ss : Selectors) (field : String) : Domain := ((ss.get? field).map Selector.domain).getD .any

end Selectors
end Listing
