import Markbook.Decimal.Layout

/-!
# What a mark book refuses

* `BookError` — the causes.
* `BookError.message` — their wording.
-/

namespace Markbook

/-- Why a mark book refuses a change, a file or a calculation. -/
inductive BookError where
  /-- Two items have names that differ in white space only. -/
  | duplicateItem (name : String)
  | duplicateCategory (name : String)
  | duplicateStudent (id : String)
  | unknownCategory (item category : String)
  | unknownStudent (id : String)
  /-- No item of this name takes marks. -/
  | unknownItem (name : String)
  /-- The maximum of an item must be positive and finite. -/
  | invalidOutOf (item : String) (value : Float)
  /-- A weight must be finite and must not be negative. -/
  | invalidWeight (name : String) (value : Float)
  /-- Nothing is left of the name without its white space. -/
  | blankName
  /-- A strict calculation met a problem in a formula. -/
  | formula (detail : String)
  /-- The text is not the text of a mark book. -/
  | malformedFile

/-- The message for an error. -/
def BookError.message : BookError → String
  | duplicateItem name => "Grade item already exists: " ++ name
  | duplicateCategory name => "Category already exists: " ++ name
  | duplicateStudent id => "Student already exists: " ++ id
  | unknownCategory item category =>
    "Grade item '" ++ item ++ "' refers to unknown category '" ++ category ++ "'"
  | unknownStudent id => "Student not found: " ++ id
  | unknownItem name => "Scored grade item not found: " ++ name
  | invalidOutOf item value => "Invalid out-of value for '" ++ item ++ "': " ++ printScore value
  | invalidWeight name value => "Invalid weight for '" ++ name ++ "': " ++ printScore value
  | blankName => "Grade item name must not be blank"
  | formula detail => "Formula error: " ++ detail
  | malformedFile => "Invalid gradebook file"

end Markbook
