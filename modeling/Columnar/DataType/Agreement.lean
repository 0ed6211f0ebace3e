import Columnar.DataType

/-!
When two types are the same but for what their fields say of dictionaries: `DataType.agrees`. Which
dictionary a field refers to is a matter of the file that holds it, and not of its values.
-/
namespace Columnar

mutual

/-- The type with no dictionary named in it. -/
def DataType.anonymous : DataType → DataType
  | .list item => .list item.anonymous
  | .fixedSizeList item size => .fixedSizeList item.anonymous size
  | .largeList item => .largeList item.anonymous
  | .struct fields => .struct (Field.anonymousAll fields)
  | .union members mode => .union (Field.anonymousMembers members) mode
  | .dictionary key value => .dictionary key.anonymous value.anonymous
  | .map entries sorted => .map entries.anonymous sorted
  | .runEndEncoded ends values => .runEndEncoded ends.anonymous values.anonymous
  | type => type

def Field.anonymous : Field → Field
  | ⟨name, dataType, nullable, _, _, metadata⟩ =>
    ⟨name, dataType.anonymous, nullable, 0, false, metadata⟩

def Field.anonymousAll : List Field → List Field
  | [] => []
  | field :: rest => field.anonymous :: Field.anonymousAll rest

def Field.anonymousMembers : List (Int × Field) → List (Int × Field)
  | [] => []
  | (id, field) :: rest => (id, field.anonymous) :: Field.anonymousMembers rest

end

/-- Whether two types are the same, whichever dictionaries their fields refer to. -/
def DataType.agrees (first second : DataType) : Bool :=
  first.anonymous == second.anonymous

end Columnar
