import SnippetCheck.Json.Compound
import SnippetCheck.Json.Skip

namespace SnippetCheck.Json

/-- A field of a record: how its value is read and put into the record. -/
structure Field (α : Type) where
  name : String
  optional : Bool
  read : Reader (α → α)

/-- How a record is written: the name of its type, its fields in order, and what stands in the
fields before they are read. A field that is not optional has to be read. -/
structure Shape (α : Type) where
  name : String
  blank : α
  fields : List (Field α)

namespace Shape

/-- A record in the making and the names of the fields that have been read. -/
structure Draft (α : Type) where
  record : α
  filled : List String

/-- One member of an object. No field may come twice; a member that is no field is passed
over. -/
def member {α : Type} (shape : Shape α) (draft : Draft α) : Reader (Draft α) := do
  let name ← Reader.memberName
  match shape.fields.find? (·.name == name) with
  | none =>
    Reader.colon
    Reader.skipValue
    return draft
  | some field =>
    if draft.filled.contains name then Reader.fail (.duplicateField name)
    else
      Reader.colon
      let fill ← field.read
      return ⟨fill draft.record, name :: draft.filled⟩

/-- A record from its opening brace on, its fields in any order. -/
def object {α : Type} (shape : Shape α) (levels : Nat) : Reader α := do
  let draft ← Reader.members levels shape.member ⟨shape.blank, []⟩
  match shape.fields.find? fun field => !(field.optional || draft.filled.contains field.name) with
  | some field => Reader.fail (.missingField field.name)
  | none =>
    Reader.closeObject
    return draft.record

/-- The values of fields in order, `read` of them before. When the list ends early only optional
fields may be left. -/
def inOrder {α : Type} (expected : String) (record : α) (read : Nat) :
    List (Field α) → Reader α
  | [] => return record
  | field :: rest => do
    if ← (if read = 0 then Reader.hasItem else Reader.hasOtherItem) then
      let fill ← field.read
      inOrder expected (fill record) (read + 1) rest
    else
      match (field :: rest).findIdx? (!·.optional) with
      | some missing => Reader.fail (.wrongLength (read + missing) expected)
      | none => return record

/-- A record from its opening bracket on, as the list of its fields. -/
def array {α : Type} (shape : Shape α) (levels : Nat) : Reader α := do
  Reader.enter levels
  let record ← inOrder s!"struct {shape.name} with {shape.fields.length} elements" shape.blank 0
    shape.fields
  Reader.closeList
  return record

/-- A record in either form. -/
def reader {α : Type} (shape : Shape α) (levels : Nat) : Reader α := do
  let c ← Reader.peekValue
  if c = '[' then shape.array levels
  else if c = '\x7b' then shape.object levels
  else Reader.wrongType s!"struct {shape.name}" c

end Shape
end SnippetCheck.Json
