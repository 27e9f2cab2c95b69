import PortGrid.Json.Skip

/-!
# Records in JSON text

A record is written as an object with its fields as members, in any order and among others that are skipped, or as
a list of its fields in their own order. While it is read, the fields found so far are kept in a draft; at the end
the draft is made into the record, or the first field that is missing is reported.

Key definitions: `Field`, `Shape`, `Shape.read`.
-/

namespace PortGrid.Json

/-- A field of a record that is read into a draft. -/
structure Field (δ : Type) where
  name : String
  /-- Whether the draft has the field already. -/
  isFilled : δ → Bool
  /-- Reads the value of the field into the draft. -/
  read : δ → Reader δ
  /-- Whether the field may be left out of a list. -/
  isOptional : Bool := false

/-- How a record is read: its name in messages, its fields, the empty draft and the way from a draft to a record. -/
structure Shape (δ ρ : Type) where
  name : String
  fields : List (Field δ)
  empty : δ
  finish : δ → Except Fault ρ

/-- A field that must be there. -/
def required {α : Type} (name : String) : Option α → Except Fault α
  | some x => .ok x
  | none => .error (.missingField name)

namespace Shape

variable {δ ρ : Type}

/-- Goes to the next member of an object, if there is one. -/
def nextMember (isFirst : Bool) : Reader Bool := do
  match ← Reader.peek with
  | none => Reader.fail .endOfObject
  | some c =>
    if c = '}' then return false
    else if isFirst then
      if c = '"' then return true else Reader.fail .keyNotText
    else if c = ',' then
      Reader.advance
      match ← Reader.peek with
      | some '"' => return true
      | some '}' => Reader.fail .trailingComma
      | some _ => Reader.fail .keyNotText
      | none => Reader.fail .endOfValue
    else Reader.fail .expectedObjectEnd

/-- Takes the member with the given name into the draft, or skips it. A field that the draft has already is refused
before its value is read. -/
def member (fields : List (Field δ)) (name : String) (draft : δ) : Reader δ := do
  match fields.find? (·.name = name) with
  | some field =>
    if field.isFilled draft then Reader.fail (.duplicateField name)
    else
      Reader.colon
      field.read draft
  | none =>
    Reader.colon
    Reader.skip
    return draft

/-- Takes the members of an object and its end, of which there are no more than the count says. -/
def members (fields : List (Field δ)) : Nat → Bool → δ → Reader δ
  | 0, _, _ => Reader.fail .endOfObject
  | count + 1, isFirst, draft => do
    if ← nextMember isFirst then
      Reader.advance
      let name ← Reader.chars
      members fields count false (← member fields name draft)
    else
      Reader.advance
      return draft

/-- The name of the shape with its number of fields. -/
def sizedName (shape : Shape δ ρ) : String :=
  s!"{shape.name} with {shape.fields.length} elements"

/-- Takes the fields from `index` on from the elements of a list. -/
def positions (shape : Shape δ ρ) : Nat → List (Field δ) → Bool → δ → Reader δ
  | _, [], _, draft => return draft
  | index, field :: fields, isFirst, draft => do
    if ← Reader.nextElement isFirst then
      shape.positions (index + 1) fields false (← field.read draft)
    else if field.isOptional then shape.positions (index + 1) fields isFirst draft
    else Reader.fail (.wrongLength index shape.sizedName)

def complete (shape : Shape δ ρ) (draft : δ) : Reader ρ := fun cs => (shape.finish draft).map (·, cs)

def read (shape : Shape δ ρ) : Reader ρ := do
  match ← Reader.peek with
  | some '{' =>
    Reader.advance
    shape.complete (← members shape.fields ((← get).length + 1) true shape.empty)
  | some '[' =>
    Reader.advance
    let draft ← shape.positions 0 shape.fields true shape.empty
    Reader.closeList
    shape.complete draft
  | some _ => Reader.wrongKind shape.name
  | none => Reader.fail .endOfValue

end Shape

end PortGrid.Json
