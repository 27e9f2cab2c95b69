import PortGrid.Equipment
import PortGrid.Text.Lowercase
import PortGrid.Text.Search

/-!
# Filtering the list of equipment

A filter holds a text to search for, which may occur in the name, the location or the type in either case, and a
location and a type that must be met exactly. The values offered for a filter are the distinct ones of the
equipment that it lets through, in ascending order of their characters.

Key definitions: `FilterOptions`, `FilterUpdate`, `FilterOptions.merge`, `FilterOptions.accepts`,
`FilterOptions.select`, `distinctValues`.
-/

namespace PortGrid

/-- Which equipment is shown. -/
structure FilterOptions where
  search : String := ""
  location : Option String := none
  kind : Option String := none
deriving DecidableEq

/-- A change of the filter. What is absent stays as it is. -/
structure FilterUpdate where
  search : Option String := none
  location : Option (Option String) := none
  kind : Option (Option String) := none
deriving DecidableEq

/-- Whether the text occurs in the field, upper and lower case being the same. -/
def foundIn (search : String) (field : Option String) : Bool :=
  match field with
  | some value => Text.occursIn (Text.lowerChars search.toList) (Text.lowerChars value.toList)
  | none => false

namespace FilterOptions

/-- Whether the filter asks for anything. -/
def isActive (f : FilterOptions) : Bool :=
  !f.search.isEmpty || f.location.isSome || f.kind.isSome

/-- The filter after a change; an empty location or type asks for none. -/
def merge (f : FilterOptions) (update : FilterUpdate) : FilterOptions where
  search := update.search.getD f.search
  location := (update.location.map (·.filter (!·.isEmpty))).getD f.location
  kind := (update.kind.map (·.filter (!·.isEmpty))).getD f.kind

/-- Whether the searched text occurs in one of the three fields. -/
def searchAccepts (f : FilterOptions) (e : Equipment) : Bool :=
  f.search.isEmpty || foundIn f.search (some e.name) || foundIn f.search e.location || foundIn f.search e.kind

def accepts (f : FilterOptions) (e : Equipment) : Bool :=
  f.searchAccepts e && (f.location.isNone || f.location == e.location) && (f.kind.isNone || f.kind == e.kind)

/-- The equipment that the filter lets through, in the order of the list. -/
def select (f : FilterOptions) (equipments : List Equipment) : List Equipment :=
  equipments.filter f.accepts

end FilterOptions

/-- Puts a value into an ascending list, unless it is there already. -/
def insertDistinct (value : String) : List String → List String
  | [] => [value]
  | v :: vs =>
    if value < v then value :: v :: vs
    else if value = v then v :: vs
    else v :: insertDistinct value vs

/-- The values in ascending order, each once. -/
def distinctValues (values : List String) : List String :=
  values.foldr insertDistinct []

def distinctLocations (equipments : List Equipment) : List String :=
  distinctValues (equipments.filterMap (·.location))

def distinctKinds (equipments : List Equipment) : List String :=
  distinctValues (equipments.filterMap (·.kind))

end PortGrid
