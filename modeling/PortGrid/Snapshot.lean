import PortGrid.Filter
import PortGrid.Language

/-!
# The state that is kept

Everything that outlives a session: the equipment in order, which one is selected, the filter, whether the display
is dark, and the language.

Key definitions: `State`, `State.equipment?`, `State.selected?`, `State.filtered`.
-/

namespace PortGrid

/-- Everything that is kept. -/
structure State where
  equipments : List Equipment := []
  selected : Option EquipmentId := none
  filter : FilterOptions := {}
  isDark : Bool := false
  language : Language := .korean
deriving DecidableEq

namespace State

/-- Nothing but a language. -/
def ofLanguage (language : Language) : State := { language := language }

/-- The first equipment with the identifier. -/
def equipment? (s : State) (id : EquipmentId) : Option Equipment :=
  s.equipments.find? (·.id = id)

/-- The equipment that is selected, if it exists. -/
def selected? (s : State) : Option Equipment :=
  s.selected.bind s.equipment?

/-- The equipment that the filter lets through. -/
def filtered (s : State) : List Equipment :=
  s.filter.select s.equipments

/-- The locations offered for the filter. -/
def locations (s : State) : List String :=
  distinctLocations s.filtered

/-- The types offered for the filter. -/
def kinds (s : State) : List String :=
  distinctKinds s.filtered

end State

end PortGrid
