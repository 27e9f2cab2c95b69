import PortGrid.Language

/-!
# The names of statuses and languages in a snapshot

Key definitions: `PortStatus.code`, `PortStatus.variants`, `Language.code`, `Language.variants`.
-/

namespace PortGrid

/-- The name of a status in a snapshot. -/
def PortStatus.code : PortStatus → String
  | .normal => "normal"
  | .unused => "unused"
  | .needsCheck => "needsCheck"
  | .unspecified => "unspecified"

def PortStatus.variants : List (String × PortStatus) :=
  PortStatus.all.map fun status => (status.code, status)

/-- The name of a language in a snapshot. -/
def Language.code : Language → String
  | .korean => "ko"
  | .english => "en"

def Language.variants : List (String × Language) :=
  [Language.korean, .english].map fun language => (language.code, language)

end PortGrid
