import PortGrid.Naming.Pattern
import PortGrid.Port

/-!
# Languages and their texts

The texts that a user reads exist in Korean and in English.

Key definitions: `Language`, `Messages`, `Language.messages`, `Messages.describe`.
-/

namespace PortGrid

/-- A language of the user. -/
inductive Language where
  | korean
  | english
deriving DecidableEq

def Language.toggled : Language → Language
  | .korean => .english
  | .english => .korean

/-- The texts of one language. -/
structure Messages where
  portLabel : String
  statusLabel : PortStatus → String
  patternRequired : String
  patternNotRecognized : String
  supportedFormats : String
  formatExamples : List (String × String)

def Messages.korean : Messages where
  portLabel := "포트"
  statusLabel
    | .normal => "정상"
    | .unused => "미사용"
    | .needsCheck => "점검필요"
    | .unspecified => "미지정"
  patternRequired := "이름 패턴을 입력해주세요."
  patternNotRecognized := "패턴을 인식하지 못했습니다. 입력한 형식을 확인해주세요."
  supportedFormats := "지원 형식:"
  formatExamples := [
    ("E1/1", "→ E1/1, E1/2, E1/3... 자동으로 증가"),
    ("E1/1 - 2/24", "→ E1/1부터 E2/24까지 범위 지정"),
    ("E\x7brow\x7d/\x7bcol\x7d", "→ 행/열 번호 자동 치환 (1행1열 → E1/1)")]

def Messages.english : Messages where
  portLabel := "Port"
  statusLabel
    | .normal => "Normal"
    | .unused => "Unused"
    | .needsCheck => "Check Required"
    | .unspecified => "Unspecified"
  patternRequired := "Please enter name pattern."
  patternNotRecognized := "Pattern not recognized. Please check the format you entered."
  supportedFormats := "Supported Formats:"
  formatExamples := [
    ("E1/1", "→ E1/1, E1/2, E1/3... auto increment"),
    ("E1/1 - 2/24", "→ Range from E1/1 to E2/24"),
    ("E\x7brow\x7d/\x7bcol\x7d", "→ Auto replace row/col numbers (row1col1 → E1/1)")]

def Language.messages : Language → Messages
  | .korean => .korean
  | .english => .english

/-- What the user is told when a pattern is refused: a pattern that is not recognized is repeated, and the
supported formats are listed. -/
def Messages.describe (m : Messages) : PatternError → String
  | .empty => m.patternRequired
  | .notRecognized pattern =>
    let examples := m.formatExamples.map fun (sample, meaning) => s!"\n{sample} {meaning}"
    s!"{m.patternNotRecognized}\n\"{pattern}\"\n\n{m.supportedFormats}" ++ String.join examples

end PortGrid
