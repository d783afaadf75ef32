import BrightLint.Message.Template

/-!
Notices: the lines of a report on the terminal, each in its colour.
-/

namespace BrightLint

/-- The ways in which a notice is shown. -/
inductive Colour where
  | yellow | green | red | underlined | magenta | violet
deriving DecidableEq, Repr

/-- The control sequence that switches a colour on. -/
def Colour.code : Colour → String
  | .yellow => "\x1b[93m"
  | .green => "\x1b[92m"
  | .red => "\x1b[91m"
  | .underlined => "\x1b[34;4m"
  | .magenta => "\x1b[95m"
  | .violet => "\x1b[35m"

/-- The control sequence that switches every colour off. -/
def Colour.off : String := "\x1b[0m"

/-- The kinds of notices. -/
inductive Notice where
  | noSuchPath | complete | allCorrect | noManifest | noSettings | unreadableSettings
  | totalWarnings | totalErrors | warningsInFile | description | warning | error | fileName
  | unknownSetting
deriving DecidableEq, Repr

namespace Notice

def all : List Notice :=
  [.noSuchPath, .complete, .allCorrect, .noManifest, .noSettings, .unreadableSettings,
   .totalWarnings, .totalErrors, .warningsInFile, .description, .warning, .error, .fileName,
   .unknownSetting]

/-- The key of a notice. -/
def key : Notice → String
  | noSuchPath => "PATH_DOSNT_EXIST"
  | complete => "LINTING_COMPLETE"
  | allCorrect => "ALL_LINTED_CORRECTLY"
  | noManifest => "NO_MANIFEST"
  | noSettings => "NO_BSLINTRC"
  | unreadableSettings => "CANNOT_PARSE_BSLINTRC"
  | totalWarnings => "TOTAL_WARNINGS"
  | totalErrors => "TOTAL_ERRORS"
  | warningsInFile => "WARNINGS_IN_FILE"
  | description => "DESCRIPTION"
  | warning => "WARNINGS"
  | error => "ERRORS"
  | fileName => "FILE_NAME"
  | unknownSetting => "BSLINTRC_KEY_DOSNT_EXIST"

def colour : Notice → Colour
  | noSuchPath | noManifest | noSettings | unreadableSettings | error | unknownSetting => .red
  | complete | fileName => .underlined
  | allCorrect => .green
  | totalWarnings | totalErrors | warningsInFile => .violet
  | description => .magenta
  | warning => .yellow

/-- The wording of a notice inside its colour. -/
def wording : Notice → Template
  | noSuchPath => ["The path you have provided does not exist."]
  | complete => ["LINTING COMPLETE"]
  | allCorrect => ["All linted correctly"]
  | noManifest => ["No manifest file found"]
  | noSettings => ["Cannot find bslintrc, using default config."]
  | unreadableSettings => ["Unable to parse JSON in .bslintrc file"]
  | totalWarnings => ["TOTAL WARNINGS: ", ""]
  | totalErrors => ["FILES WITH ERRORS: ", ""]
  | warningsInFile => ["WARNINGS IN FILE: ", ""]
  | description => ["BSLint: A linter for BrightScript."]
  | warning => ["", ""]
  | error => ["", ""]
  | fileName => ["", ""]
  | unknownSetting => ["Bslintrc key doesn't exist: ", ""]

/-- What stands before the colour: the name of a file starts its line anew. -/
def before : Notice → String
  | fileName => "\r"
  | _ => ""

/-- What stands after the colour: an empty line sets off the count of a file. -/
def after : Notice → String
  | warningsInFile => "\n"
  | _ => ""

/-- Adds a text at the end of a template. -/
def closeWith (ending : String) : Template → Template
  | [] => [ending]
  | [piece] => [piece ++ ending]
  | piece :: rest => piece :: closeWith ending rest

/-- The template of a notice. -/
def template (n : Notice) : Template :=
  match closeWith (Colour.off ++ n.after) n.wording with
  | piece :: rest => (n.before ++ n.colour.code ++ piece) :: rest
  | [] => []

/-- The notice with a given key. -/
def ofKey? (k : String) : Option Notice := all.find? (·.key == k)

/-- A notice as a line of the report. -/
def line (n : Notice) (params : List String) : String := n.template.fill params ++ "\n"

end Notice

end BrightLint
