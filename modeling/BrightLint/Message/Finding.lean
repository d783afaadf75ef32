import BrightLint.Message.Template

/-!
Findings: what the linter can say about a source file. A finding is known by its key and written
by its template, whose last slot is as a rule the number of a line.
-/

namespace BrightLint

/-- A warning leaves a file usable, an error does not. -/
inductive Severity where
  | warning
  | error
deriving DecidableEq, Repr

def Severity.word : Severity → String
  | .warning => "WARNING"
  | .error => "ERROR"

/-- The kinds of findings. -/
inductive Finding where
  | trailingBlank | trailingComma | missingComma | lineLength | fileEncoding | emptyLines
  | capitalVariable | indentWidth | indentTabs | spelling | tracing | todoOnlyFormat | noComments
  | noTypes | typeCapitals | operatorSpacing | parameterSpacing | unmatchedQuote | todoFormat
  | noTodos | declarationSpacing | unmatchedToken | statementUnparsed | programUnparsed
deriving DecidableEq, Repr

namespace Finding

def all : List Finding :=
  [.trailingBlank, .trailingComma, .missingComma, .lineLength, .fileEncoding, .emptyLines,
   .capitalVariable, .indentWidth, .indentTabs, .spelling, .tracing, .todoOnlyFormat, .noComments,
   .noTypes, .typeCapitals, .operatorSpacing, .parameterSpacing, .unmatchedQuote, .todoFormat,
   .noTodos, .declarationSpacing, .unmatchedToken, .statementUnparsed, .programUnparsed]

/-- The key of a finding. -/
def key : Finding → String
  | trailingBlank => "TRAILING_WHITE_SPACE"
  | trailingComma => "TRAILING_COMMA_IN_OBJECTS"
  | missingComma => "COMMAS_IN_OBJECTS"
  | lineLength => "LINE_LENGTH"
  | fileEncoding => "FILE_ENCODING"
  | emptyLines => "CONSECUTIVE_EMPTY_LINES"
  | capitalVariable => "UPPERCASE_VARIABLE"
  | indentWidth => "TAB_INDENTATION_ERROR"
  | indentTabs => "TAB_AND_SPACES"
  | spelling => "TYPO_IN_CODE"
  | tracing => "TRACEABLE_CODE"
  | todoOnlyFormat => "NON_CONVENTIONAL_TODO_AND_NO_COMMENTS"
  | noComments => "COMMENTS_NOT_ALLOWED"
  | noTypes => "NO_RETURN_AND_PARAMETERS_TYPES"
  | typeCapitals => "NOT_CAPITALISED_VARIABLE_NAMES"
  | operatorSpacing => "NO_SPACE_AROUND_OPERATORS = \x7bNO_SPACE_AROUND_OPERATORS"
  | parameterSpacing => "NO_SPACE_BETWEEN_METHOD_AND_PARAMETERS"
  | unmatchedQuote => "UNMATCHED_QUOTATION_MARK"
  | todoFormat => "NON_CONVENTIONAL_TODO"
  | noTodos => "NO_TODOS"
  | declarationSpacing => "METHOD_DECLARATION_SPACING"
  | unmatchedToken => "UNMATCHED_TOKEN"
  | statementUnparsed => "STMT_PARSING_FAILED"
  | programUnparsed => "PROGRAM_PARSING_FAILED"

def severity : Finding → Severity
  | unmatchedQuote | unmatchedToken | statementUnparsed | programUnparsed => .error
  | _ => .warning

/-- The wording of a finding after its severity. -/
def wording : Finding → Template
  | trailingBlank => ["Trailing white space. Line number: ", ""]
  | trailingComma => ["Trailing comma in object literal. Line number: ", ""]
  | missingComma => ["Object literal name value-pair missing comma. Line number: ", ""]
  | lineLength => ["Line length exceeds ", " characters. Line number: ", ""]
  | fileEncoding => ["Your files should conform to ", " encoding"]
  | emptyLines => ["Cannot have more than ", " consecutive empty lines. Line number: ", ""]
  | capitalVariable => ["Variables should begin with a lowercase letter: line number: ", ""]
  | indentWidth => ["Tab indentation should be set to ", " spaces. Line number: ", ""]
  | indentTabs => ["Invalid indentation, you must indent with tabs. Line number: ", ""]
  | spelling => ["You have spelling mistakes in your code. Line number: ", ""]
  | tracing => ["Print statements not allowed. Line number: ", ""]
  | todoOnlyFormat => ["comments must be TODOs and must follow convention. Line number: ", ""]
  | noComments => ["No comments allowed. Line number: ", ""]
  | noTypes => ["No return and parameter types declared. Line number: ", ""]
  | typeCapitals => ["Variable types must be capitalised. Line number: ", ""]
  | operatorSpacing => ["Operators must be surrounded by ", " space(s). Line number: ", ""]
  | parameterSpacing =>
    ["You must put a space between method name and parameter list. Line number: ", ""]
  | unmatchedQuote => ["You have unmatched quotation marks at ", " on line number: ", ""]
  | todoFormat => ["TODOs must follow convention. Line number: ", ""]
  | noTodos => ["comments must not be TODOs. Line number: ", ""]
  | declarationSpacing => ["The spacing on the method declaration is incorrect: ", ""]
  | unmatchedToken => ["Unmatched tokens, expected ", ", but got ", ""]
  | statementUnparsed => ["Parsing statement failed. Line number: ", ""]
  | programUnparsed => ["Parsing program failed. Line number: ", ""]

/-- The template of a finding: its severity, and then its wording. -/
def template (f : Finding) : Template :=
  match f.wording with
  | piece :: rest => (f.severity.word ++ ": " ++ piece) :: rest
  | [] => []

/-- The finding with a given key. -/
def ofKey? (k : String) : Option Finding := all.find? (·.key == k)

end Finding

end BrightLint
