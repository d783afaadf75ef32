/-!
The lexical kinds: what the style checks and the bookkeeping of brackets look at. The grammar
looks at symbols instead, which are finer for keywords and coarser for values.
-/

namespace BrightLint

/-- The lexical kind of a lexeme. -/
inductive Kind where
  | blank | newLine | operator | special | colon | semicolon | atSign | hashSign
  | openParen | closeParen | openSquare | closeSquare | openCurly | closeCurly
  | keyword | functionWord | endFunctionWord | subWord | printWord | assertWord
  | directive | comment | ident | string | number
deriving DecidableEq, Repr

namespace Kind

/-- Every kind but white space. -/
def named : List Kind :=
  [.newLine, .operator, .special, .colon, .semicolon, .atSign, .hashSign, .openParen, .closeParen,
   .openSquare, .closeSquare, .openCurly, .closeCurly, .keyword, .functionWord, .endFunctionWord,
   .subWord, .printWord, .assertWord, .directive, .comment, .ident, .string, .number]

/-- The name of a kind. White space has none. -/
def name : Kind → String
  | blank => ""
  | newLine => "NEW_LINE"
  | operator => "OPERATOR"
  | special => "SPECIAL_OPERATOR"
  | colon => "COLON"
  | semicolon => "SEMI_COLON"
  | atSign => "AT_SYMBOL"
  | hashSign => "HASH_SYMBOL"
  | openParen => "OPEN_PARENTHESIS"
  | closeParen => "CLOSE_PARENTHESIS"
  | openSquare => "OPEN_SQUARE_BRACKET"
  | closeSquare => "CLOSE_SQUARE_BRACKET"
  | openCurly => "OPEN_CURLY_BRACKET"
  | closeCurly => "CLOSE_CURLY_BRACKET"
  | keyword => "KEYWORD"
  | functionWord => "FUNCTION"
  | endFunctionWord => "END_FUNCTION_TOKEN"
  | subWord => "SUB"
  | printWord => "PRINT_KEYWORD"
  | assertWord => "ASSERT"
  | directive => "BSLINT_COMMAND"
  | comment => "COMMENT"
  | ident => "ID"
  | string => "STRING"
  | number => "NUMERIC"

/-- The kind with a given name. -/
def ofName? (n : String) : Option Kind := named.find? (·.name == n)

end Kind

end BrightLint
