/-!
The symbols of the grammar of BrightScript: what a lexeme counts as (words) and what words are
reduced to (phrases). Any other name is kept as a symbol that no production mentions.

* `Symbol.name`: the name of a symbol in reports
* `Symbol.weight`: the measure that every production lowers
-/

namespace BrightLint

/-- A symbol of the grammar. -/
inductive Symbol where
  | blank | newLine | operator | comparison | equals | plus | minus | semicolon | colon | comma | dot
  | atSign | hashSign | openParen | closeParen | openSquare | closeSquare | openCurly | closeCurly
  | ident | value | typeName | keyword | builtIn | assertWord | comment | directive | ifWord
  | thenWord | elseWord | elseIfWord | endIfWord | forWord | forEachWord | toWord | stepWord
  | inWord | endForWord | whileWord | endWhileWord | exitWord | gotoWord | functionWord
  | endFunctionWord | subWord | endSubWord | asWord | returnWord | printWord | endWord | andWord
  | orWord | notWord
  | condition | assignment | call | param | argument | printArgument | arrayArgument | entry
  | collection | functionHead | anonymousHead | anonymousFunction | ifHead | ifBlock | elseIfHead
  | elseIfBlock | elseHead | forHead | forEachHead | whileHead | printing | returning | exiting
  | endIf | endFor | endWhile | endFunction | ending | block
  | other (label : String)
deriving DecidableEq, Repr

namespace Symbol

/-- The words: what a lexeme can count as, white space apart. -/
def words : List Symbol :=
  [.newLine, .operator, .comparison, .equals, .plus, .minus, .semicolon, .colon, .comma, .dot,
   .atSign, .hashSign, .openParen, .closeParen, .openSquare, .closeSquare, .openCurly,
   .closeCurly, .ident, .value, .typeName, .keyword, .builtIn, .assertWord, .comment, .directive,
   .ifWord, .thenWord, .elseWord, .elseIfWord, .endIfWord, .forWord, .forEachWord, .toWord,
   .stepWord, .inWord, .endForWord, .whileWord, .endWhileWord, .exitWord, .gotoWord,
   .functionWord, .endFunctionWord, .subWord, .endSubWord, .asWord, .returnWord, .printWord,
   .endWord, .andWord, .orWord, .notWord]

/-- The phrases: what words are reduced to. -/
def phrases : List Symbol :=
  [.condition, .assignment, .call, .param, .argument, .printArgument, .arrayArgument, .entry,
   .collection, .functionHead, .anonymousHead, .anonymousFunction, .ifHead, .ifBlock, .elseIfHead,
   .elseIfBlock, .elseHead, .forHead, .forEachHead, .whileHead, .printing, .returning, .exiting,
   .endIf, .endFor, .endWhile, .endFunction, .ending, .block]

/-- The name of a symbol. White space has none. -/
def name : Symbol → String
  | blank => ""
  | newLine => "NEW_LINE"
  | operator => "OPERATOR"
  | comparison => "COMPARISON_OPERATOR"
  | equals => "EQUALS"
  | plus => "PLUS"
  | minus => "MINUS"
  | semicolon => "SEMI_COLON"
  | colon => "COLON"
  | comma => "COMMA"
  | dot => "DOT"
  | atSign => "AT_SYMBOL"
  | hashSign => "HASH_SYMBOL"
  | openParen => "OPEN_PARENTHESIS"
  | closeParen => "CLOSE_PARENTHESIS"
  | openSquare => "OPEN_SQUARE_BRACKET"
  | closeSquare => "CLOSE_SQUARE_BRACKET"
  | openCurly => "OPEN_CURLY_BRACKET"
  | closeCurly => "CLOSE_CURLY_BRACKET"
  | ident => "ID"
  | value => "VALUE"
  | typeName => "TYPE"
  | keyword => "KEYWORD"
  | builtIn => "BUILT_IN_FUNCTION"
  | assertWord => "ASSERT"
  | comment => "COMMENT"
  | directive => "BSLINT_COMMAND"
  | ifWord => "IF"
  | thenWord => "THEN"
  | elseWord => "ELSE"
  | elseIfWord => "ELSE_IF"
  | endIfWord => "END_IF_TOKEN"
  | forWord => "FOR"
  | forEachWord => "FOR_EACH"
  | toWord => "TO"
  | stepWord => "STEP"
  | inWord => "IN"
  | endForWord => "END_FOR_TOKEN"
  | whileWord => "WHILE"
  | endWhileWord => "END_WHILE_TOKEN"
  | exitWord => "EXIT"
  | gotoWord => "GOTO"
  | functionWord => "FUNCTION"
  | endFunctionWord => "END_FUNCTION_TOKEN"
  | subWord => "SUB"
  | endSubWord => "END_SUB_TOKEN"
  | asWord => "AS"
  | returnWord => "RETURN"
  | printWord => "PRINT_KEYWORD"
  | endWord => "END_TOKEN"
  | andWord => "AND"
  | orWord => "OR"
  | notWord => "NOT"
  | condition => "CONDITION"
  | assignment => "VAR_AS"
  | call => "FUNCTION_CALL"
  | param => "PARAM"
  | argument => "ARGUMENT"
  | printArgument => "PRINT_ARGUMENT"
  | arrayArgument => "ARRAY_ARGUMENT"
  | entry => "ASSOCIATIVE_ARRAY_ARGUMENT"
  | collection => "ENUMERABLE_OBJECT"
  | functionHead => "FUNCTION_DECLARATION"
  | anonymousHead => "ANONYMOUS_FUNCTION_DECLARATION"
  | anonymousFunction => "ANONYMOUS_FUNCTION_BLOCK"
  | ifHead => "IF_STMT"
  | ifBlock => "IF_BLOCK"
  | elseIfHead => "ELSE_IF_STMT"
  | elseIfBlock => "ELSE_IF_BLOCK"
  | elseHead => "ELSE_STMT"
  | forHead => "FOR_STMT"
  | forEachHead => "FOR_EACH_STMT"
  | whileHead => "WHILE_STMT"
  | printing => "PRINT_STMT"
  | returning => "RETURN_STMT"
  | exiting => "EXIT_STMT"
  | endIf => "END_IF"
  | endFor => "END_FOR"
  | endWhile => "END_WHILE"
  | endFunction => "END_FUNCTION"
  | ending => "END"
  | block => "BLOCK_STMT"
  | other label => label

/-- The symbol with a given name. -/
def ofName (n : String) : Symbol := ((words ++ phrases).find? (·.name == n)).getD (other n)

/-- What a symbol weighs. A production with one symbol on its right gives a lighter one, and two
symbols weigh more than any one, so every reduction makes a statement lighter. -/
def weight : Symbol → Nat
  | returnWord | exitWord => 5
  | returning | exiting | printing | call | assignment | ifBlock | elseWord
  | endIfWord | endForWord | endWhileWord | endFunctionWord | endSubWord | endWord => 4
  | _ => 3

end Symbol

end BrightLint
