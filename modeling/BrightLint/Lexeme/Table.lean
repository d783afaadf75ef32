import BrightLint.Lexeme.Basic

/-!
The lexemes of BrightScript, in the order in which they are tried: the first rule that reads a
piece wins. A longer sign stands before the signs it starts with, and a reserved phrase before its
first word.
-/

namespace BrightLint

/-- Rules for several signs that count as the same. -/
def signsFor (kind : Kind) (symbol : Symbol) (shift : Int) (texts : List String) : List Rule :=
  texts.map (⟨.sign ·, kind, symbol, shift⟩)

/-- Rules for several words that count as the same. -/
def wordsFor (kind : Kind) (symbol : Symbol) (shift : Int) (texts : List String) : List Rule :=
  texts.map (⟨.word ·, kind, symbol, shift⟩)

/-- Operators, brackets and separators. -/
def signRules : List Rule :=
  signsFor .operator .operator 0 ["+=", "-=", "*=", "/=", "\\=", "<<=", ">>="]
    ++ signsFor .operator .comparison 0 ["<>", ">=", "<=", "=>", "=<"]
    ++ signsFor .operator .operator 0 ["%", ">>", "<<"]
    ++ signsFor .semicolon .semicolon 0 [";"]
    ++ signsFor .atSign .atSign 0 ["@"]
    ++ signsFor .hashSign .hashSign 0 ["#"]
    ++ signsFor .special .dot 0 ["."]
    ++ signsFor .colon .colon 0 [":"]
    ++ signsFor .operator .operator 0 ["^", "&", "\\"]
    ++ signsFor .operator .equals 0 ["="]
    ++ signsFor .operator .minus 0 ["-"]
    ++ signsFor .operator .plus 0 ["+"]
    ++ signsFor .operator .operator 0 ["*", "/"]
    ++ signsFor .operator .comparison 0 ["<", ">"]
    ++ signsFor .openParen .openParen 0 ["("]
    ++ signsFor .closeParen .closeParen 0 [")"]
    ++ signsFor .openSquare .openSquare 0 ["["]
    ++ signsFor .closeSquare .closeSquare 0 ["]"]
    ++ signsFor .openCurly .openCurly 1 ["\x7b"]
    ++ signsFor .closeCurly .closeCurly (-1) ["\x7d"]
    ++ signsFor .special .comma 0 [","]
    ++ signsFor .printWord .printWord 0 ["?"]

/-- Reserved phrases of two words with one space between them. -/
def phraseRules : List Rule :=
  wordsFor .keyword .elseIfWord 2 ["ELSE IF"]
    ++ wordsFor .keyword .endIfWord (-1) ["END IF"]
    ++ wordsFor .keyword .forEachWord 1 ["FOR EACH"]
    ++ wordsFor .keyword .endForWord (-1) ["END FOR"]
    ++ wordsFor .keyword .endWhileWord (-1) ["END WHILE"]
    ++ wordsFor .keyword .exitWord 0 ["EXIT FOR", "EXIT WHILE"]
    ++ wordsFor .endFunctionWord .endFunctionWord (-1) ["END FUNCTION"]
    ++ wordsFor .keyword .endSubWord (-1) ["END SUB"]

/-- The words that open, divide and close statements. -/
def structureRules : List Rule :=
  wordsFor .keyword .ifWord 1 ["IF"]
    ++ wordsFor .keyword .thenWord 0 ["THEN"]
    ++ wordsFor .keyword .elseWord 2 ["ELSE"]
    ++ wordsFor .keyword .elseIfWord 2 ["ELSEIF"]
    ++ wordsFor .keyword .endIfWord (-1) ["ENDIF"]
    ++ wordsFor .keyword .forWord 1 ["FOR"]
    ++ wordsFor .keyword .toWord 0 ["TO"]
    ++ wordsFor .keyword .stepWord 0 ["STEP"]
    ++ wordsFor .keyword .inWord 0 ["IN"]
    ++ wordsFor .keyword .endForWord (-1) ["ENDFOR"]
    ++ wordsFor .keyword .whileWord 1 ["WHILE"]
    ++ wordsFor .keyword .endWhileWord (-1) ["ENDWHILE"]
    ++ wordsFor .keyword .exitWord 0 ["EXIT", "EXITWHILE", "EXITFOR"]
    ++ wordsFor .keyword .gotoWord 0 ["GOTO"]
    ++ wordsFor .functionWord .functionWord 1 ["FUNCTION"]
    ++ wordsFor .endFunctionWord .endFunctionWord (-1) ["ENDFUNCTION"]
    ++ wordsFor .subWord .subWord 1 ["SUB"]
    ++ wordsFor .keyword .endSubWord (-1) ["ENDSUB"]
    ++ wordsFor .keyword .asWord 0 ["AS"]
    ++ wordsFor .keyword .returnWord 0 ["RETURN"]
    ++ wordsFor .printWord .printWord 0 ["PRINT"]
    ++ wordsFor .keyword .endWord (-1) ["END"]
    ++ wordsFor .operator .operator 0 ["MOD"]
    ++ wordsFor .keyword .andWord 0 ["AND"]
    ++ wordsFor .keyword .orWord 0 ["OR"]
    ++ wordsFor .keyword .notWord 0 ["NOT"]

/-- The words for values, types and functions of the language, and those without a use of their
own. -/
def vocabularyRules : List Rule :=
  wordsFor .keyword .value 0 ["TRUE", "FALSE", "INVALID"]
    ++ wordsFor .keyword .typeName 0
      ["VOID", "DYNAMIC", "FLOAT", "DOUBLE", "INTEGER", "LONGINTEGER", "STRING", "BOOLEAN",
       "OBJECT"]
    ++ wordsFor .keyword .builtIn 0
      ["CREATEOBJECT", "TAN", "SQR", "SIN", "SGN", "LOG", "INT", "FIX", "EXP", "CINT", "CDBL",
       "CSNG", "COS", "ATN", "ABS", "SUBSTITUTE", "VAL", "STRINGI", "STRI", "STR", "RIGHT", "LEN",
       "LEFT", "INSTR", "CHR", "LCASE", "UCASE", "FORMATJSON", "PARSEJSON", "WAIT", "SLEEP", "RND",
       "MID", "TYPE", "EVENT", "STOP"]
    ++ wordsFor .assertWord .assertWord 0 ["ASSERTTRUE", "ASSERTFALSE", "ASSERTEQUAL"]
    ++ wordsFor .keyword .keyword 0
      ["GETLASTRUNCOMPILEERROR", "GETLASTRUNRUNTIMEERROR", "GETGLOBALAA", "LINE_NUM", "OBJFUN",
       "TR", "ASC", "RUNGARBAGECOLLECTOR", "STRTOI", "FORMATDRIVE", "CREATEDIRECTORY",
       "DELETEDIRECTORY", "DELETEFILE", "MATCHFILES", "MOVEFILE", "COPYFILE", "WRITEASCIIFILE",
       "READASCIIFILE", "REBOOTSYSTEM", "UPTIME", "GETINTERFACE", "EVAL", "RUN", "BOX",
       "FINDMEMBERFUNCTION", "UNTIL", "ON", "LIBRARY", "GENERATES", "IMPLEMENTS", "INTERFACE",
       "COMPONENT", "DIM", "EACH", "LET", "NEXT", "POS", "TAB"]

/-- The rules that no list of words gives: directives before the comments that they look like. -/
def openRules : List Rule :=
  [⟨.directive, .directive, .directive, 0⟩, ⟨.remark, .comment, .comment, 0⟩,
   ⟨.ident, .ident, .ident, 0⟩, ⟨.quoted, .string, .value, 0⟩, ⟨.number, .number, .value, 0⟩]

/-- All rules in the order in which they are tried. -/
def lexemeRules : List Rule :=
  [⟨.lineFeed, .newLine, .newLine, 0⟩, ⟨.blank, .blank, .blank, 0⟩] ++ signRules ++ phraseRules
    ++ structureRules ++ vocabularyRules ++ openRules

end BrightLint
