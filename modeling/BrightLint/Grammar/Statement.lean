import BrightLint.Grammar.Production

/-!
The grammar of a single statement. Its levels go from what binds closest (calls and members) to
whole statements; a level is tried only where no earlier one applies.
-/

namespace BrightLint.Grammar

/-- Closing words, calls, members and objects. -/
def calls : Level :=
  [(.endForWord, [⟨[.endForWord], .endFor⟩]),
   (.endIfWord, [⟨[.endIfWord], .endIf⟩]),
   (.endWhileWord, [⟨[.endWhileWord], .endWhile⟩]),
   (.endSubWord, [⟨[.endSubWord], .endFunction⟩]),
   (.endFunctionWord, [⟨[.endFunctionWord], .endFunction⟩]),
   (.endWord, [⟨[.endWord], .ending⟩]),
   (.returnWord, [⟨[.returnWord], .returning⟩]),
   (.exitWord, [⟨[.exitWord], .exiting⟩]),
   (.elseWord, [⟨[.elseWord], .elseHead⟩]),
   (.closeParen,
     [⟨[.ident, .openParen, .closeParen], .call⟩,
      ⟨[.ident, .openParen, .value, .closeParen], .call⟩,
      ⟨[.ident, .openParen, .ident, .closeParen], .call⟩,
      ⟨[.ident, .openParen, .assignment, .closeParen], .call⟩,
      ⟨[.ident, .openParen, .call, .closeParen], .call⟩,
      ⟨[.ident, .openParen, .param, .closeParen], .call⟩,
      ⟨[.ident, .openParen, .argument, .closeParen], .call⟩,
      ⟨[.ident, .openParen, .collection, .closeParen], .call⟩,
      ⟨[.ident, .openParen, .value, .argument, .closeParen], .call⟩,
      ⟨[.builtIn, .openParen, .param, .closeParen], .call⟩,
      ⟨[.builtIn, .openParen, .closeParen], .call⟩,
      ⟨[.builtIn, .openParen, .value, .closeParen], .call⟩,
      ⟨[.builtIn, .openParen, .ident, .closeParen], .call⟩,
      ⟨[.builtIn, .openParen, .call, .closeParen], .call⟩,
      ⟨[.builtIn, .openParen, .argument, .closeParen], .call⟩,
      ⟨[.builtIn, .openParen, .call, .argument, .closeParen], .call⟩,
      ⟨[.builtIn, .openParen, .collection, .closeParen], .call⟩,
      ⟨[.openParen, .value, .closeParen], .ident⟩,
      ⟨[.assertWord, .openParen, .condition, .closeParen], .call⟩,
      ⟨[.assertWord, .openParen, .call, .closeParen], .call⟩,
      ⟨[.assertWord, .openParen, .argument, .closeParen], .call⟩]),
   (.collection, [⟨[.ident, .collection], .ident⟩]),
   (.ident, [⟨[.ident, .dot, .ident], .ident⟩, ⟨[.call, .dot, .ident], .ident⟩]),
   (.call, [⟨[.call, .dot, .call], .call⟩, ⟨[.ident, .dot, .call], .call⟩]),
   (.closeCurly,
     [⟨[.openCurly, .closeCurly], .collection⟩,
      ⟨[.openCurly, .entry, .closeCurly], .collection⟩]),
   (.builtIn, [⟨[.ident, .dot, .builtIn], .ident⟩]),
   (.keyword, [⟨[.ident, .dot, .keyword], .ident⟩])]

/-- Arrays. -/
def arrays : Level :=
  [(.closeSquare,
     [⟨[.openSquare, .closeSquare], .collection⟩,
      ⟨[.openSquare, .value, .closeSquare], .collection⟩,
      ⟨[.openSquare, .ident, .closeSquare], .collection⟩,
      ⟨[.openSquare, .call, .closeSquare], .collection⟩,
      ⟨[.openSquare, .collection, .closeSquare], .collection⟩,
      ⟨[.openSquare, .argument, .closeSquare], .collection⟩]),
   (.call,
     [⟨[.openParen, .value, .closeParen, .dot, .call], .call⟩,
      ⟨[.collection, .dot, .call], .call⟩])]

/-- Arithmetic and the entries of objects. -/
def arithmetic : Level :=
  [(.ident,
     [⟨[.ident, .colon, .ident], .entry⟩, ⟨[.keyword, .colon, .ident], .entry⟩,
      ⟨[.builtIn, .colon, .ident], .entry⟩, ⟨[.ident, .operator, .ident], .value⟩,
      ⟨[.value, .operator, .ident], .value⟩, ⟨[.call, .operator, .ident], .value⟩,
      ⟨[.value, .colon, .ident], .entry⟩, ⟨[.notWord, .ident], .value⟩,
      ⟨[.ident, .plus, .ident], .value⟩, ⟨[.ident, .plus, .plus, .ident], .value⟩,
      ⟨[.ident, .plus, .minus, .ident], .value⟩, ⟨[.value, .plus, .ident], .value⟩,
      ⟨[.value, .plus, .plus, .ident], .value⟩, ⟨[.value, .plus, .minus, .ident], .value⟩,
      ⟨[.call, .plus, .ident], .value⟩, ⟨[.call, .plus, .plus, .ident], .value⟩,
      ⟨[.call, .plus, .minus, .ident], .value⟩, ⟨[.ident, .minus, .plus, .ident], .value⟩,
      ⟨[.value, .minus, .plus, .ident], .value⟩, ⟨[.call, .minus, .plus, .ident], .value⟩,
      ⟨[.whileWord, .plus, .ident], .whileHead⟩, ⟨[.ident, .minus, .ident], .value⟩,
      ⟨[.ident, .minus, .minus, .ident], .value⟩, ⟨[.value, .minus, .ident], .value⟩,
      ⟨[.value, .minus, .minus, .ident], .value⟩, ⟨[.call, .minus, .ident], .value⟩,
      ⟨[.call, .minus, .minus, .ident], .value⟩, ⟨[.whileWord, .minus, .ident], .whileHead⟩,
      ⟨[.minus, .ident], .value⟩, ⟨[.plus, .ident], .value⟩]),
   (.call,
     [⟨[.ident, .colon, .call], .entry⟩, ⟨[.keyword, .colon, .call], .entry⟩,
      ⟨[.builtIn, .colon, .call], .entry⟩, ⟨[.ident, .operator, .call], .value⟩,
      ⟨[.value, .operator, .call], .value⟩, ⟨[.call, .operator, .call], .value⟩,
      ⟨[.value, .colon, .call], .entry⟩, ⟨[.value, .plus, .call], .value⟩,
      ⟨[.ident, .plus, .call], .value⟩, ⟨[.ident, .plus, .plus, .call], .value⟩,
      ⟨[.ident, .plus, .minus, .call], .value⟩, ⟨[.value, .plus, .call], .value⟩,
      ⟨[.value, .plus, .plus, .call], .value⟩, ⟨[.value, .plus, .minus, .call], .value⟩,
      ⟨[.call, .plus, .call], .value⟩, ⟨[.call, .plus, .plus, .call], .value⟩,
      ⟨[.call, .plus, .minus, .call], .value⟩, ⟨[.ident, .minus, .plus, .call], .value⟩,
      ⟨[.value, .minus, .plus, .call], .value⟩, ⟨[.call, .minus, .plus, .call], .value⟩,
      ⟨[.whileWord, .plus, .call], .whileHead⟩, ⟨[.ident, .minus, .call], .value⟩,
      ⟨[.ident, .minus, .minus, .call], .value⟩, ⟨[.value, .minus, .call], .value⟩,
      ⟨[.value, .minus, .minus, .call], .value⟩, ⟨[.call, .minus, .call], .value⟩,
      ⟨[.call, .minus, .minus, .call], .value⟩, ⟨[.whileWord, .minus, .call], .whileHead⟩]),
   (.anonymousFunction,
     [⟨[.ident, .colon, .anonymousFunction], .entry⟩,
      ⟨[.value, .colon, .anonymousFunction], .entry⟩,
      ⟨[.keyword, .colon, .anonymousFunction], .entry⟩,
      ⟨[.builtIn, .colon, .anonymousFunction], .entry⟩]),
   (.value,
     [⟨[.ident, .colon, .value], .entry⟩, ⟨[.value, .colon, .value], .entry⟩,
      ⟨[.keyword, .colon, .value], .entry⟩, ⟨[.builtIn, .colon, .value], .entry⟩,
      ⟨[.value, .operator, .value], .value⟩, ⟨[.ident, .operator, .value], .value⟩,
      ⟨[.call, .operator, .value], .value⟩, ⟨[.value, .plus, .value], .value⟩,
      ⟨[.value, .plus, .plus, .value], .value⟩, ⟨[.value, .plus, .minus, .value], .value⟩,
      ⟨[.call, .plus, .value], .value⟩, ⟨[.ident, .plus, .value], .value⟩,
      ⟨[.ident, .plus, .plus, .value], .value⟩, ⟨[.ident, .plus, .minus, .value], .value⟩,
      ⟨[.call, .plus, .value], .value⟩, ⟨[.call, .plus, .plus, .value], .value⟩,
      ⟨[.call, .plus, .minus, .value], .value⟩, ⟨[.value, .minus, .plus, .value], .value⟩,
      ⟨[.ident, .minus, .plus, .value], .value⟩, ⟨[.call, .minus, .plus, .value], .value⟩,
      ⟨[.whileWord, .plus, .value], .whileHead⟩, ⟨[.value, .minus, .value], .value⟩,
      ⟨[.value, .minus, .minus, .value], .value⟩, ⟨[.ident, .minus, .value], .value⟩,
      ⟨[.ident, .minus, .minus, .value], .value⟩, ⟨[.call, .minus, .value], .value⟩,
      ⟨[.call, .minus, .minus, .value], .value⟩, ⟨[.whileWord, .minus, .value], .whileHead⟩,
      ⟨[.minus, .value], .value⟩, ⟨[.plus, .value], .value⟩]),
   (.collection,
     [⟨[.ident, .colon, .collection], .entry⟩, ⟨[.value, .colon, .collection], .entry⟩,
      ⟨[.keyword, .colon, .collection], .entry⟩, ⟨[.builtIn, .colon, .collection], .entry⟩])]

/-- Assignments and equalities. -/
def assignments : Level :=
  [(.value,
     [⟨[.ident, .equals, .value], .assignment⟩, ⟨[.ident, .equals, .minus, .value], .assignment⟩,
      ⟨[.ident, .equals, .plus, .value], .assignment⟩, ⟨[.value, .equals, .value], .condition⟩,
      ⟨[.call, .equals, .value], .condition⟩, ⟨[.anonymousHead, .equals, .value], .condition⟩,
      ⟨[.elseIfWord, .call, .equals, .value], .elseIfHead⟩]),
   (.collection, [⟨[.ident, .equals, .collection], .assignment⟩]),
   (.call,
     [⟨[.ident, .equals, .call], .assignment⟩, ⟨[.ident, .equals, .minus, .call], .assignment⟩,
      ⟨[.ident, .equals, .plus, .call], .assignment⟩, ⟨[.value, .equals, .call], .condition⟩,
      ⟨[.call, .equals, .call], .condition⟩, ⟨[.anonymousHead, .equals, .call], .condition⟩]),
   (.ident,
     [⟨[.ident, .equals, .ident], .assignment⟩, ⟨[.ident, .equals, .minus, .ident], .assignment⟩,
      ⟨[.ident, .equals, .plus, .ident], .assignment⟩, ⟨[.value, .equals, .ident], .condition⟩,
      ⟨[.call, .equals, .ident], .condition⟩, ⟨[.anonymousHead, .equals, .ident], .condition⟩]),
   (.anonymousFunction, [⟨[.ident, .equals, .anonymousFunction], .assignment⟩])]

/-- Lists of arguments, and comparisons. -/
def arguments : Level :=
  [(.ident,
     [⟨[.ident, .comma, .ident], .argument⟩, ⟨[.value, .comma, .ident], .argument⟩,
      ⟨[.call, .comma, .ident], .argument⟩, ⟨[.assignment, .comma, .ident], .argument⟩,
      ⟨[.argument, .comma, .ident], .argument⟩,
      ⟨[.printArgument, .comma, .ident], .printArgument⟩,
      ⟨[.collection, .comma, .ident], .argument⟩, ⟨[.param, .comma, .ident], .argument⟩,
      ⟨[.printing, .comma, .ident], .printing⟩, ⟨[.value, .comparison, .ident], .condition⟩,
      ⟨[.ident, .comparison, .ident], .condition⟩, ⟨[.call, .comparison, .ident], .condition⟩,
      ⟨[.anonymousHead, .comparison, .ident], .condition⟩,
      ⟨[.value, .comparison, .minus, .ident], .condition⟩,
      ⟨[.ident, .comparison, .minus, .ident], .condition⟩,
      ⟨[.call, .comparison, .minus, .ident], .condition⟩,
      ⟨[.anonymousHead, .minus, .comparison, .ident], .condition⟩]),
   (.value,
     [⟨[.ident, .comma, .value], .argument⟩, ⟨[.value, .comma, .value], .argument⟩,
      ⟨[.call, .comma, .value], .argument⟩, ⟨[.assignment, .comma, .value], .argument⟩,
      ⟨[.argument, .comma, .value], .argument⟩,
      ⟨[.printArgument, .comma, .value], .printArgument⟩,
      ⟨[.collection, .comma, .value], .argument⟩, ⟨[.param, .comma, .value], .argument⟩,
      ⟨[.printing, .comma, .value], .printing⟩, ⟨[.value, .comparison, .value], .condition⟩,
      ⟨[.ident, .comparison, .value], .condition⟩, ⟨[.call, .comparison, .value], .condition⟩,
      ⟨[.anonymousHead, .comparison, .value], .condition⟩,
      ⟨[.value, .comparison, .minus, .value], .condition⟩,
      ⟨[.ident, .comparison, .minus, .value], .condition⟩,
      ⟨[.call, .comparison, .minus, .value], .condition⟩,
      ⟨[.anonymousHead, .comparison, .minus, .value], .condition⟩]),
   (.call,
     [⟨[.ident, .comma, .call], .argument⟩, ⟨[.value, .comma, .call], .argument⟩,
      ⟨[.call, .comma, .call], .argument⟩, ⟨[.assignment, .comma, .call], .argument⟩,
      ⟨[.argument, .comma, .call], .argument⟩, ⟨[.printArgument, .comma, .call], .printArgument⟩,
      ⟨[.collection, .comma, .call], .argument⟩, ⟨[.param, .comma, .call], .argument⟩,
      ⟨[.printing, .comma, .call], .printing⟩, ⟨[.value, .comparison, .call], .condition⟩,
      ⟨[.ident, .comparison, .call], .condition⟩, ⟨[.call, .comparison, .call], .condition⟩,
      ⟨[.anonymousHead, .comparison, .call], .condition⟩,
      ⟨[.value, .comparison, .minus, .call], .condition⟩,
      ⟨[.ident, .comparison, .minus, .call], .condition⟩,
      ⟨[.call, .comparison, .minus, .call], .condition⟩,
      ⟨[.anonymousHead, .comparison, .minus, .call], .condition⟩]),
   (.assignment,
     [⟨[.ident, .comma, .assignment], .argument⟩, ⟨[.value, .comma, .assignment], .argument⟩,
      ⟨[.call, .comma, .assignment], .argument⟩, ⟨[.assignment, .comma, .assignment], .argument⟩,
      ⟨[.argument, .comma, .assignment], .argument⟩,
      ⟨[.printArgument, .comma, .assignment], .printArgument⟩,
      ⟨[.collection, .comma, .assignment], .argument⟩,
      ⟨[.param, .comma, .assignment], .argument⟩]),
   (.argument,
     [⟨[.ident, .comma, .argument], .argument⟩, ⟨[.value, .comma, .argument], .argument⟩,
      ⟨[.call, .comma, .argument], .argument⟩, ⟨[.assignment, .comma, .argument], .argument⟩,
      ⟨[.argument, .comma, .argument], .argument⟩,
      ⟨[.printArgument, .comma, .argument], .printArgument⟩,
      ⟨[.collection, .comma, .argument], .argument⟩, ⟨[.param, .comma, .argument], .argument⟩,
      ⟨[.printing, .comma, .argument], .printing⟩]),
   (.collection,
     [⟨[.ident, .comma, .collection], .argument⟩, ⟨[.value, .comma, .collection], .argument⟩,
      ⟨[.call, .comma, .collection], .argument⟩, ⟨[.assignment, .comma, .collection], .argument⟩,
      ⟨[.argument, .comma, .collection], .argument⟩,
      ⟨[.printArgument, .comma, .collection], .printArgument⟩,
      ⟨[.collection, .comma, .collection], .argument⟩,
      ⟨[.param, .comma, .collection], .argument⟩, ⟨[.printing, .comma, .collection], .printing⟩]),
   (.param,
     [⟨[.ident, .comma, .param], .argument⟩, ⟨[.value, .comma, .param], .argument⟩,
      ⟨[.call, .comma, .param], .argument⟩, ⟨[.assignment, .comma, .param], .argument⟩,
      ⟨[.argument, .comma, .param], .argument⟩,
      ⟨[.printArgument, .comma, .param], .printArgument⟩,
      ⟨[.collection, .comma, .param], .argument⟩, ⟨[.param, .comma, .param], .param⟩]),
   (.entry, [⟨[.entry, .comma, .entry], .entry⟩]),
   (.arrayArgument,
     [⟨[.arrayArgument, .comma, .arrayArgument], .arrayArgument⟩,
      ⟨[.argument, .comma, .arrayArgument], .arrayArgument⟩]),
   (.printArgument,
     [⟨[.ident, .comma, .printArgument], .printArgument⟩,
      ⟨[.value, .comma, .printArgument], .printArgument⟩,
      ⟨[.call, .comma, .printArgument], .printArgument⟩,
      ⟨[.assignment, .comma, .printArgument], .printArgument⟩,
      ⟨[.argument, .comma, .printArgument], .printArgument⟩,
      ⟨[.printArgument, .comma, .printArgument], .printArgument⟩,
      ⟨[.collection, .comma, .printArgument], .printArgument⟩,
      ⟨[.param, .comma, .printArgument], .printArgument⟩,
      ⟨[.printing, .comma, .printArgument], .printing⟩])]

/-- Items to print, and the joining of conditions. -/
def connectives : Level :=
  [(.ident,
     [⟨[.ident, .semicolon, .ident], .printArgument⟩,
      ⟨[.value, .semicolon, .ident], .printArgument⟩,
      ⟨[.call, .semicolon, .ident], .printArgument⟩,
      ⟨[.assignment, .semicolon, .ident], .printArgument⟩,
      ⟨[.condition, .andWord, .ident], .condition⟩, ⟨[.condition, .orWord, .ident], .condition⟩,
      ⟨[.assignment, .andWord, .ident], .condition⟩,
      ⟨[.assignment, .orWord, .ident], .condition⟩, ⟨[.call, .andWord, .ident], .condition⟩,
      ⟨[.call, .orWord, .ident], .condition⟩]),
   (.value,
     [⟨[.value, .semicolon, .value], .printArgument⟩,
      ⟨[.ident, .semicolon, .value], .printArgument⟩,
      ⟨[.call, .semicolon, .value], .printArgument⟩,
      ⟨[.assignment, .semicolon, .value], .printArgument⟩,
      ⟨[.condition, .andWord, .value], .condition⟩, ⟨[.condition, .orWord, .value], .condition⟩,
      ⟨[.assignment, .andWord, .value], .condition⟩,
      ⟨[.assignment, .orWord, .value], .condition⟩, ⟨[.call, .andWord, .value], .condition⟩,
      ⟨[.call, .orWord, .value], .condition⟩]),
   (.argument,
     [⟨[.value, .semicolon, .argument], .printArgument⟩,
      ⟨[.call, .semicolon, .argument], .printArgument⟩]),
   (.call,
     [⟨[.call, .semicolon, .call], .printArgument⟩,
      ⟨[.ident, .semicolon, .call], .printArgument⟩,
      ⟨[.value, .semicolon, .call], .printArgument⟩,
      ⟨[.assignment, .semicolon, .call], .printArgument⟩,
      ⟨[.assignment, .andWord, .call], .condition⟩, ⟨[.assignment, .orWord, .call], .condition⟩,
      ⟨[.call, .andWord, .call], .condition⟩, ⟨[.call, .orWord, .call], .condition⟩,
      ⟨[.condition, .andWord, .call], .condition⟩, ⟨[.condition, .orWord, .call], .condition⟩]),
   (.assignment,
     [⟨[.assignment, .semicolon, .assignment], .printArgument⟩,
      ⟨[.ident, .semicolon, .assignment], .printArgument⟩,
      ⟨[.value, .semicolon, .assignment], .printArgument⟩,
      ⟨[.call, .semicolon, .assignment], .printArgument⟩,
      ⟨[.assignment, .andWord, .assignment], .condition⟩,
      ⟨[.assignment, .orWord, .assignment], .condition⟩,
      ⟨[.condition, .andWord, .assignment], .condition⟩,
      ⟨[.condition, .orWord, .assignment], .condition⟩,
      ⟨[.assignment, .andWord, .assignment], .condition⟩,
      ⟨[.assignment, .orWord, .assignment], .condition⟩,
      ⟨[.call, .andWord, .assignment], .condition⟩, ⟨[.call, .orWord, .assignment], .condition⟩]),
   (.collection,
     [⟨[.collection, .semicolon, .collection], .printArgument⟩,
      ⟨[.call, .semicolon, .collection], .printArgument⟩,
      ⟨[.ident, .semicolon, .collection], .printArgument⟩,
      ⟨[.value, .semicolon, .collection], .printArgument⟩,
      ⟨[.assignment, .semicolon, .collection], .printArgument⟩]),
   (.param, [⟨[.param, .semicolon, .param], .printArgument⟩]),
   (.printArgument,
     [⟨[.call, .semicolon, .printArgument], .printArgument⟩,
      ⟨[.ident, .semicolon, .printArgument], .printArgument⟩,
      ⟨[.assignment, .semicolon, .printArgument], .printArgument⟩,
      ⟨[.value, .semicolon, .printArgument], .printArgument⟩]),
   (.condition,
     [⟨[.condition, .andWord, .condition], .condition⟩,
      ⟨[.condition, .orWord, .condition], .condition⟩,
      ⟨[.assignment, .andWord, .condition], .condition⟩,
      ⟨[.assignment, .orWord, .condition], .condition⟩,
      ⟨[.call, .andWord, .condition], .condition⟩, ⟨[.call, .orWord, .condition], .condition⟩,
      ⟨[.ident, .andWord, .condition], .condition⟩, ⟨[.ident, .orWord, .condition], .condition⟩,
      ⟨[.value, .andWord, .condition], .condition⟩, ⟨[.value, .orWord, .condition], .condition⟩])]

/-- Heads of blocks, declarations and whole statements. -/
def clauses : Level :=
  [(.ident,
     [⟨[.forWord, .assignment, .toWord, .value, .stepWord, .ident], .forHead⟩,
      ⟨[.forWord, .assignment, .toWord, .ident], .forHead⟩,
      ⟨[.forWord, .assignment, .toWord, .ident, .stepWord, .ident], .forHead⟩,
      ⟨[.forWord, .assignment, .toWord, .call, .stepWord, .ident], .forHead⟩,
      ⟨[.whileWord, .ident], .whileHead⟩, ⟨[.printWord, .ident], .printing⟩,
      ⟨[.forEachWord, .ident, .inWord, .ident], .forEachHead⟩, ⟨[.ifWord, .ident], .ifHead⟩,
      ⟨[.elseIfWord, .ident], .elseIfHead⟩, ⟨[.returning, .ident], .returning⟩]),
   (.value,
     [⟨[.forWord, .assignment, .toWord, .value], .forHead⟩,
      ⟨[.forWord, .assignment, .toWord, .value, .stepWord, .value], .forHead⟩,
      ⟨[.forWord, .assignment, .toWord, .ident, .stepWord, .value], .forHead⟩,
      ⟨[.forWord, .assignment, .toWord, .call, .stepWord, .value], .forHead⟩,
      ⟨[.forEachWord, .ident, .inWord, .value], .forEachHead⟩, ⟨[.ifWord, .value], .ifHead⟩,
      ⟨[.elseIfWord, .value], .elseIfHead⟩, ⟨[.returning, .value], .returning⟩,
      ⟨[.whileWord, .value], .whileHead⟩, ⟨[.printWord, .value], .printing⟩]),
   (.call,
     [⟨[.functionWord, .call], .functionHead⟩, ⟨[.subWord, .call], .functionHead⟩,
      ⟨[.forEachWord, .ident, .inWord, .call], .forEachHead⟩, ⟨[.ifWord, .call], .ifHead⟩,
      ⟨[.elseIfWord, .call], .elseIfHead⟩, ⟨[.returning, .call], .returning⟩,
      ⟨[.forWord, .assignment, .toWord, .value, .stepWord, .call], .forHead⟩,
      ⟨[.forWord, .assignment, .toWord, .ident, .stepWord, .call], .forHead⟩,
      ⟨[.forWord, .assignment, .toWord, .call], .forHead⟩,
      ⟨[.forWord, .assignment, .toWord, .call, .stepWord, .call], .forHead⟩,
      ⟨[.whileWord, .call], .whileHead⟩, ⟨[.printWord, .call], .printing⟩,
      ⟨[.ifWord, .condition, .thenWord, .call], .ifBlock⟩,
      ⟨[.ifWord, .assignment, .thenWord, .call], .ifBlock⟩,
      ⟨[.ifWord, .call, .thenWord, .call], .ifBlock⟩,
      ⟨[.ifWord, .ident, .thenWord, .call], .ifBlock⟩]),
   (.typeName,
     [⟨[.functionWord, .call, .asWord, .typeName], .functionHead⟩,
      ⟨[.ident, .asWord, .typeName], .param⟩, ⟨[.assignment, .asWord, .typeName], .param⟩,
      ⟨[.anonymousHead, .asWord, .typeName], .anonymousHead⟩]),
   (.assignment,
     [⟨[.whileWord, .assignment], .whileHead⟩, ⟨[.printWord, .assignment], .printing⟩,
      ⟨[.ifWord, .assignment], .ifHead⟩, ⟨[.elseIfWord, .assignment], .elseIfHead⟩,
      ⟨[.returning, .assignment], .returning⟩,
      ⟨[.ifWord, .condition, .thenWord, .assignment], .ifBlock⟩,
      ⟨[.ifWord, .assignment, .thenWord, .assignment], .ifBlock⟩,
      ⟨[.ifWord, .call, .thenWord, .assignment], .ifBlock⟩,
      ⟨[.ifWord, .ident, .thenWord, .assignment], .ifBlock⟩,
      ⟨[.assignment, .andWord, .assignment], .condition⟩,
      ⟨[.assignment, .orWord, .assignment], .condition⟩,
      ⟨[.condition, .andWord, .assignment], .condition⟩,
      ⟨[.condition, .orWord, .assignment], .condition⟩]),
   (.closeParen,
     [⟨[.functionWord, .openParen, .closeParen], .anonymousHead⟩,
      ⟨[.functionWord, .openParen, .param, .closeParen], .anonymousHead⟩,
      ⟨[.functionWord, .openParen, .ident, .closeParen], .anonymousHead⟩,
      ⟨[.functionWord, .openParen, .param, .closeParen], .anonymousHead⟩,
      ⟨[.functionWord, .openParen, .value, .closeParen], .anonymousHead⟩,
      ⟨[.functionWord, .openParen, .argument, .closeParen], .anonymousHead⟩,
      ⟨[.subWord, .openParen, .closeParen], .anonymousHead⟩,
      ⟨[.subWord, .openParen, .param, .closeParen], .anonymousHead⟩,
      ⟨[.subWord, .openParen, .ident, .closeParen], .anonymousHead⟩,
      ⟨[.subWord, .openParen, .param, .argument, .closeParen], .anonymousHead⟩,
      ⟨[.subWord, .openParen, .ident, .argument, .closeParen], .anonymousHead⟩,
      ⟨[.subWord, .openParen, .value, .argument, .closeParen], .anonymousHead⟩,
      ⟨[.openParen, .value, .closeParen], .ident⟩, ⟨[.openParen, .ident, .closeParen], .ident⟩,
      ⟨[.openParen, .assignment, .closeParen], .assignment⟩,
      ⟨[.openParen, .condition, .closeParen], .condition⟩]),
   (.argument,
     [⟨[.arrayArgument, .argument], .arrayArgument⟩, ⟨[.printWord, .argument], .printing⟩,
      ⟨[.argument, .argument], .argument⟩]),
   (.printArgument,
     [⟨[.arrayArgument, .printArgument], .arrayArgument⟩,
      ⟨[.printWord, .printArgument], .printing⟩, ⟨[.argument, .printArgument], .printArgument⟩,
      ⟨[.printArgument, .argument], .printArgument⟩,
      ⟨[.printArgument, .printArgument], .printArgument⟩]),
   (.collection,
     [⟨[.printWord, .collection], .printing⟩, ⟨[.returning, .collection], .returning⟩]),
   (.thenWord,
     [⟨[.ifWord, .condition, .thenWord], .ifHead⟩, ⟨[.ifHead, .thenWord], .ifHead⟩,
      ⟨[.elseIfWord, .condition, .thenWord], .elseIfHead⟩,
      ⟨[.elseIfHead, .thenWord], .elseIfHead⟩]),
   (.condition,
     [⟨[.condition, .andWord, .condition], .condition⟩,
      ⟨[.condition, .orWord, .condition], .condition⟩, ⟨[.ifWord, .condition], .ifHead⟩,
      ⟨[.elseIfWord, .condition], .elseIfHead⟩]),
   (.returning,
     [⟨[.ifWord, .condition, .thenWord, .returning], .ifHead⟩,
      ⟨[.ifWord, .assignment, .thenWord, .returning], .ifHead⟩]),
   (.whileWord, [⟨[.exitWord, .whileWord], .exitWord⟩]),
   (.forWord, [⟨[.exitWord, .forWord], .exitWord⟩])]

/-- The grammar of a statement. -/
def statement : Grammar where
  levels := [calls, arrays, arithmetic, assignments, arguments, connectives, clauses]
  lowering := by decide +kernel

end BrightLint.Grammar
