import BrightLint.Grammar.Production

/-!
The grammar of a program: statements are joined into blocks, and a block between the head and the
end of a structure becomes a block again.
-/

namespace BrightLint.Grammar

/-- Blocks and the structures around them. -/
def blocks : Level :=
  [(.block,
     [⟨[.block, .block], .block⟩, ⟨[.ifHead, .block], .ifBlock⟩,
      ⟨[.elseIfHead, .block], .elseIfBlock⟩]),
   (.exiting, [⟨[.exiting], .block⟩]),
   (.printing, [⟨[.printing], .block⟩]),
   (.call, [⟨[.call], .block⟩]),
   (.assignment, [⟨[.assignment], .block⟩]),
   (.returning, [⟨[.returning], .block⟩]),
   (.endWhile, [⟨[.whileHead, .block, .endWhile], .block⟩, ⟨[.whileHead, .endWhile], .block⟩]),
   (.endFor,
     [⟨[.forHead, .block, .endFor], .block⟩, ⟨[.forHead, .ifBlock, .endFor], .block⟩,
      ⟨[.forHead, .endFor], .block⟩, ⟨[.forEachHead, .block, .endFor], .block⟩,
      ⟨[.forEachHead, .ifBlock, .endFor], .block⟩, ⟨[.forEachHead, .endFor], .block⟩]),
   (.endFunction,
     [⟨[.functionHead, .block, .endFunction], .block⟩, ⟨[.functionHead, .endFunction], .block⟩,
      ⟨[.anonymousHead, .block, .endFunction], .anonymousFunction⟩,
      ⟨[.anonymousHead, .endFunction], .anonymousFunction⟩]),
   (.endIf,
     [⟨[.ifHead, .block, .endIf], .block⟩, ⟨[.ifHead, .endIf], .block⟩,
      ⟨[.ifBlock, .block, .endIf], .block⟩, ⟨[.elseHead, .block, .endIf], .endIf⟩,
      ⟨[.ifBlock, .elseIfBlock, .endIf], .block⟩]),
   (.ifBlock, [⟨[.ifBlock], .block⟩]),
   (.elseIfBlock, [⟨[.elseIfBlock, .elseIfBlock], .elseIfBlock⟩])]

/-- The grammar of a program. -/
def program : Grammar where
  levels := [blocks]
  lowering := by decide +kernel

end BrightLint.Grammar
