import BrightLint.Grammar.Production
import BrightLint.Fault

/-!
Looking up a production at one place of a statement. The place is given by the number of symbols
after it.

* `findAt?`: the production that applies at a place
* `spliceAt`: the statement after its application
* `Grammar.lookup`: the productions to be tried at a place, and the one that applies
-/

namespace BrightLint

/-- The first production whose right-hand side ends before the last `i` symbols of a statement. -/
def findAt? (i : Nat) (ps : List Production) (st : List Symbol) : Option Production :=
  (matchTop? ps (st.reverse.drop i)).map Prod.fst

/-- A statement in which the right-hand side that ends before the last `i` symbols has become the
result. -/
def spliceAt (i : Nat) (p : Production) (st : List Symbol) : List Symbol :=
  st.take (st.length - i - p.rhs.length) ++ p.result :: st.drop (st.length - i)

/-- The outcome of a look-up. -/
structure Lookup where
  /-- The productions filed under the symbol at the place. -/
  candidates : List Production
  /-- The production that applies, and the statement after it. -/
  found : Option (Production × List Symbol)

/-- The outcome at a place of which the symbol is given, with the statement after a production. -/
def Level.lookupAt (l : Level) (t : Symbol) (found? : List Production → Option Production)
    (after : Production → List Symbol) : Lookup :=
  { candidates := l.filed t
    found := (found? (l.filed t)).map fun p => (p, after p) }

/-- Looks up what a level of a grammar does at a place of a statement. A negative place is counted
from the front, where a right-hand side ends with the symbol and the result goes to the end. -/
def Grammar.lookup (g : Grammar) (level : Int) (st : List Symbol) (i : Int) : Except Fault Lookup :=
  let symbol? := match i with
    | .ofNat n => st.reverse[n]?
    | .negSucc k => st[k]?
  match symbol?, level.toNat?.bind (g.levels[·]?) with
  | none, _ => .error .badIndex
  | some _, none => .error .missingKey
  | some t, some l => .ok <| match i with
    | .ofNat n => l.lookupAt t (findAt? n · st) (spliceAt n · st)
    | .negSucc k => l.lookupAt t (findAt? 0 · (st.take (k + 1))) fun p =>
        st.take (k + 1 - p.rhs.length) ++ st.drop (k + 1) ++ [p.result]

end BrightLint
