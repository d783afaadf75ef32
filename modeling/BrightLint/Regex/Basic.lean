/-!
Regular expressions, as a user writes them into the settings. The ways in which a beginning of a
text can fit an expression are tried in an order: a choice tries its first part first, a repetition
as many rounds as it can, or as few. The order matters where only the first way counts.

* `Regex.ends`: where a match that starts at a given spot can end, in the order in which the ways
  are tried
* `Regex.fits`: whether some beginning of a text fits
* `Regex.width`: the shortest and the longest text that fits

A spot is listed once, at its first turn: what follows from it does not depend on how it was
reached. A round of a repetition that does not move ends the repetition.
-/

namespace BrightLint

/-- How a repetition is tried. -/
inductive Greed where
  /-- As many rounds as there are first, then fewer. -/
  | long
  /-- As few rounds as are asked for first, then more. -/
  | short
  /-- As many rounds as there are, each in the first way that fits, and no other number. -/
  | firm
deriving DecidableEq, Repr

/-- A regular expression. -/
inductive Regex where
  /-- The empty text. -/
  | empty
  /-- One character with a property. -/
  | one (test : Char → Bool)
  /-- A place of the text with a property. -/
  | anchor (test : Array Char → Nat → Bool)
  /-- One expression after the other. -/
  | seq (p q : Regex)
  /-- One expression or the other. -/
  | either (p q : Regex)
  /-- An expression at least `least` times and, if there is a bound, at most `most` times. -/
  | times (greed : Greed) (least : Nat) (most : Option Nat) (p : Regex)
  /-- An expression whose match is remembered as a group. -/
  | group (id : Nat) (p : Regex)
  /-- The text of a group once more, characters being compared after a mapping. -/
  | again (map : Char → Char) (id : Nat)
  /-- One expression if a group has matched, and another if it has not. -/
  | choose (id : Nat) (p q : Regex)
  /-- Whether an expression fits here, or at a place some characters back. -/
  | look (back : Nat) (wanted : Bool) (p : Regex)
  /-- An expression in the first way in which it fits. -/
  | firm (p : Regex)

namespace Regex

/-- A place in a text, with the groups remembered there: where each starts and where it ends. -/
structure Spot where
  place : Nat
  groups : List (Nat × Nat × Nat) := []
deriving DecidableEq, Repr

namespace Spot

def move (n : Nat) (s : Spot) : Spot := { s with place := s.place + n }

/-- Remembers a group that started at a place and ends here. -/
def remember (id start : Nat) (s : Spot) : Spot :=
  { s with groups := (id, start, s.place) :: s.groups.filter (·.1 != id) }

end Spot

/-! ### Repetitions -/

/-- The spots after `n` rounds. Rounds that lead back to where they started are not gone over
again. -/
def afterRounds (f : Spot → List Spot) : Nat → List Spot → List Spot
  | 0, spots => spots
  | n + 1, spots =>
    let next := (spots.flatMap f).eraseDups
    if next = spots then spots else afterRounds f n next

/-- The spots reached by a repetition, the latest first, and the spots from which it was gone on,
with the number of rounds left where it is bounded. -/
structure Trail where
  reached : List Spot := []
  seen : List (Option Nat × Spot) := []

def Trail.reach (t : Trail) (s : Spot) : Trail :=
  if t.reached.contains s then t else { t with reached := s :: t.reached }

/-- The spots reached by at most `n` more rounds. -/
def explore (f : Spot → List Spot) (long isBounded : Bool) : Nat → Spot → Trail → Trail
  | 0, s, t => t.reach s
  | n + 1, s, t =>
    let turn := (if isBounded then some n else none, s)
    if t.seen.contains turn then t else
    let t := { t with seen := turn :: t.seen }
    let t := if long then t else t.reach s
    let t := (f s).foldl
      (fun t next => if next.place = s.place then t.reach next else explore f long isBounded n next t)
      t
    if long then t.reach s else t

/-- The spot after `n` rounds, each in the first way that fits. -/
def afterFirm (f : Spot → List Spot) : Nat → Spot → Option Spot
  | 0, s => some s
  | n + 1, s => match f s with
    | [] => none
    | next :: _ => if next = s then some s else afterFirm f n next

/-- The spot after at most `n` more rounds, each in the first way that fits. -/
def exploreFirm (f : Spot → List Spot) : Nat → Spot → Spot
  | 0, s => s
  | n + 1, s => match f s with
    | [] => s
    | next :: _ => if next.place = s.place then next else exploreFirm f n next

/-! ### Matches -/

/-- What a look has found: a spot from which the groups are kept, if there has to be a match. -/
def judge (wanted : Bool) (found : List Spot) (s : Spot) : List Spot :=
  match found, wanted with
  | t :: _, true => [{ s with groups := t.groups }]
  | [], false => [s]
  | _, _ => []

/-- Whether the text from `a` on stands also from `b` on, over `n` characters. -/
def repeats (text : Array Char) (map : Char → Char) (a b n : Nat) : Bool :=
  (List.range n).all fun i => match text[a + i]?, text[b + i]? with
    | some c, some d => map c == map d
    | _, _ => false

/-- Where a match that starts at a spot can end. Past the rounds that are asked for, every round
but the last moves forward, so the rest of the text bounds their number. -/
def ends (text : Array Char) : Regex → Spot → List Spot
  | empty, s => [s]
  | one test, s => if text[s.place]?.any test then [s.move 1] else []
  | anchor test, s => if test text s.place then [s] else []
  | seq p q, s => ((p.ends text s).flatMap (q.ends text)).eraseDups
  | either p q, s => (p.ends text s ++ q.ends text s).eraseDups
  | times greed least most p, s =>
    let rounds (t : Spot) : Nat × Bool :=
      let all := text.size - t.place + 1
      match most with
      | some m => if m - least < all then (m - least, true) else (all, false)
      | none => (all, false)
    match greed with
    | .firm => ((afterFirm (p.ends text) least s).map fun t =>
        exploreFirm (p.ends text) (rounds t).1 t).toList
    | _ =>
      let sure := afterRounds (p.ends text) least [s]
      let trail := sure.foldl
        (fun trail t => explore (p.ends text) (greed == .long) (rounds t).2 (rounds t).1 t trail)
        ({} : Trail)
      trail.reached.reverse
  | group id p, s => (p.ends text s).map (·.remember id s.place)
  | again map id, s => match s.groups.lookup id with
    | some (a, b) => if repeats text map a s.place (b - a) then [s.move (b - a)] else []
    | none => []
  | choose id p q, s => if (s.groups.lookup id).isSome then p.ends text s else q.ends text s
  | look back wanted p, s =>
    judge wanted (if back ≤ s.place then p.ends text { s with place := s.place - back } else []) s
  | firm p, s => (p.ends text s).take 1

/-- Whether some beginning of a text fits the expression. -/
def fits (p : Regex) (s : List Char) : Bool := !(p.ends s.toArray { place := 0 }).isEmpty

/-! ### Widths -/

/-- The lengths of the shortest and of the longest text that fits. -/
structure Width where
  least : Nat
  most : Option Nat
deriving DecidableEq, Repr

namespace Width

def exactly (n : Nat) : Width := ⟨n, some n⟩

def add (a b : Width) : Width :=
  ⟨a.least + b.least, a.most.bind fun m => b.most.map (m + ·)⟩

def join (a b : Width) : Width :=
  ⟨min a.least b.least, a.most.bind fun m => b.most.map (max m)⟩

def times (least : Nat) (most : Option Nat) (w : Width) : Width :=
  ⟨least * w.least,
    if w.most = some 0 ∨ most = some 0 then some 0 else most.bind fun m => w.most.map (m * ·)⟩

end Width

/-- The width of an expression, those of the groups that it may recall being known. -/
def width (known : List (Nat × Width)) : Regex → Width
  | empty => .exactly 0
  | one _ => .exactly 1
  | anchor _ => .exactly 0
  | seq p q => (p.width known).add (q.width known)
  | either p q => (p.width known).join (q.width known)
  | times _ least most p => (p.width known).times least most
  | group _ p => p.width known
  | again _ id => (known.lookup id).getD (.exactly 0)
  | choose _ p q => (p.width known).join (q.width known)
  | look _ _ _ => .exactly 0
  | firm p => p.width known

/-- An expression that remembers only the groups that are asked for. -/
def keep (ids : List Nat) : Regex → Regex
  | seq p q => seq (p.keep ids) (q.keep ids)
  | either p q => either (p.keep ids) (q.keep ids)
  | times greed least most p => times greed least most (p.keep ids)
  | group id p => if ids.contains id then group id (p.keep ids) else p.keep ids
  | choose id p q => choose id (p.keep ids) (q.keep ids)
  | look back wanted p => look back wanted (p.keep ids)
  | firm p => firm (p.keep ids)
  | p => p

end Regex

end BrightLint
