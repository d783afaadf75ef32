import BrightLint.Pattern.Basic
import BrightLint.Regex.Escape

/-!
Reading an expression from the text in which the settings give it: characters stand for themselves,
`.` for any character of a line, `[...]` for a set, `(...)` for a group, `|` for a choice, and
`* + ? {m,n}` for repetitions, which a `?` makes short and a `+` makes firm.

* `Regex.ofPoints?`, `Regex.ofText?`: the expression that a text stands for, if it is well formed
-/

namespace BrightLint.Regex

namespace Read

/-! ### Repetitions -/

/-- The bounds of a repetition. They have to be in order and below the limit. -/
def bounds (low high : List Char) : Read (Nat × Option Nat) := do
  let least := numeral 10 low
  let most := numeral 10 high
  if Pattern.roundLimit ≤ least || Pattern.roundLimit ≤ most then
    if (← get).rest = [.cut] then malformed else throw .tooManyRounds
  if high.isEmpty then return (least, none)
  if most < least then malformed else return (least, some most)

/-- The bounds in braces that have been opened, unless the braces stand for themselves. -/
def bracedBounds? : Read (Option (Nat × Option Nat)) := do
  let before ← get
  if before.rest.head? = some (.plain '\x7d') then return none
  let low ← takeAll Char.isDigit
  let high ← if ← accept ',' then takeAll Char.isDigit else pure low
  if ← accept '\x7d' then return some (← bounds low high)
  set before
  return none

/-- The bounds that a character stands for, if it is the sign of a repetition. -/
def repetition? (c : Char) : Read (Option (Nat × Option Nat)) :=
  match c with
  | '*' => return some (0, none)
  | '+' => return some (1, none)
  | '?' => return some (0, some 1)
  | '\x7b' => bracedBounds?
  | _ => return none

/-- How a repetition is tried. -/
def greed : Read Greed := do
  if ← accept '?' then return .short
  if ← accept '+' then return .firm
  return .long

/-- The items read so far, the latest of them repeated. A place cannot be repeated, nor can a
repetition. -/
def repeatLatest (m : Mode) (least : Nat) (most : Option Nat) : List Item → Read (List Item)
  | [] => malformed
  | item :: done => do
    if item.kind != .plain then malformed
    if m.isPlain then modify fun p => { p with isUnusable := true }
    return { body := .times (← greed) least most item.body, kind := .repeated } :: done

/-! ### Modes -/

def isModeLetter (c : Char) : Bool := "aiLmstux".toList.contains c

/-- A mode with some of its parts switched on or off by their letters. -/
def withLetters (m : Mode) (on off : List Char) : Mode :=
  let switch (c : Char) (b : Bool) : Bool := (b || on.contains c) && !off.contains c
  { isFolded := switch 'i' m.isFolded
    isDotAll := switch 's' m.isDotAll
    isLinewise := switch 'm' m.isLinewise
    isSpaced := switch 'x' m.isSpaced
    isAscii := (m.isAscii || on.contains 'a') && !on.contains 'u'
    isPlain := switch 't' m.isPlain }

/-- Whether letters can be switched on together. -/
def areCompatible (on : List Char) : Bool :=
  !on.contains 'L' && !(on.contains 'a' && on.contains 'u')

/-- The mode of a group whose first letter, or hyphen, has been read. -/
def groupMode (m : Mode) (c : Char) : Read Mode := do
  if !isModeLetter c && c != '-' then malformed
  let on ← if c == '-' then pure [] else (c :: ·) <$> takeAll isModeLetter
  let hasOff ← if c == '-' then pure true else accept '-'
  let off ← if hasOff then takeAll isModeLetter else pure []
  expect ':'
  if (hasOff && off.isEmpty) || !areCompatible on || on.contains 't' || off.any ("aLtu".toList.contains ·)
      || on.any off.contains then malformed
  return withLetters m on off

/-- The mode of the whole, which stands in parentheses before everything else. -/
def wholeMode : Nat → Mode → Read Mode
  | 0, m => return m
  | fuel + 1, m => do
    match (← get).rest with
    | .plain '(' :: .plain '?' :: .plain '#' :: _ =>
      let _ ← skipPast ')'
      wholeMode fuel m
    | .plain '(' :: .plain '?' :: rest =>
      let letters := rest.takeWhile (Sign.isPlain isModeLetter)
      match rest.drop letters.length with
      | .plain ')' :: after =>
        let on := letters.flatMap Sign.chars
        if on.isEmpty then return m
        if !areCompatible on then malformed
        modify fun p => { p with rest := after }
        wholeMode fuel (withLetters m on [])
      | _ => return m
    | s :: rest =>
      if !m.isSpaced then return m
      if s.isPlain isGap then
        modify fun p => { p with rest := rest }
        wholeMode fuel m
      else if s = .plain '#' then
        skipRemark
        wholeMode fuel m
      else return m
    | [] => return m

/-! ### Expressions -/

mutual

/-- Alternatives up to a closing parenthesis or the end. -/
def choice : Nat → Mode → Read Regex
  | 0, _ => malformed
  | fuel + 1, m => do
    let p ← branch fuel m []
    if ← accept '|' then return .either p (← choice fuel m) else return p

/-- The items up to a bar, a closing parenthesis or the end. Those read so far are given with the
latest first. -/
def branch : Nat → Mode → List Item → Read Regex
  | 0, _, _ => malformed
  | fuel + 1, m, done => do
    let whole := done.foldl (fun q item => .seq item.body q) Regex.empty
    let before ← get
    match ← next? with
    | none => return whole
    | some .cut => malformed
    | some (.escaped c) =>
      branch fuel m ((← escapedItem m c) :: done)
    | some (.half n) =>
      branch fuel m ({ body := .one (m.code (Text.Point.half n).code) } :: done)
    | some (.plain c) =>
      if c = '|' || c = ')' then
        set before
        return whole
      if m.isSpaced && isGap c then branch fuel m done
      else if m.isSpaced && c = '#' then
        skipRemark
        branch fuel m done
      else match c with
      | '[' => branch fuel m ((← setItem m) :: done)
      | '.' => branch fuel m ({ body := .one m.point } :: done)
      | '^' => branch fuel m ({ body := .anchor m.isStart, kind := .place } :: done)
      | '$' => branch fuel m ({ body := .anchor m.isStop, kind := .place } :: done)
      | '(' => branch fuel m ((← groupItem fuel m).toList ++ done)
      | c => match ← repetition? c with
        | some (least, most) => branch fuel m (← repeatLatest m least most done)
        | none => branch fuel m ({ body := .one (m.code c.toNat) } :: done)

/-- What stands in parentheses, the first of which has been read. A remark is nothing. -/
def groupItem : Nat → Mode → Read (Option Item)
  | 0, _ => malformed
  | fuel + 1, m => do
    if !(← accept '?') then return some (← remembered fuel m none)
    match ← next? with
    | some (.plain ':') => return some { body := ← closing fuel m }
    | some (.plain '>') => return some { body := .firm (← closing fuel m) }
    | some (.plain '=') => return some { body := .look 0 true (← closing fuel m) }
    | some (.plain '!') => return some { body := .look 0 false (← closing fuel m) }
    | some (.plain '<') =>
      if ← accept '=' then return some { body := ← lookBack fuel m true }
      expect '!'
      return some { body := ← lookBack fuel m false }
    | some (.plain '#') =>
      let _ ← skipPast ')'
      return none
    | some (.plain '(') => return some { body := ← condition fuel m }
    | some (.plain 'P') =>
      if ← accept '<' then
        let n ← name '>'
        if isName n then return some (← remembered fuel m (some n)) else malformed
      expect '='
      return some (← recallItem m (← named (← name ')')))
    | some (.plain c) => return some { body := ← closing fuel (← groupMode m c) }
    | _ => malformed

/-- An expression and the parenthesis that closes it. -/
def closing : Nat → Mode → Read Regex
  | 0, _ => malformed
  | fuel + 1, m => do
    let p ← choice fuel m
    expect ')'
    return p

/-- A group that is remembered. -/
def remembered : Nat → Mode → Option (List Char) → Read Item
  | 0, _, _ => malformed
  | fuel + 1, m, name => do
    let id ← openGroup name
    let p ← closing fuel m
    closeGroup id p
    return { body := .group id p }

/-- A look back, which has to be at texts of one length. -/
def lookBack : Nat → Mode → Bool → Read Regex
  | 0, _, _ => malformed
  | fuel + 1, m, wanted => do
    let before := (← get).behind
    modify fun p => { p with behind := p.behind.or (some p.groups) }
    let p ← choice fuel m
    modify fun p => { p with behind := before }
    expect ')'
    let w := p.width (← get).closed
    if w.most != some w.least then modify fun p => { p with isUnusable := true }
    return .look w.least wanted p

/-- A choice that depends on a group, which may be named or numbered and, if it is numbered, may
come later. -/
def condition : Nat → Mode → Read Regex
  | 0, _ => malformed
  | fuel + 1, m => do
    let n ← name ')'
    let id ← if isName n then named n
      else if n.all Char.isDigit then pure (numeral 10 n)
      else malformed
    if id = 0 then malformed
    if (← get).behind.isSome && !(← canRecall id) then malformed
    noteRecall id
    let p ← branch fuel m []
    let q ← if ← accept '|' then branch fuel m [] else pure .empty
    expect ')'
    return .choose id p q

end

/-- A whole expression: nothing may be left over, and every group that is looked at has to be
there. -/
def whole (m : Mode) : Read Regex := do
  let fuel := 6 * (← get).rest.length + 6
  let p ← choice fuel (← wholeMode fuel m)
  let s ← get
  if s.rest.isEmpty && s.recalled.all (· ≤ s.groups) && !s.isUnusable then
    return p.keep s.recalled
  else malformed

end Read

/-- The expression that a text stands for as it is spelt out, if it is well formed. -/
def ofPoints? (m : Mode) (ps : List Text.Point) : Except Fault Regex :=
  match (Read.whole m).run { rest := signs ps } with
  | .ok (p, _) => .ok p
  | .error flaw => .error flaw.fault

/-- The expression that a text stands for. -/
def ofText? (m : Mode) (s : String) : Except Fault Regex := ofPoints? m (Text.points s)

end BrightLint.Regex
