/-!
The lines of a text.

* `lines`: the lines without their ends; a text that ends with a line end has no empty last line
* `lastLine?`: the last line of a beginning of a text
* `firstLine`: what stands before the first line feed
* `unifyLineEnds`: writes every line end of a file as a line feed
-/

namespace BrightLint.Text

/-- Whether a character ends a line. A carriage return and a line feed after it are one end. -/
def isLineEnd (c : Char) : Bool :=
  let n := c.toNat
  (0x0A ≤ n && n ≤ 0x0D) || (0x1C ≤ n && n ≤ 0x1E) || n == 0x85 || n == 0x2028 || n == 0x2029

/-- The lines of a text, the part already read of the first line being given (the latest
character first). -/
def linesFrom : Option (List Char) → List Char → List (List Char)
  | none, [] => []
  | some part, [] => [part.reverse]
  | part, '\r' :: '\n' :: rest => (part.getD []).reverse :: linesFrom none rest
  | part, c :: rest =>
    if isLineEnd c then (part.getD []).reverse :: linesFrom none rest
    else linesFrom (some (c :: part.getD [])) rest

/-- The lines of a text without their ends. -/
def lines (s : List Char) : List (List Char) := linesFrom none s

/-! ### The last line of a beginning -/

/-- The last line among the next `n` characters of a text. The line that has been begun starts at
`line` and is `len` characters long so far; `last` is where the line before it starts, and how long
that one is. -/
def lastLineFrom (last : Option (List Char × Nat)) (line : List Char) (len : Nat) :
    Nat → List Char → Option (List Char)
  | n + 2, '\r' :: '\n' :: rest => lastLineFrom (some (line, len)) rest 0 n rest
  | n + 1, c :: rest =>
    if isLineEnd c then lastLineFrom (some (line, len)) rest 0 n rest
    else lastLineFrom last line (len + 1) n rest
  | _, _ => if len = 0 then last.map fun (l, k) => l.take k else some (line.take len)

/-- The last line of the first `n` characters of a text, which are not copied. -/
def lastLine? (n : Nat) (s : List Char) : Option (List Char) := lastLineFrom none s 0 n s

/-- The part of a line that has been read, the latest character first. -/
def begun (line : List Char) (len : Nat) : Option (List Char) :=
  if len = 0 then none else some (line.take len).reverse

theorem begun_getD (line : List Char) (len : Nat) :
    ((begun line len).getD []).reverse = line.take len := by
  unfold begun
  split <;> simp_all

theorem begun_succ {line : List Char} {len : Nat} {c : Char} {rest : List Char}
    (h : line.drop len = c :: rest) :
    begun line (len + 1) = some (c :: (begun line len).getD []) := by
  have hc : line.take (len + 1) = line.take len ++ [c] := by
    rw [List.take_add, h]
    rfl
  unfold begun
  split <;> split <;> simp_all

/-- A character that is not the first half of a line end of two characters. -/
theorem linesFrom_cons (part : Option (List Char)) {c : Char} {rest : List Char}
    (h : ∀ r, c = '\r' → rest = '\n' :: r → False) :
    linesFrom part (c :: rest) =
      if isLineEnd c then (part.getD []).reverse :: linesFrom none rest
      else linesFrom (some (c :: part.getD [])) rest := by
  rw [linesFrom]
  exact h

/-- A line end of two characters that is cut in two is not one in the part that is left. -/
theorem take_ne_pair {c : Char} {n : Nat} {rest : List Char}
    (h : ∀ m r, n = m + 1 → c = '\r' → rest = '\n' :: r → False) :
    ∀ r, c = '\r' → rest.take n = '\n' :: r → False := by
  intro r hc ht
  match n, rest with
  | 0, _ => simp at ht
  | _ + 1, [] => simp at ht
  | m + 1, d :: rest =>
    rw [List.take_succ_cons] at ht
    injection ht with hd _
    exact h m rest rfl hc (by rw [hd])

theorem lastLineFrom_eq (last : Option (List Char × Nat)) (line : List Char) (len n : Nat)
    (s : List Char) (h : line.drop len = s) :
    lastLineFrom last line len n s =
      ((linesFrom (begun line len) (s.take n)).getLast?.or (last.map fun (l, k) => l.take k)) := by
  fun_induction lastLineFrom last line len n s with
  | case1 last line len n rest ih =>
    rw [ih (by simp), List.take_succ_cons, List.take_succ_cons, linesFrom, begun_getD,
      List.getLast?_cons]
    simp [begun]
  | case2 last line len n c rest hx hc ih =>
    rw [ih (by simp), List.take_succ_cons, linesFrom_cons _ (take_ne_pair hx), if_pos hc,
      begun_getD, List.getLast?_cons]
    simp [begun]
  | case3 last line len n c rest hx hc ih =>
    have hd : line.drop (len + 1) = rest := by
      rw [← List.drop_drop, h]
      rfl
    rw [ih hd, begun_succ h, List.take_succ_cons, linesFrom_cons _ (take_ne_pair hx), if_neg hc]
  | case4 s last line n _ hx =>
    have ht : s.take n = [] := by
      match n, s with
      | 0, _ => simp
      | _, [] => simp
      | n + 1, c :: s => exact (hx n c s rfl rfl).elim
    simp [ht, begun, linesFrom]
  | case5 s last line len n hl _ hx =>
    have ht : s.take n = [] := by
      match n, s with
      | 0, _ => simp
      | _, [] => simp
      | n + 1, c :: s => exact (hx n c s rfl rfl).elim
    simp [ht, begun, hl, linesFrom]

/-- The last line of a beginning of a text is that of a copy of it. -/
theorem lastLine?_eq (n : Nat) (s : List Char) : lastLine? n s = (lines (s.take n)).getLast? := by
  rw [lastLine?, lastLineFrom_eq none s 0 n s rfl]
  simp [begun, lines]

/-- What stands before the first line feed. -/
def firstLine (s : List Char) : List Char := s.takeWhile (· != '\n')

/-- A text with every carriage return, alone or before a line feed, written as a line feed. -/
def unifyLineEnds : List Char → List Char
  | '\r' :: '\n' :: rest => '\n' :: unifyLineEnds rest
  | '\r' :: rest => '\n' :: unifyLineEnds rest
  | c :: rest => c :: unifyLineEnds rest
  | [] => []

end BrightLint.Text
