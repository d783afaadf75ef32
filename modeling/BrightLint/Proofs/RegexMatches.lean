import BrightLint.Proofs.PatternMatches
import BrightLint.Regex.Mode

/-!
Which texts fit a regular expression, said of the text that is left where the expression starts.

* `Regex.mem_ends_times_one`: a character repeated, as many times as can be, leads past any number
  of such characters that the bounds allow
* `Regex.IsWp`: what a text has to be for an expression to be read so that a rest with a given
  property is left, one lemma for each way in which an expression is made up
* `Regex.IsWp.fits`: from it, which texts fit
-/

namespace BrightLint.Regex

open Pattern (AllFrom allFrom_zero allFrom_succ allFrom_add allFrom_iff_takeWhile)

/-! ### Spots -/

namespace Spot

variable {s : Spot} {m n : Nat}

@[simp]
theorem place_move : (s.move n).place = s.place + n := rfl

@[simp]
theorem move_zero : s.move 0 = s := rfl

theorem move_move : (s.move m).move n = s.move (m + n) := by
  simp [move, Nat.add_assoc]

theorem move_succ_ne : s.move (n + 1) ≠ s := by
  intro h
  have hplace := congrArg place h
  rw [place_move] at hplace
  omega

end Spot

variable {p q r : Regex} {test : Char → Bool} {text : Array Char} {a b : Spot} {n : Nat}

theorem fits_iff {s : List Char} : p.fits s = true ↔ ∃ b, b ∈ p.ends s.toArray { place := 0 } := by
  rw [fits, Bool.not_eq_true', List.isEmpty_eq_false_iff_exists_mem]

theorem mem_ends_one :
    b ∈ (one test).ends text a ↔ b = a.move 1 ∧ text[a.place]?.any test = true := by
  rw [ends]
  split <;> simp_all

theorem mem_ends_seq : b ∈ (seq p q).ends text a ↔ ∃ c ∈ p.ends text a, b ∈ q.ends text c := by
  simp [ends]

theorem mem_ends_either : b ∈ (either p q).ends text a ↔ b ∈ p.ends text a ∨ b ∈ q.ends text a := by
  simp [ends]

/-! ### Repetitions of a character -/

theorem afterRounds_nil (f : Spot → List Spot) (n : Nat) : afterRounds f n [] = [] := by
  cases n <;> simp [afterRounds]

/-- The rounds that are asked for lead to one spot, or to none if a character is missing. -/
theorem afterRounds_one (text : Array Char) (test : Char → Bool) (n : Nat) (a : Spot) :
    AllFrom text test a.place n ∧ afterRounds ((one test).ends text) n [a] = [a.move n] ∨
      ¬ AllFrom text test a.place n ∧ afterRounds ((one test).ends text) n [a] = [] := by
  induction n generalizing a with
  | zero => exact .inl ⟨allFrom_zero _ _ _, rfl⟩
  | succ n ih =>
    rw [afterRounds, List.flatMap_singleton, ends, allFrom_succ]
    by_cases hone : text[a.place]?.any test = true
    · have hnext : [a.move 1].eraseDups = [a.move 1] := by simp [List.eraseDups_cons]
      have hmoved : [a.move 1] ≠ [a] := fun h => Spot.move_succ_ne (List.cons.inj h).1
      simp only [if_pos hone, hnext, if_neg hmoved]
      rcases ih (a.move 1) with ⟨hall, heq⟩ | ⟨hall, heq⟩
      · exact .inl ⟨⟨hone, hall⟩, by rw [heq, Spot.move_move, Nat.add_comm 1]⟩
      · exact .inr ⟨fun h => hall h.2, heq⟩
    · exact .inr ⟨fun h => hone h.1, by simp [if_neg hone, afterRounds_nil]⟩

theorem mem_reached_reach {t : Trail} : b ∈ (t.reach a).reached ↔ b ∈ t.reached ∨ b = a := by
  unfold Trail.reach
  split
  · next h => simp_all
  · simp [or_comm]

/-- Going on from a spot ahead of all those from which a repetition was gone on. -/
theorem mem_explore_one {isBounded : Bool} {t : Trail}
    (hseen : ∀ turn ∈ t.seen, turn.2.place < a.place) :
    b ∈ (explore ((one test).ends text) true isBounded n a t).reached ↔
      b ∈ t.reached ∨ ∃ k ≤ n, b = a.move k ∧ AllFrom text test a.place k := by
  induction n generalizing a t with
  | zero =>
    rw [explore, mem_reached_reach]
    simp [allFrom_zero]
  | succ n ih =>
    have hnew (rounds : Option Nat) : t.seen.contains (rounds, a) = false := by
      rw [Bool.eq_false_iff]
      exact fun hmem => Nat.lt_irrefl _ (hseen _ (List.contains_iff_mem.1 hmem))
    rw [explore, ends]
    simp only [hnew, Bool.false_eq_true, if_false, if_true, mem_reached_reach]
    by_cases hone : text[a.place]?.any test = true
    · have hahead : ∀ turn ∈ (if isBounded then some n else none, a) :: t.seen,
          turn.2.place < (a.move 1).place := by
        intro turn hturn
        rcases List.mem_cons.1 hturn with rfl | hturn
        · exact Nat.lt_succ_self _
        · exact Nat.lt_succ_of_lt (hseen turn hturn)
      have hmoved : (a.move 1).place ≠ a.place := Nat.succ_ne_self _
      rw [if_pos hone, List.foldl_cons, List.foldl_nil, if_neg hmoved, ih hahead, or_assoc]
      refine or_congr_right ?_
      constructor
      · rintro (⟨k, hk, rfl, hall⟩ | rfl)
        · exact ⟨k + 1, Nat.succ_le_succ hk, by rw [Spot.move_move, Nat.add_comm 1],
            allFrom_succ.2 ⟨hone, hall⟩⟩
        · exact ⟨0, Nat.zero_le _, rfl, allFrom_zero _ _ _⟩
      · rintro ⟨k, hk, rfl, hall⟩
        cases k with
        | zero => exact .inr rfl
        | succ k =>
          exact .inl ⟨k, Nat.le_of_succ_le_succ hk, by rw [Spot.move_move, Nat.add_comm 1],
            (allFrom_succ.1 hall).2⟩
    · rw [if_neg hone, List.foldl_nil]
      refine or_congr_right ⟨fun h => ⟨0, Nat.zero_le _, h, allFrom_zero _ _ _⟩, ?_⟩
      rintro ⟨k, -, rfl, hall⟩
      cases k with
      | zero => rfl
      | succ k => exact absurd (allFrom_succ.1 hall).1 hone

/-- The rounds that a repetition can go on for past those that are asked for, and whether it is its
bound that limits them. -/
def roundsLeft (text : Array Char) (least : Nat) (most : Option Nat) (a : Spot) : Nat × Bool :=
  let all := text.size - a.place + 1
  match most with
  | some m => if m - least < all then (m - least, true) else (all, false)
  | none => (all, false)

theorem ends_times_long {least : Nat} {most : Option Nat} :
    (times .long least most p).ends text a =
      ((afterRounds (p.ends text) least [a]).foldl
        (fun trail t => explore (p.ends text) true (roundsLeft text least most t).2
          (roundsLeft text least most t).1 t trail) {}).reached.reverse :=
  rfl

/-- However they are limited, the rounds are enough for the characters that are left. -/
theorem le_roundsLeft_iff {least k : Nat} {most : Option Nat} (hmost : ∀ m ∈ most, least ≤ m)
    (h : AllFrom text test a.place k) :
    k ≤ (roundsLeft text least most a).1 ↔ ∀ m ∈ most, least + k ≤ m := by
  have hsize := h.le_size
  cases most with
  | none => simp [roundsLeft, Nat.le_succ_of_le hsize]
  | some m =>
    have hm := hmost m rfl
    simp only [roundsLeft, Option.mem_some_iff, forall_eq']
    split <;> omega

/-- A character repeated within bounds leads past as many as there are, or past fewer. -/
theorem mem_ends_times_one {least : Nat} {most : Option Nat} (hmost : ∀ m ∈ most, least ≤ m) :
    b ∈ (times .long least most (one test)).ends text a ↔
      ∃ k, b = a.move k ∧ least ≤ k ∧ (∀ m ∈ most, k ≤ m) ∧ AllFrom text test a.place k := by
  rw [ends_times_long, List.mem_reverse]
  rcases afterRounds_one text test least a with ⟨hleast, hsure⟩ | ⟨hleast, hsure⟩
  · rw [hsure, List.foldl_cons, List.foldl_nil, mem_explore_one (by simp)]
    constructor
    · rintro (hb | ⟨k, hk, rfl, hall⟩)
      · exact absurd hb List.not_mem_nil
      · exact ⟨least + k, Spot.move_move, Nat.le_add_right _ _, (le_roundsLeft_iff hmost hall).1 hk,
          allFrom_add.2 ⟨hleast, hall⟩⟩
    · rintro ⟨k, rfl, hk, hm, hall⟩
      obtain ⟨k, rfl⟩ := Nat.exists_eq_add_of_le hk
      have hrest : AllFrom text test (a.move least).place k := (allFrom_add.1 hall).2
      exact .inr ⟨k, (le_roundsLeft_iff hmost hrest).2 hm, Spot.move_move.symm, hrest⟩
  · rw [hsure, List.foldl_nil]
    refine ⟨fun hb => absurd hb List.not_mem_nil, ?_⟩
    rintro ⟨k, -, hk, -, hall⟩
    obtain ⟨k, rfl⟩ := Nat.exists_eq_add_of_le hk
    exact absurd (allFrom_add.1 hall).1 hleast

/-! ### Weakest preconditions -/

/-- An expression can be read at the head of a text so that a rest with the property `P` is left if
the text has the property `T P`. -/
def IsWp (p : Regex) (T : (List Char → Prop) → List Char → Prop) : Prop :=
  ∀ (P : List Char → Prop) (s : List Char) (a : Spot),
    (∃ b ∈ p.ends s.toArray a, P (s.drop b.place)) ↔ T P (s.drop a.place)

namespace IsWp

variable {T U : (List Char → Prop) → List Char → Prop}

theorem fits (h : IsWp p T) (s : List Char) : p.fits s = true ↔ T (fun _ => True) s := by
  rw [fits_iff, ← List.drop_zero (l := s)]
  simpa using h (fun _ => True) s { place := 0 }

theorem empty : IsWp empty fun P => P := by
  intro P s a
  simp [ends]

theorem seq (hp : IsWp p T) (hq : IsWp q U) : IsWp (seq p q) fun P => T (U P) := by
  intro P s a
  refine .trans ?_ (hp (U P) s a)
  simp only [mem_ends_seq, ← hq P s]
  constructor
  · rintro ⟨b, ⟨c, hc, hb⟩, hP⟩
    exact ⟨c, hc, b, hb, hP⟩
  · rintro ⟨c, hc, b, hb, hP⟩
    exact ⟨b, ⟨c, hc, hb⟩, hP⟩

theorem either (hp : IsWp p T) (hq : IsWp q U) : IsWp (either p q) fun P u => T P u ∨ U P u := by
  intro P s a
  refine .trans ?_ (or_congr (hp P s a) (hq P s a))
  simp only [mem_ends_either, or_and_right, exists_or]

theorem one : IsWp (one test) fun P u => ∃ c v, u = c :: v ∧ test c = true ∧ P v := by
  intro P s a
  simp only [mem_ends_one, and_assoc, exists_eq_left, Spot.place_move, List.getElem?_toArray]
  rw [← List.head?_drop, ← List.drop_drop]
  constructor
  · rintro ⟨hc, hP⟩
    obtain ⟨c, hhead, hc⟩ := (Option.any_eq_true _ _).1 hc
    obtain ⟨v, hv⟩ := List.head?_eq_some_iff.1 hhead
    exact ⟨c, v, hv, hc, by simpa [hv] using hP⟩
  · rintro ⟨c, v, hv, hc, hP⟩
    simpa [hv] using ⟨hc, hP⟩

/-- A character repeated: some of those that stand at the head are passed over. -/
theorem times_one {least : Nat} {most : Option Nat} (hmost : ∀ m ∈ most, least ≤ m) :
    IsWp (times .long least most (.one test)) fun P u =>
      ∃ k ≤ (u.takeWhile test).length, least ≤ k ∧ (∀ m ∈ most, k ≤ m) ∧ P (u.drop k) := by
  intro P s a
  simp only [mem_ends_times_one hmost, allFrom_iff_takeWhile, List.drop_drop]
  constructor
  · rintro ⟨b, ⟨k, rfl, hleast, hm, hk⟩, hP⟩
    exact ⟨k, hk, hleast, hm, hP⟩
  · rintro ⟨k, hk, hleast, hm, hP⟩
    exact ⟨a.move k, ⟨k, rfl, hleast, hm, hk⟩, hP⟩

end IsWp

/-- Given characters, and then what an expression asks for. -/
def spelled (w : List Char) (q : Regex) : Regex :=
  w.foldr (fun c q => seq (one (({} : Mode).code c.toNat)) q) q

theorem IsWp.spelled {T : (List Char → Prop) → List Char → Prop} (w : List Char) (hq : IsWp q T) :
    IsWp (spelled w q) fun P u => ∃ v, u = w ++ v ∧ T P v := by
  induction w with
  | nil => simpa [Regex.spelled] using hq
  | cons c w ih =>
    have hcode (d : Char) : ({} : Mode).code c.toNat d = true ↔ d = c := by
      rw [← Char.toNat_inj]
      simp [Mode.code, Mode.inRange]
      omega
    intro P s a
    refine (IsWp.one.seq ih P s a).trans ?_
    simp only [hcode]
    constructor
    · rintro ⟨d, u, hu, rfl, v, rfl, hv⟩
      exact ⟨v, hu, hv⟩
    · rintro ⟨v, hu, hv⟩
      exact ⟨c, w ++ v, hu, rfl, v, rfl, hv⟩

end BrightLint.Regex
