import BrightLint.Proofs.PatternGrowth

/-!
Where the matches of a pattern end, said of each way in which a pattern is made up.

* `Pattern.fits_iff`: a text fits if there is a match that starts with it
* `Pattern.mem_ends_seq`, `Pattern.mem_ends_either`: patterns one after the other, and either of two
* `Pattern.mem_ends_exactly`, `Pattern.mem_ends_many`: characters of a class, as many as are asked
  for or as many as there are
* `Pattern.mem_ends_literal`, `Pattern.mem_ends_literalFolded`: a given text
-/

namespace BrightLint.Pattern

variable {p q : Pattern} {test : Char → Bool} {text : Array Char} {s w : List Char} {i j n : Nat}

theorem fits_iff : p.fits s = true ↔ ∃ j, j ∈ p.ends s.toArray 0 := by
  rw [fits, Bool.not_eq_true', List.isEmpty_eq_false_iff_exists_mem]

/-! ### Single characters and places -/

@[simp]
theorem mem_ends_empty : j ∈ empty.ends text i ↔ j = i := by simp [ends]

@[simp]
theorem mem_ends_one : j ∈ (one test).ends text i ↔ j = i + 1 ∧ text[i]?.any test = true := by
  rw [ends]
  split <;> simp_all

@[simp]
theorem mem_ends_stop : j ∈ stop.ends text i ↔ j = i ∧ isLast text i = true := by
  rw [ends]
  split <;> simp_all

@[simp]
theorem mem_ends_edge : j ∈ edge.ends text i ↔ j = i ∧ isWordEdge text i = true := by
  rw [ends]
  split <;> simp_all

/-! ### Compound patterns -/

@[simp]
theorem mem_ends_seq : j ∈ (seq p q).ends text i ↔ ∃ k ∈ p.ends text i, j ∈ q.ends text k := by
  simp [ends]

@[simp]
theorem mem_ends_either :
    j ∈ (either p q).ends text i ↔ j ∈ p.ends text i ∨ j ∈ q.ends text i := by
  simp [ends]

/-- A character and then a text, compared after a mapping. -/
theorem mem_ends_cons {f : Char → Char} {c : Char}
    (hp : ∀ i j, j ∈ p.ends s.toArray i ↔ j = i + w.length ∧ w.map f <+: (s.drop i).map f) :
    j ∈ (seq (one (f · == f c)) p).ends s.toArray i ↔
      j = i + (c :: w).length ∧ (c :: w).map f <+: (s.drop i).map f := by
  rw [mem_ends_seq]
  simp only [mem_ends_one, hp, List.getElem?_toArray, and_assoc, exists_eq_left, List.length_cons]
  rw [← List.head?_drop, ← List.drop_drop]
  cases s.drop i with
  | nil => simp
  | cons d t =>
    rw [List.map_cons, List.map_cons, List.cons_prefix_cons, List.head?_cons, Option.any_some,
      beq_iff_eq, List.drop_one, List.tail_cons, @eq_comm _ (f d), Nat.add_assoc, Nat.add_comm 1]
    exact and_left_comm

/-- A given text: it stands at the place where the match starts. -/
theorem mem_ends_literal :
    j ∈ (literal w).ends s.toArray i ↔ j = i + w.length ∧ w <+: s.drop i := by
  induction w generalizing i j with
  | nil => simp [literal]
  | cons c w ih =>
    have hw : ∀ i j, j ∈ (literal w).ends s.toArray i ↔
        j = i + w.length ∧ w.map id <+: (s.drop i).map id := fun i j => by
      rw [List.map_id, List.map_id]
      exact ih
    have hcons := mem_ends_cons (c := c) hw (i := i) (j := j)
    rw [List.map_id, List.map_id] at hcons
    exact hcons

/-- A given text in any case. -/
theorem mem_ends_literalFolded :
    j ∈ (literalFolded w).ends s.toArray i ↔
      j = i + w.length ∧ w.map Text.fold <+: (s.drop i).map Text.fold := by
  induction w generalizing i j with
  | nil => simp [literalFolded]
  | cons c w ih => exact mem_ends_cons fun i j => ih

/-! ### Repetitions of a character -/

/-- Whether a number of characters from a place on are of a class. -/
def AllFrom (text : Array Char) (test : Char → Bool) (i n : Nat) : Prop :=
  ∀ k < n, text[i + k]?.any test = true

theorem allFrom_zero (text : Array Char) (test : Char → Bool) (i : Nat) : AllFrom text test i 0 :=
  fun _ hk => absurd hk (Nat.not_lt_zero _)

theorem allFrom_succ :
    AllFrom text test i (n + 1) ↔ text[i]?.any test = true ∧ AllFrom text test (i + 1) n := by
  constructor
  · intro h
    refine ⟨h 0 (Nat.succ_pos n), fun k hk => ?_⟩
    rw [Nat.add_right_comm]
    exact h (k + 1) (Nat.succ_lt_succ hk)
  · rintro ⟨hfirst, hrest⟩ k hk
    cases k with
    | zero => exact hfirst
    | succ k =>
      rw [← Nat.add_assoc, Nat.add_right_comm]
      exact hrest k (Nat.lt_of_succ_lt_succ hk)

theorem allFrom_add {m : Nat} :
    AllFrom text test i (n + m) ↔ AllFrom text test i n ∧ AllFrom text test (i + n) m := by
  induction n generalizing i with
  | zero => simp [allFrom_zero]
  | succ n ih => rw [Nat.add_right_comm, allFrom_succ, allFrom_succ, ih, and_assoc,
      Nat.add_assoc, Nat.add_comm 1]

/-- There are no more characters than the text has. -/
theorem AllFrom.le_size (h : AllFrom text test i n) : n ≤ text.size - i := by
  cases n with
  | zero => exact Nat.zero_le _
  | succ n =>
    obtain ⟨c, hc, -⟩ := (Option.any_eq_true _ _).1 (h n (Nat.lt_succ_self n))
    have hlt := (Array.getElem?_eq_some_iff.1 hc).1
    omega

theorem allFrom_iff_takeWhile :
    AllFrom s.toArray test i n ↔ n ≤ ((s.drop i).takeWhile test).length := by
  induction n generalizing i with
  | zero => simp [allFrom_zero]
  | succ n ih =>
    rw [allFrom_succ, ih, List.getElem?_toArray, ← List.head?_drop, ← List.drop_drop]
    cases s.drop i with
    | nil => simp
    | cons c t => by_cases hc : test c = true <;> simp [hc]

theorem mem_afterRounds_one :
    j ∈ afterRounds ((one test).ends text) n [i] ↔ j = i + n ∧ AllFrom text test i n := by
  induction n generalizing i with
  | zero => simp [afterRounds, allFrom_zero]
  | succ n ih =>
    rw [afterRounds_succ, List.flatMap_singleton, allFrom_succ, ends]
    split
    · next h =>
      have hsingle : [i + 1].eraseDups = [i + 1] := by simp [List.eraseDups_cons]
      rw [hsingle, ih, Nat.add_assoc, Nat.add_comm 1]
      exact and_congr_right fun _ => (and_iff_right h).symm
    · next h => simp [afterRounds_nil, h]

/-- As many characters of a class as are asked for. -/
theorem mem_ends_exactly :
    j ∈ (times n (some n) (one test)).ends text i ↔ j = i + n ∧ AllFrom text test i n := by
  rw [← mem_afterRounds_one, ends]
  simp [withinRounds]

/-- Rounds of a single character lead from its place to the next. -/
theorem within_one : Within ((one test).ends text) n i j ↔
    ∃ k ≤ n, j = i + k ∧ AllFrom text test i k := by
  constructor
  · intro h
    induction h with
    | refl => exact ⟨0, Nat.zero_le _, rfl, allFrom_zero _ _ _⟩
    | step hk _ ih =>
      obtain ⟨rfl, hone⟩ := mem_ends_one.1 hk
      obtain ⟨k, hk, rfl, hall⟩ := ih
      exact ⟨k + 1, Nat.succ_le_succ hk, by omega, allFrom_succ.2 ⟨hone, hall⟩⟩
  · rintro ⟨k, hk, rfl, hall⟩
    induction k generalizing i n with
    | zero => exact .refl
    | succ k ih =>
      obtain ⟨n, rfl⟩ := Nat.exists_eq_add_of_le' hk
      obtain ⟨hone, hall⟩ := allFrom_succ.1 hall
      have hrest := ih (Nat.le_of_succ_le_succ hk) hall
      rw [Nat.add_assoc, Nat.add_comm 1] at hrest
      exact .step (mem_ends_one.2 ⟨rfl, hone⟩) hrest

theorem mem_ends_optional :
    j ∈ (optional (one test)).ends text i ↔ j = i ∨ j = i + 1 ∧ text[i]?.any test = true := by
  have hends : (optional (one test)).ends text i = withinRounds ((one test).ends text) 1 [i] [i] :=
    rfl
  rw [hends, mem_withinRounds_iff]
  simp only [List.mem_singleton, exists_eq_left, within_one]
  constructor
  · rintro ⟨k, hk, rfl, hall⟩
    obtain rfl | rfl : k = 0 ∨ k = 1 := by omega
    · exact .inl rfl
    · exact .inr ⟨rfl, hall 0 Nat.one_pos⟩
  · rintro (rfl | ⟨rfl, hone⟩)
    · exact ⟨0, Nat.zero_le _, rfl, allFrom_zero _ _ _⟩
    · exact ⟨1, Nat.le_refl _, rfl, allFrom_succ.2 ⟨hone, allFrom_zero _ _ _⟩⟩

/-- Any number of characters of a class. -/
theorem mem_ends_many :
    j ∈ (many (one test)).ends text i ↔ ∃ n, j = i + n ∧ AllFrom text test i n := by
  have hends : (many (one test)).ends text i =
      withinRounds ((one test).ends text) (text.size - i) [i] [i] := rfl
  rw [hends, mem_withinRounds_iff]
  simp only [List.mem_singleton, exists_eq_left, within_one]
  exact exists_congr fun n => and_iff_right_of_imp fun h => h.2.le_size

end BrightLint.Pattern
