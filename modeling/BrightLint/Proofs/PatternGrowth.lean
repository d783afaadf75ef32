import BrightLint.Proofs.NestedIndentation

/-!
Patterns and longer texts. A pattern that neither looks for the end of a text nor for the edge of a
word fits every text that starts with one that it fits.

* `Pattern.Within`: places that a number of rounds leads to
* `Pattern.mem_withinRounds_iff`: the places collected round by round are those
* `Pattern.fits_append`: what fits a text fits a longer one
-/

namespace BrightLint.Pattern

variable {f g : Nat → List Nat} {i j n m : Nat} {seen latest : List Nat}

/-! ### Rounds -/

/-- At most `n` rounds of a step lead from a place to another. -/
inductive Within (f : Nat → List Nat) : Nat → Nat → Nat → Prop where
  | refl {n i : Nat} : Within f n i i
  | step {n i k j : Nat} : k ∈ f i → Within f n k j → Within f (n + 1) i j

theorem Within.mono (hfg : ∀ i, f i ⊆ g i) (h : Within f n i j) (hn : n ≤ m) : Within g m i j := by
  induction h generalizing m with
  | refl => exact .refl
  | step hk _ ih =>
    obtain ⟨m, rfl⟩ := Nat.exists_eq_add_of_le' hn
    exact .step (hfg _ hk) (ih (Nat.le_add_left _ _))

theorem afterRounds_succ (f : Nat → List Nat) (n : Nat) (places : List Nat) :
    afterRounds f (n + 1) places = afterRounds f n (places.flatMap f).eraseDups := by
  cases places with
  | nil => exact (afterRounds_nil f n).symm
  | cons i places => rfl

theorem afterRounds_subset (hfg : ∀ i, f i ⊆ g i) (n : Nat) {ps qs : List Nat} (h : ps ⊆ qs) :
    afterRounds f n ps ⊆ afterRounds g n qs := by
  induction n generalizing ps qs with
  | zero => exact h
  | succ n ih =>
    rw [afterRounds_succ, afterRounds_succ]
    refine ih fun j hj => ?_
    obtain ⟨i, hi, hj⟩ := List.mem_flatMap.1 (List.mem_eraseDups.1 hj)
    exact List.mem_eraseDups.2 (List.mem_flatMap.2 ⟨i, h hi, hfg i hj⟩)

/-- The places that one more round reaches for the first time. -/
def newPlaces (f : Nat → List Nat) (seen latest : List Nat) : List Nat :=
  (latest.flatMap f).eraseDups.filter (!seen.contains ·)

theorem withinRounds_succ (f : Nat → List Nat) (n : Nat) (seen latest : List Nat) :
    withinRounds f (n + 1) seen latest =
      withinRounds f n (newPlaces f seen latest ++ seen) (newPlaces f seen latest) := by
  cases latest with
  | nil => cases n <;> rfl
  | cons i latest => rfl

theorem mem_newPlaces : j ∈ newPlaces f seen latest ↔ (∃ i ∈ latest, j ∈ f i) ∧ j ∉ seen := by
  simp [newPlaces]

theorem subset_withinRounds (f : Nat → List Nat) (n : Nat) (seen latest : List Nat) :
    seen ⊆ withinRounds f n seen latest := by
  induction n generalizing seen latest with
  | zero => exact fun _ hj => hj
  | succ n ih =>
    rw [withinRounds_succ]
    exact fun j hj => ih _ _ (List.mem_append_right _ hj)

theorem within_of_mem (hlatest : latest ⊆ seen) (h : j ∈ withinRounds f n seen latest) :
    ∃ i ∈ seen, Within f n i j := by
  induction n generalizing seen latest with
  | zero => exact ⟨j, h, .refl⟩
  | succ n ih =>
    rw [withinRounds_succ] at h
    obtain ⟨k, hk, hwithin⟩ := ih (List.subset_append_left _ _) h
    rcases List.mem_append.1 hk with hk | hk
    · obtain ⟨⟨i, hi, hstep⟩, -⟩ := mem_newPlaces.1 hk
      exact ⟨i, hlatest hi, .step hstep hwithin⟩
    · exact ⟨k, hk, hwithin.mono (fun _ _ h => h) (Nat.le_succ n)⟩

/-- No place is gone on from twice: those that are not among the latest have been gone on from. -/
theorem mem_of_within (hseen : ∀ i ∈ seen, i ∈ latest ∨ f i ⊆ seen) (hi : i ∈ seen)
    (h : Within f n i j) : j ∈ withinRounds f n seen latest := by
  induction n generalizing seen latest i with
  | zero =>
    cases h
    exact hi
  | succ n ih =>
    cases h with
    | refl => exact subset_withinRounds f _ _ _ hi
    | @step _ _ k _ hk hwithin =>
      have hsteps : ∀ i ∈ seen, ∀ k ∈ f i, k ∈ newPlaces f seen latest ++ seen := by
        intro i hi k hk
        by_cases hmem : k ∈ seen
        · exact List.mem_append_right _ hmem
        · rcases hseen i hi with hlate | hdone
          · exact List.mem_append_left _ (mem_newPlaces.2 ⟨⟨i, hlate, hk⟩, hmem⟩)
          · exact absurd (hdone hk) hmem
      rw [withinRounds_succ]
      refine ih (fun a ha => ?_) (hsteps i hi k hk) hwithin
      exact (List.mem_append.1 ha).imp_right fun hmem b hb => hsteps a hmem b hb

/-- The places collected round by round are those that the rounds lead to. -/
theorem mem_withinRounds_iff : j ∈ withinRounds f n seen seen ↔ ∃ i ∈ seen, Within f n i j := by
  constructor
  · exact within_of_mem fun _ h => h
  · rintro ⟨i, hi, h⟩
    exact mem_of_within (fun _ h => .inl h) hi h

/-! ### Longer texts -/

/-- Whether a pattern asks neither for the end of a text nor for the edge of a word. -/
def endsFreely : Pattern → Bool
  | stop | edge => false
  | seq p q | either p q => p.endsFreely && q.endsFreely
  | times _ _ p => p.endsFreely
  | _ => true

/-- Where a match can end, it can end in a longer text. -/
theorem ends_append {p : Pattern} (hp : p.endsFreely = true) (s t : List Char) (i : Nat) :
    p.ends s.toArray i ⊆ p.ends (s ++ t).toArray i := by
  induction p generalizing i with
  | empty => exact fun _ h => h
  | one test =>
    intro j hj
    simp only [ends] at hj ⊢
    split at hj
    · next hone =>
      obtain ⟨c, hc, htest⟩ := (Option.any_eq_true _ _).1 hone
      have hlonger : (s ++ t).toArray[i]? = some c := by
        rw [List.getElem?_toArray] at hc ⊢
        exact List.getElem?_append_left (List.getElem?_eq_some_iff.1 hc).1 ▸ hc
      rw [hlonger, Option.any_some, if_pos htest]
      exact hj
    · cases hj
  | seq p q hp' hq =>
    obtain ⟨hone, htwo⟩ := Bool.and_eq_true_iff.1 hp
    intro j hj
    simp only [ends, List.mem_eraseDups, List.mem_flatMap] at hj ⊢
    obtain ⟨k, hk, hj⟩ := hj
    exact ⟨k, hp' hone i hk, hq htwo k hj⟩
  | either p q hp' hq =>
    obtain ⟨hone, htwo⟩ := Bool.and_eq_true_iff.1 hp
    intro j hj
    simp only [ends, List.mem_eraseDups, List.mem_append] at hj ⊢
    exact hj.imp (fun h => hp' hone i h) fun h => hq htwo i h
  | times least most p ih =>
    have hsure := afterRounds_subset (ih hp) least fun (_ : Nat) (h : _ ∈ [i]) => h
    intro j hj
    simp only [ends] at hj ⊢
    split at hj
    · cases hj
    · next hbounds =>
      rw [if_neg hbounds]
      obtain ⟨k, hk, hwithin⟩ := mem_withinRounds_iff.1 hj
      refine mem_withinRounds_iff.2 ⟨k, hsure hk, hwithin.mono (ih hp) ?_⟩
      cases most with
      | some m => exact Nat.le_refl _
      | none =>
        simp only [List.size_toArray, List.length_append]
        omega
  | start => exact fun _ h => h
  | stop => cases hp
  | edge => cases hp

/-- **What fits a text fits a longer one.** -/
theorem fits_append {p : Pattern} (hp : p.endsFreely = true) {s : List Char} (t : List Char)
    (h : p.fits s = true) : p.fits (s ++ t) = true := by
  unfold fits at h ⊢
  rw [Bool.not_eq_true', List.isEmpty_eq_false_iff_exists_mem] at h ⊢
  obtain ⟨j, hj⟩ := h
  exact ⟨j, ends_append hp s t 0 hj⟩

end BrightLint.Pattern
