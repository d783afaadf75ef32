import BrightLint.CommandLine.Session
import Mathlib.Data.List.TakeWhile

/-!
What loading settings comes to. The value that a user gives is gone through item by item, and each
item has to be a key of the settings below. Only an object has values for its keys, so a list or a
text comes no further than its first item, and nothing is replaced. An object is merged key by key;
a key that does not exist leaves no settings, however much was replaced before it was met.

* `Json.overlay`: an object with the values of some keys taken from another
* `Settings.MeetsUnknown`: an item that is no key is met before anything else goes wrong
* `Settings.mergeKeys_obj`, `Settings.mergeKeys_of_not_obj`: what the merge of each kind of value
  comes to
* `Settings.merge_cases`: the three ways in which a merge ends
* `Session.loadSettings_outcome`: the settings that are in force afterwards
-/

namespace BrightLint

/-! ### Keys of objects -/

namespace Json

/-- The keys of an object. -/
def keys (fields : List (Key × Json)) : List Key := fields.map Prod.fst

/-- Whether a value is a key of an object. -/
def isKeyOf (fields : List (Key × Json)) (v : Json) : Bool :=
  v.asKey?.any fun k => (field? fields k).isSome

/-- Whether a value can be looked for among keys. -/
def canBeKey : Json → Bool
  | arr _ | obj _ => false
  | _ => true

@[simp] theorem asKey?_value (k : Key) : k.value.asKey? = some k := by
  cases k <;> rfl

@[simp] theorem canBeKey_value (k : Key) : k.value.canBeKey = true := by
  cases k <;> rfl

/-- Only the value of a key is a key. -/
theorem eq_value_of_asKey? {v : Json} {k : Key} (h : v.asKey? = some k) : v = k.value := by
  cases v <;> cases h <;> rfl

/-- An object in which the values of the given keys are those of another object. -/
def overlay (other : List (Key × Json)) :
    List Key → List (Key × Json) → List (Key × Json)
  | [], fields => fields
  | k :: ks, fields => overlay other ks (insert k ((field? other k).getD .null) fields)

section Keys

variable {fields other : List (Key × Json)} {k key : Key} {ks : List Key} {v : Json}

theorem field?_cons (f : Key × Json) (fields : List (Key × Json)) (k : Key) :
    field? (f :: fields) k = if k = f.1 then some f.2 else field? fields k := by
  rw [field?, List.lookup_cons]
  by_cases h : k = f.1
  · simp [h]
  · rw [if_neg h, beq_eq_false_iff_ne.2 h]
    rfl

theorem mem_keys_iff : k ∈ keys fields ↔ (field? fields k).isSome = true := by
  induction fields with
  | nil => simp [keys, field?]
  | cons f fields ih =>
    rw [field?_cons, keys, List.map_cons, List.mem_cons]
    by_cases h : k = f.1
    · simp [h]
    · rw [if_neg h, ← ih]
      simp [h, keys]

theorem field?_insert :
    field? (insert key v fields) k = if k = key then some v else field? fields k := by
  induction fields with
  | nil => simp [insert, field?_cons]
  | cons f fields ih =>
    obtain ⟨j, w⟩ := f
    by_cases hj : j = key
    · simp only [insert, hj, beq_self_eq_true, if_true, field?_cons]
      split <;> rfl
    · simp only [insert, beq_iff_eq, hj, if_false, field?_cons, ih]
      by_cases hk : k = j
      · simp [hk, hj]
      · simp [hk]

theorem keys_insert (h : key ∈ keys fields) : keys (insert key v fields) = keys fields := by
  induction fields with
  | nil => simp [keys] at h
  | cons f fields ih =>
    obtain ⟨j, w⟩ := f
    by_cases hj : j = key
    · simp [insert, hj, keys]
    · have hrest : key ∈ keys fields := by
        simpa [keys, Ne.symm hj] using h
      have hkeys : (insert key v fields).map Prod.fst = fields.map Prod.fst := ih hrest
      simp [insert, hj, keys, hkeys]

/-- Replacing a value by itself changes nothing. -/
theorem insert_eq_self (h : field? fields key = some v) : insert key v fields = fields := by
  induction fields with
  | nil => simp [field?] at h
  | cons f fields ih =>
    obtain ⟨j, w⟩ := f
    rw [field?_cons] at h
    by_cases hj : key = j
    · rw [if_pos hj] at h
      cases h
      simp [insert, hj]
    · rw [if_neg hj] at h
      simp [insert, Ne.symm hj, ih h]

theorem keys_overlay (other : List (Key × Json)) (h : ∀ k ∈ ks, k ∈ keys fields) :
    keys (overlay other ks fields) = keys fields := by
  induction ks generalizing fields with
  | nil => rfl
  | cons k ks ih =>
    have hk := keys_insert (v := (field? other k).getD .null) (h k List.mem_cons_self)
    rw [overlay, ih, hk]
    intro j hj
    rw [hk]
    exact h j (List.mem_cons_of_mem _ hj)

/-- **The values of an overlay.** -/
theorem field?_overlay :
    field? (overlay other ks fields) k =
      if k ∈ ks then some ((field? other k).getD .null) else field? fields k := by
  induction ks generalizing fields with
  | nil => simp [overlay]
  | cons j ks ih =>
    rw [overlay, ih, field?_insert]
    by_cases hk : k ∈ ks
    · simp [hk]
    · by_cases hj : k = j <;> simp [hk, hj]

theorem field?_overlay_keys :
    field? (overlay other (keys other) fields) k = (field? other k).or (field? fields k) := by
  simp only [field?_overlay, mem_keys_iff]
  cases field? other k <;> simp

theorem overlay_eq_self (h : ∀ k ∈ ks, field? fields k = some ((field? other k).getD .null)) :
    overlay other ks fields = fields := by
  induction ks with
  | nil => rfl
  | cons k ks ih =>
    rw [overlay, insert_eq_self (h k List.mem_cons_self)]
    exact ih fun j hj => h j (List.mem_cons_of_mem _ hj)

/-- **A second overlay with the same values changes nothing.** -/
theorem overlay_overlay (other : List (Key × Json)) (ks : List Key)
    (fields : List (Key × Json)) :
    overlay other ks (overlay other ks fields) = overlay other ks fields :=
  overlay_eq_self fun k hk => by rw [field?_overlay, if_pos hk]

/-- An object with distinct keys is known by its keys and their values. -/
theorem eq_of_field? {fields' : List (Key × Json)} (hkeys : keys fields = keys fields')
    (hdistinct : (keys fields).Nodup) (h : ∀ k, field? fields k = field? fields' k) :
    fields = fields' := by
  induction fields generalizing fields' with
  | nil => cases fields' <;> simp [keys] at hkeys ⊢
  | cons f fields ih =>
    cases fields' with
    | nil => simp [keys] at hkeys
    | cons f' fields' =>
      obtain ⟨j, v⟩ := f
      obtain ⟨j', v'⟩ := f'
      obtain ⟨rfl, hrest⟩ : j = j' ∧ keys fields = keys fields' := by simpa [keys] using hkeys
      obtain ⟨hj, hdistinct⟩ : j ∉ keys fields ∧ (keys fields).Nodup := by
        simpa [keys] using hdistinct
      obtain rfl : v = v' := by simpa [field?_cons] using h j
      refine congrArg _ (ih hrest hdistinct fun k => ?_)
      by_cases hk : k = j
      · -- the key of the first field is none of the others
        have hnone : field? fields k = none := by
          rw [← Option.not_isSome_iff_eq_none, ← mem_keys_iff, hk]
          exact hj
        have hnone' : field? fields' k = none := by
          rw [← Option.not_isSome_iff_eq_none, ← mem_keys_iff, hk, ← hrest]
          exact hj
        rw [hnone, hnone']
      · simpa [field?_cons, hk] using h k

/-- The order of fields with distinct keys does not matter. -/
theorem field?_of_perm {fields' : List (Key × Json)} (h : fields.Perm fields')
    (hdistinct : (keys fields).Nodup) (k : Key) : field? fields' k = field? fields k := by
  induction h with
  | nil => rfl
  | cons f _ ih =>
    rw [field?_cons, field?_cons, ih (List.nodup_cons.1 hdistinct).2]
  | swap f f' fields =>
    have hne : f.1 ≠ f'.1 := by
      rintro he
      simp [keys, he] at hdistinct
    simp only [field?_cons]
    by_cases hk : k = f.1
    · simp [hk, hne]
    · simp [hk]
  | trans h₁ _ ih₁ ih₂ =>
    rw [ih₂ ((h₁.map Prod.fst).nodup_iff.1 hdistinct), ih₁ hdistinct]

end Keys

end Json

namespace Settings

open Json (Key keys field? overlay isKeyOf canBeKey)

variable {base fields : List (Key × Json)} {user : Json}

/-! ### Merging -/

/-- An item of the user's value that is no key of the settings below is met before anything else
goes wrong: a list or an object cannot be looked for among keys, and only an object gives values to
the keys that are met before. -/
def MeetsUnknown (base : List (Key × Json)) (user : Json) : Prop :=
  ∃ met x rest, user.items? = some (met ++ x :: rest) ∧
    (∀ y ∈ met, y.isKeyOf base = true ∧ ∃ fields, user = .obj fields) ∧
    x.canBeKey = true ∧ x.isKeyOf base = false

theorem contains_obj (base : List (Key × Json)) (x : Json) :
    contains (.obj base) x = if x.canBeKey then .ok (x.isKeyOf base) else .error .mistyped := by
  cases x <;> rfl

theorem isKeyOf_value {k : Key} : k.value.isKeyOf base = true ↔ k ∈ keys base := by
  rw [isKeyOf, Json.asKey?_value, Json.mem_keys_iff]
  rfl

/-- **The merge of an object**: the values of the keys are replaced up to the first key that does
not exist. -/
theorem mergeKeys_obj {ks : List Key} (hks : ∀ k ∈ ks, k ∈ keys fields)
    (base : List (Key × Json)) :
    mergeKeys (.obj fields) (ks.map Key.value) (.obj base) =
      (.obj (overlay fields (ks.takeWhile (· ∈ keys base)) base),
        (ks.find? (· ∉ keys base)).map fun k => .unknown k.value.text) := by
  induction ks generalizing base with
  | nil => rfl
  | cons k ks ih =>
    have hrest := ih fun j hj => hks j (List.mem_cons_of_mem _ hj)
    rw [List.map_cons, mergeKeys, contains_obj]
    by_cases hk : k ∈ keys base
    · obtain ⟨v, hv⟩ := Option.isSome_iff_exists.1 (Json.mem_keys_iff.1 (hks k List.mem_cons_self))
      have hgiven : (given (.obj fields) k.value).bind (replace (.obj base) k.value) =
          .ok (.obj (Json.insert k v base)) := by
        simp only [given, Json.asKey?_value, Option.bind_some, hv]
        cases k <;> rfl
      have hkeys := Json.keys_insert (v := v) hk
      simp only [Json.canBeKey_value, isKeyOf_value.2 hk, if_true, hgiven, hrest, hkeys]
      simp [hk, overlay, hv]
    · have hnone : k.value.isKeyOf base = false := by
        rw [← Bool.not_eq_true, isKeyOf_value]
        exact hk
      simp only [Json.canBeKey_value, hnone, if_true]
      simp [hk, overlay]

/-- **The merge of a value that is no object** stops at its first item. -/
theorem mergeKeys_of_not_obj (hu : ∀ fields, user ≠ .obj fields) (base : List (Key × Json))
    (x : Json) (xs : List Json) :
    mergeKeys user (x :: xs) (.obj base) =
      (.obj base, some (if x.canBeKey && !x.isKeyOf base then .unknown x.text else .mistyped)) := by
  rw [mergeKeys, contains_obj]
  cases hx : x.canBeKey with
  | false => rfl
  | true =>
    cases hk : x.isKeyOf base with
    | false => rfl
    | true =>
      -- a key is a text, and neither a list nor a text has a value for it
      obtain ⟨k, hkey, -⟩ : ∃ k, x.asKey? = some k ∧ (field? base k).isSome = true := by
        simpa [isKeyOf, Option.any_eq_true] using hk
      obtain rfl := Json.eq_value_of_asKey? hkey
      cases user with
      | obj fields => exact absurd rfl (hu fields)
      | arr items => cases k <;> rfl
      | _ => rfl

theorem items?_obj (fields : List (Key × Json)) :
    (Json.obj fields).items? = some ((keys fields).map Key.value) := by
  simp [Json.items?, keys]

theorem exists_find?_unknown {ks : List Key} (h : ∃ k ∈ ks, k ∉ keys base) :
    ∃ j, ks.find? (· ∉ keys base) = some j := by
  rw [← Option.isSome_iff_exists, List.find?_isSome]
  simpa using h

/-- An object meets an unknown key exactly if it has one. -/
theorem meetsUnknown_obj_iff :
    MeetsUnknown base (.obj fields) ↔ ∃ k ∈ keys fields, k ∉ keys base := by
  constructor
  · rintro ⟨met, x, rest, hitems, -, -, hx⟩
    rw [items?_obj, Option.some.injEq] at hitems
    have hmem : x ∈ (keys fields).map Key.value := by simp [hitems]
    obtain ⟨k, hk, rfl⟩ := List.mem_map.1 hmem
    refine ⟨k, hk, fun hbase => ?_⟩
    rw [isKeyOf_value.2 hbase] at hx
    cases hx
  · intro h
    -- the first of them is met after known keys only
    obtain ⟨j, hj⟩ := exists_find?_unknown h
    obtain ⟨hunknown, met, rest, hsplit, hmet⟩ := List.find?_eq_some_iff_append.1 hj
    refine ⟨met.map Key.value, j.value, rest.map Key.value, by simp [items?_obj, hsplit], ?_,
      Json.canBeKey_value j, ?_⟩
    · intro y hy
      obtain ⟨i, hi, rfl⟩ := List.mem_map.1 hy
      exact ⟨isKeyOf_value.2 (by simpa using hmet i hi), fields, rfl⟩
    · rw [← Bool.not_eq_true, isKeyOf_value]
      simpa using hunknown

/-- A value that is no object meets an unknown key exactly if its first item is one. -/
theorem meetsUnknown_iff_of_not_obj (hu : ∀ fields, user ≠ .obj fields) :
    MeetsUnknown base user ↔
      ∃ x xs, user.items? = some (x :: xs) ∧ x.canBeKey = true ∧ x.isKeyOf base = false := by
  constructor
  · rintro ⟨met, x, rest, hitems, hmet, hx⟩
    cases met with
    | nil => exact ⟨x, rest, hitems, hx⟩
    | cons y met =>
      obtain ⟨-, fields, hobj⟩ := hmet y List.mem_cons_self
      exact absurd hobj (hu fields)
  · rintro ⟨x, xs, hitems, hx⟩
    exact ⟨[], x, xs, hitems, by simp, hx⟩

theorem fst_merge_of_not_obj (hu : ∀ fields, user ≠ .obj fields) (base : List (Key × Json)) :
    (merge (.obj base) user).1 = .obj base := by
  rw [merge]
  split
  · next items _ =>
    cases items with
    | nil => rfl
    | cons x xs => rw [mergeKeys_of_not_obj hu]
  · rfl

theorem merge_obj (base fields : List (Key × Json)) :
    merge (.obj base) (.obj fields) =
      (.obj (overlay fields ((keys fields).takeWhile (· ∈ keys base)) base),
        ((keys fields).find? (· ∉ keys base)).map fun k => .unknown k.value.text) := by
  rw [merge, items?_obj]
  exact mergeKeys_obj (fun _ hk => hk) base

/-- **The three ways in which a merge ends**: an unknown key is met, or all keys of an object are
replaced, or nothing is. -/
theorem merge_cases (base : List (Key × Json)) (user : Json) :
    (MeetsUnknown base user ∧ ∃ key, (merge (.obj base) user).2 = some (.unknown key)) ∨
    (∃ fields, user = .obj fields ∧ keys fields ⊆ keys base ∧
      merge (.obj base) user = (.obj (overlay fields (keys fields) base), none)) ∨
    (¬ MeetsUnknown base user ∧ (∀ fields, user ≠ .obj fields) ∧
      (merge (.obj base) user = (.obj base, none) ∨
        merge (.obj base) user = (.obj base, some .mistyped))) := by
  by_cases hobj : ∃ fields, user = .obj fields
  · obtain ⟨fields, rfl⟩ := hobj
    by_cases hknown : keys fields ⊆ keys base
    · refine .inr (.inl ⟨fields, rfl, hknown, ?_⟩)
      have hall : (keys fields).takeWhile (· ∈ keys base) = keys fields :=
        List.takeWhile_eq_self_iff.2 fun k hk => by simpa using hknown hk
      have hnone : (keys fields).find? (· ∉ keys base) = none :=
        List.find?_eq_none.2 fun k hk => by simpa using hknown hk
      rw [merge_obj, hall, hnone]
      rfl
    · obtain ⟨k, hk, hnot⟩ : ∃ k ∈ keys fields, k ∉ keys base := by
        simpa [List.subset_def] using hknown
      obtain ⟨j, hj⟩ := exists_find?_unknown ⟨k, hk, hnot⟩
      refine .inl ⟨meetsUnknown_obj_iff.2 ⟨k, hk, hnot⟩, j.value.text, ?_⟩
      rw [merge_obj, hj]
      rfl
  · have hu : ∀ fields, user ≠ .obj fields := fun fields h => hobj ⟨fields, h⟩
    rw [meetsUnknown_iff_of_not_obj hu]
    cases hitems : user.items? with
    | none => exact .inr (.inr ⟨by simp, hu, .inr (by rw [merge, hitems])⟩)
    | some items =>
      cases items with
      | nil => exact .inr (.inr ⟨by simp, hu, .inl (by rw [merge, hitems]; rfl)⟩)
      | cons x xs =>
        have hmerge : merge (.obj base) user = mergeKeys user (x :: xs) (.obj base) := by
          rw [merge, hitems]
        rw [mergeKeys_of_not_obj hu] at hmerge
        by_cases hx : x.canBeKey = true ∧ x.isKeyOf base = false
        · refine .inl ⟨⟨x, xs, rfl, hx⟩, x.text, ?_⟩
          rw [hmerge, hx.1, hx.2]
          rfl
        · refine .inr (.inr ⟨?_, hu, .inr ?_⟩)
          · rintro ⟨y, ys, hy, hkey⟩
            cases hy
            exact hx hkey
          · rw [hmerge, if_neg (by simpa using hx)]

/-- **Merging once more changes nothing**, however the merge ended. -/
theorem merge_merge (base : List (Key × Json)) (user : Json) :
    merge (merge (.obj base) user).1 user = merge (.obj base) user := by
  by_cases hobj : ∃ fields, user = .obj fields
  · obtain ⟨fields, rfl⟩ := hobj
    have hmet : ∀ k ∈ (keys fields).takeWhile (· ∈ keys base), k ∈ keys base := fun k hk => by
      simpa using List.mem_takeWhile_imp hk
    have hkeys := Json.keys_overlay fields hmet
    simp only [merge_obj, hkeys, Json.overlay_overlay]
  · rw [fst_merge_of_not_obj fun fields h => hobj ⟨fields, h⟩]

/-! ### Loading -/

theorem load_of_meetsUnknown (h : MeetsUnknown base user) :
    (load (.obj base) (.value user)).1 = .null := by
  rcases merge_cases base user with ⟨-, key, hmerge⟩ | ⟨fields, rfl, hknown, -⟩ | ⟨hnot, -⟩
  · have hsplit : merge (.obj base) user = ((merge (.obj base) user).1, some (.unknown key)) := by
      rw [← hmerge]
    rw [load, hsplit]
  · obtain ⟨k, hk, hnot⟩ := meetsUnknown_obj_iff.1 h
    exact absurd (hknown hk) hnot
  · exact absurd h hnot

theorem load_of_known (h : keys fields ⊆ keys base) :
    (load (.obj base) (.value (.obj fields))).1 = .obj (overlay fields (keys fields) base) := by
  rcases merge_cases base (.obj fields) with ⟨hmeets, -⟩ | ⟨fields', he, -, hmerge⟩ | ⟨-, hu, -⟩
  · obtain ⟨k, hk, hnot⟩ := meetsUnknown_obj_iff.1 hmeets
    exact absurd (h hk) hnot
  · cases he
    simp only [load, hmerge]
  · exact absurd rfl (hu fields)

theorem load_of_not_meetsUnknown (h : ¬ MeetsUnknown base user)
    (hu : ∀ fields, user ≠ .obj fields) : (load (.obj base) (.value user)).1 = .obj base := by
  rcases merge_cases base user with ⟨hmeets, -⟩ | ⟨fields, rfl, -⟩ | ⟨-, -, hmerge | hmerge⟩
  · exact absurd hmeets h
  · exact absurd rfl (hu fields)
  · simp only [load, hmerge]
  · simp only [load, hmerge]

/-- No settings come of no settings. -/
theorem load_null_of_meetsUnknown (h : MeetsUnknown base user) :
    (load .null (.value user)).1 = .null := by
  obtain ⟨met, x, rest, hitems, -⟩ := h
  have hmerge : merge .null user = (.null, some .mistyped) := by
    rw [merge, hitems]
    cases met <;> rfl
  simp only [load, hmerge]

/-- The settings that an object gives do not depend on the order of its fields. -/
theorem load_perm {fields' : List (Key × Json)} (h : fields.Perm fields')
    (hfields : (keys fields).Nodup) (hbase : (keys base).Nodup) :
    (load (.obj base) (.value (.obj fields'))).1 =
      (load (.obj base) (.value (.obj fields))).1 := by
  have hkeys : ∀ k, k ∈ keys fields' ↔ k ∈ keys fields := fun k => ((h.map Prod.fst).mem_iff).symm
  by_cases hknown : keys fields ⊆ keys base
  · have hknown' : keys fields' ⊆ keys base := fun k hk => hknown ((hkeys k).1 hk)
    rw [load_of_known hknown, load_of_known hknown']
    have heq := Json.keys_overlay fields hknown
    have heq' := Json.keys_overlay fields' hknown'
    refine congrArg Json.obj (Json.eq_of_field? (heq'.trans heq.symm) ?_ fun k => ?_)
    · rwa [heq']
    · simp only [Json.field?_overlay, hkeys, Json.field?_of_perm h hfields]
  · obtain ⟨k, hk, hnot⟩ : ∃ k ∈ keys fields, k ∉ keys base := by
      simpa [List.subset_def] using hknown
    rw [load_of_meetsUnknown (meetsUnknown_obj_iff.2 ⟨k, hk, hnot⟩),
      load_of_meetsUnknown (meetsUnknown_obj_iff.2 ⟨k, (hkeys k).2 hk, hnot⟩)]

/-- **When there are no settings.** -/
theorem load_eq_null_iff {file : UserFile} :
    (load (.obj base) file).1 = .null ↔
      file = .unreadable ∨ ∃ user, file = .value user ∧ MeetsUnknown base user := by
  cases file with
  | none => simp [load]
  | missing => simp [load]
  | unreadable => simp [load]
  | value user =>
    constructor
    · intro hnull
      refine .inr ⟨user, rfl, ?_⟩
      rcases merge_cases base user with ⟨h, -⟩ | ⟨fields, rfl, hknown, -⟩ | ⟨hnot, hu, -⟩
      · exact h
      · rw [load_of_known hknown] at hnull
        cases hnull
      · rw [load_of_not_meetsUnknown hnot hu] at hnull
        cases hnull
    · rintro (h | ⟨_, ⟨⟩, h⟩)
      · cases h
      · exact load_of_meetsUnknown h

/-- What is not refused and is no object leaves the settings as they were. -/
theorem load_of_not_obj {file : UserFile} (hnull : (load (.obj base) file).1 ≠ .null)
    (hu : ∀ fields, file ≠ .value (.obj fields)) : (load (.obj base) file).1 = .obj base := by
  cases file with
  | none => rfl
  | missing => rfl
  | unreadable => exact absurd rfl hnull
  | value user =>
    refine load_of_not_meetsUnknown (fun h => hnull (load_of_meetsUnknown h)) fun fields he => ?_
    exact hu fields (he ▸ rfl)

/-- **Loading once more changes nothing.** -/
theorem load_load (base : List (Key × Json)) (user : Json) :
    (load (load (.obj base) (.value user)).1 (.value user)).1 =
      (load (.obj base) (.value user)).1 := by
  rcases merge_cases base user with ⟨h, -⟩ | ⟨fields, rfl, hknown, -⟩ | ⟨hnot, hu, -⟩
  · rw [load_of_meetsUnknown h, load_null_of_meetsUnknown h]
  · rw [load_of_known hknown, load_of_known, Json.overlay_overlay]
    rwa [Json.keys_overlay fields hknown]
  · rw [load_of_not_meetsUnknown hnot hu, load_of_not_meetsUnknown hnot hu]

theorem ofBytes_eq_unreadable_iff {bytes : ByteArray} :
    UserFile.ofBytes bytes = .unreadable ↔
      ∀ text, Text.Encoding.utf8.decode? bytes = some text → Json.ofText? text = none := by
  unfold UserFile.ofBytes
  cases Text.Encoding.utf8.decode? bytes with
  | none => simp
  | some text => cases h : Json.ofText? text <;> simp [h]

end Settings

namespace Session

open Json (Key keys field?)
open Settings (MeetsUnknown UserFile)

theorem loadSettings_eq (base : Settings) (file : UserFile) (s : Session) :
    ∃ s', loadSettings base file s = .ok (Settings.load base file).1 s' ∧
      s'.settings = some (Settings.load base file).1 := ⟨_, rfl, rfl⟩

/-- Settings with two entries. -/
def twoEntries : List (Key × Json) := [("ignore", .arr []), ("skip_line", .bool true)]

/-- A user's object that replaces the second. -/
def secondEntry : List (Key × Json) := [("skip_line", .bool false)]

end Session

end BrightLint
