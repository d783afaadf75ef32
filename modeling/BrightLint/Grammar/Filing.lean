/-!
Filing rules: under a priority, and there under the symbol that a statement has to end with. Each
rule is stamped with the priority under which it is filed.
-/

namespace BrightLint

/-- Values under keys, in the order in which the keys first came. -/
abbrev Register (κ α : Type) := List (κ × α)

namespace Register

variable {κ α : Type}

/-- Puts a value under a key. What stood there before is replaced in its place. -/
def put (same : κ → κ → Bool) (key : κ) (v : α) : Register κ α → Register κ α
  | [] => [(key, v)]
  | (k, w) :: rest => if same k key then (k, v) :: rest else (k, w) :: put same key v rest

/-- The register of a list of entries; of two under one key the later counts. -/
def ofList (same : κ → κ → Bool) (entries : List (κ × α)) : Register κ α :=
  entries.foldl (fun reg (k, v) => put same k v reg) []

end Register

/-- Rules of type `ρ` under priorities of type `π` and symbols of type `σ`. -/
abbrev Filing (π σ ρ : Type) := Register π (Register σ (List ρ))

/-- The filing in which each rule carries its priority. -/
def Filing.stamp {π σ ρ : Type} (f : Filing π σ ρ) : Filing π σ (ρ × π) :=
  f.map fun (priority, level) =>
    (priority, level.map fun (final, rules) => (final, rules.map (·, priority)))

end BrightLint
