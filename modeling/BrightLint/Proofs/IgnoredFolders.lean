import BrightLint.Project.Ignore

/-!
Which directories are ignored. An entry of the list and the path of a directory are compared with a
slash at either end, so an entry names whole directories and never a beginning of a name. The path
of the directory is taken from that of the project by removing the path of the project from it, and
every occurrence is removed. So the entries are compared with the names below the project if and
only if the path of the project does not occur once more in what follows it.

* `Text.remove_append`, `Text.length_removeFrom_of_infix`: what is left after a removal
* `Path.framed`, `Path.framed_prefix_iff`: names with slashes around them
* `Path.below`, `Path.restBelow`: the path of a directory below another, and what it adds
* `isIgnored_below`: what is ignored
-/

namespace BrightLint

/-! ### Removing a part of a text -/

namespace Text

variable {part : List Char}

theorem removeFrom_eq_drop (k : Nat) (s : List Char) :
    removeFrom part k s = removeFrom part 0 (s.drop k) := by
  induction s generalizing k with
  | nil => cases k <;> simp [removeFrom]
  | cons c s ih =>
    cases k with
    | zero => rfl
    | succ k => rw [removeFrom, ih, List.drop_succ_cons]

theorem length_removeFrom_le (k : Nat) (s : List Char) :
    (removeFrom part k s).length ≤ s.length - k := by
  induction s generalizing k with
  | nil => simp [removeFrom]
  | cons c s ih =>
    cases k with
    | zero =>
      rw [removeFrom]
      split
      · exact Nat.le_trans (ih _) (by simp; omega)
      · simpa using ih 0
    | succ k => simpa [removeFrom] using ih k

/-- Where a part does not occur, nothing is removed. -/
theorem removeFrom_of_not_infix {s : List Char} (h : ¬ part <:+: s) : removeFrom part 0 s = s := by
  induction s with
  | nil => rfl
  | cons c s ih =>
    rw [List.infix_cons_iff, not_or] at h
    rw [removeFrom, if_neg (by simpa using h.1), ih h.2]

/-- Where it occurs, its characters are gone. -/
theorem length_removeFrom_of_infix (hpart : part ≠ []) {s : List Char} (h : part <:+: s) :
    (removeFrom part 0 s).length + part.length ≤ s.length := by
  induction s with
  | nil => exact absurd (List.infix_nil.1 h) hpart
  | cons c s ih =>
    have hpos := List.length_pos_iff.2 hpart
    rw [removeFrom]
    split
    · next hprefix =>
      have hbegins : part <+: c :: s := List.isPrefixOf_iff_prefix.1 hprefix
      have hlength := hbegins.length_le
      have hle : (removeFrom part (part.length - 1) s).length ≤ _ := length_removeFrom_le _ s
      rw [List.length_cons] at hlength ⊢
      omega
    · next hprefix =>
      have hrest := (List.infix_cons_iff.1 h).resolve_left (by simpa using hprefix)
      have hle := ih hrest
      simp only [List.length_cons]
      omega

/-- The part at the start is removed, and then what comes after it is looked at. -/
theorem remove_append (hpart : part ≠ []) (s : List Char) :
    remove part (part ++ s) = removeFrom part 0 s := by
  obtain ⟨c, t, rfl⟩ := List.exists_cons_of_ne_nil hpart
  have hprefix : (c :: t).isPrefixOf (c :: (t ++ s)) = true :=
    List.isPrefixOf_iff_prefix.2 (List.prefix_append (c :: t) s)
  rw [remove, if_neg (by simp), List.cons_append, removeFrom, if_pos hprefix, removeFrom_eq_drop]
  simp

end Text

/-! ### Names and slashes -/

namespace Path

/-- A name of a file or a directory. -/
def IsName (n : List Char) : Prop := n ≠ [] ∧ '/' ∉ n

instance : DecidablePred IsName := fun n => inferInstanceAs (Decidable (n ≠ [] ∧ '/' ∉ n))

theorem ofNames_cons (n : List Char) (ns : List (List Char)) :
    ofNames (n :: ns) = n ++ ns.flatMap ('/' :: ·) := by
  induction ns generalizing n with
  | nil => simp [ofNames]
  | cons m ns ih =>
    change n ++ '/' :: ofNames (m :: ns) = _
    rw [ih, List.flatMap_cons, List.cons_append]

/-- Names with a slash before the first and after each. -/
def framed (ns : List (List Char)) : Path := '/' :: ns.flatMap (· ++ ['/'])

theorem framed_eq_concat (ns : List (List Char)) : framed ns = ns.flatMap ('/' :: ·) ++ ['/'] := by
  unfold framed
  induction ns with
  | nil => rfl
  | cons n ns ih => simp [← ih]

/-- A name and a slash can be told from what follows. -/
theorem append_slash_prefix_iff {n m : List Char} (hn : '/' ∉ n) (hm : '/' ∉ m) {s t : List Char} :
    n ++ '/' :: s <+: m ++ '/' :: t ↔ n = m ∧ s <+: t := by
  induction n generalizing m with
  | nil =>
    cases m with
    | nil => simp
    | cons d m => simp_all
  | cons c n ih =>
    cases m with
    | nil => simp_all [eq_comm]
    | cons d m =>
      rw [List.mem_cons, not_or] at hn hm
      simp [ih hn.2 hm.2, and_assoc]

/-- Names in slashes start with others in slashes just if they start with these. -/
theorem framed_prefix_iff {ns ms : List (List Char)} (hns : ∀ n ∈ ns, IsName n)
    (hms : ∀ m ∈ ms, IsName m) : framed ns <+: framed ms ↔ ns <+: ms := by
  rw [framed, framed, List.cons_prefix_cons, and_iff_right rfl]
  induction ns generalizing ms with
  | nil => simp
  | cons n ns ih =>
    obtain ⟨hn, hns⟩ := List.forall_mem_cons.1 hns
    cases ms with
    | nil => simp
    | cons m ms =>
      obtain ⟨hm, hms⟩ := List.forall_mem_cons.1 hms
      rw [List.flatMap_cons, List.flatMap_cons, List.append_assoc, List.append_assoc,
        List.singleton_append, List.singleton_append, append_slash_prefix_iff hn.2 hm.2, ih hns hms,
        List.cons_prefix_cons]

/-! ### A slash at either end -/

/-- What starts with a name does not start with a slash. -/
theorem isAbsolute_append {n : List Char} (hn : IsName n) (p : Path) :
    isAbsolute (n ++ p) = false := by
  obtain ⟨c, t, rfl⟩ := List.exists_cons_of_ne_nil hn.1
  have hc : c ≠ '/' := fun h => hn.2 (h ▸ List.mem_cons_self)
  simpa [isAbsolute] using hc

/-- What ends with a name does not end with a slash. -/
theorem getLast?_append_name {n : List Char} (hn : IsName n) (p : Path) :
    ((p ++ n).getLast? == some '/') = false := by
  obtain ⟨c, hc⟩ := Option.ne_none_iff_exists'.1 (mt List.getLast?_eq_none_iff.1 hn.1)
  rw [List.getLast?_append, hc, beq_eq_false_iff_ne]
  rintro h
  exact hn.2 (List.mem_of_getLast? (hc.trans h))

theorem exists_ofNames_eq_append {ns : List (List Char)} (hne : ns ≠ [])
    (hns : ∀ n ∈ ns, IsName n) : ∃ p n, IsName n ∧ ofNames ns = p ++ n := by
  obtain ⟨m, ms, rfl⟩ := List.exists_cons_of_ne_nil hne
  rcases List.eq_nil_or_concat ms with rfl | ⟨ms, n, rfl⟩
  · exact ⟨[], m, hns m (by simp), by simp [ofNames]⟩
  · refine ⟨m ++ ms.flatMap ('/' :: ·) ++ ['/'], n, hns n (by simp), ?_⟩
    simp [ofNames_cons]

theorem slashed_of_relative {p : Path} (h : p.isAbsolute = false) :
    slashed p = slashed ('/' :: p) := by
  have hroot : isAbsolute ('/' :: p) = true := rfl
  simp [slashed, h, hroot]

theorem slashed_cons (p : Path) :
    slashed ('/' :: p) =
      if ('/' :: p).getLast? == some '/' then '/' :: p else '/' :: p ++ ['/'] := by
  simp [slashed, isAbsolute]

/-- A path of names with slashes around it, whichever of them are there already. -/
theorem slashed_ofNames {ns : List (List Char)} (hne : ns ≠ []) (hns : ∀ n ∈ ns, IsName n)
    (leads trails : Bool) :
    slashed ((if leads then ['/'] else []) ++ (ofNames ns ++ (if trails then ['/'] else []))) =
      framed ns := by
  have hlead : slashed ((if leads then ['/'] else []) ++
      (ofNames ns ++ (if trails then ['/'] else []))) =
      slashed ('/' :: (ofNames ns ++ (if trails then ['/'] else []))) := by
    cases leads with
    | true => rfl
    | false =>
      obtain ⟨m, ms, rfl⟩ := List.exists_cons_of_ne_nil hne
      refine slashed_of_relative ?_
      rw [ofNames_cons, List.append_assoc]
      exact isAbsolute_append (hns m List.mem_cons_self) _
  have hframed : framed ns = '/' :: (ofNames ns ++ ['/']) := by
    obtain ⟨m, ms, rfl⟩ := List.exists_cons_of_ne_nil hne
    simp [framed_eq_concat, ofNames_cons]
  rw [hlead, hframed, slashed_cons]
  cases trails with
  | true =>
    have hlast : ('/' :: (ofNames ns ++ ['/'])).getLast? = some '/' :=
      List.getLast?_concat (l := '/' :: ofNames ns)
    simp [hlast]
  | false =>
    obtain ⟨p, n, hn, hp⟩ := exists_ofNames_eq_append hne hns
    have hlast := getLast?_append_name hn ('/' :: p)
    rw [List.cons_append, ← hp] at hlast
    simp [hlast]

/-! ### Directories below another -/

/-- The path of the directory that names lead to from another. -/
def below (base : Path) (ns : List (List Char)) : Path := ns.foldl join base

/-- What the path of a directory adds to that of a directory above it. -/
def restBelow (base : Path) (ns : List (List Char)) : Path :=
  if base.getLast? == some '/' then ofNames ns else ns.flatMap ('/' :: ·)

theorem below_eq_append {base : Path} (hbase : base ≠ []) {ns : List (List Char)}
    (hns : ∀ n ∈ ns, IsName n) : below base ns = base ++ restBelow base ns := by
  induction ns generalizing base with
  | nil => simp [below, restBelow, ofNames]
  | cons n ns ih =>
    obtain ⟨hn, hns⟩ := List.forall_mem_cons.1 hns
    have hrelative : isAbsolute n = false := by simpa using isAbsolute_append hn []
    have hjoin : join base n =
        if base.getLast? == some '/' then base ++ n else base ++ '/' :: n := by
      simp [join, hrelative, hbase]
    have hnext : restBelow (join base n) ns = ns.flatMap ('/' :: ·) := by
      have hlast : ((join base n).getLast? == some '/') = false := by
        rw [hjoin]
        split
        · exact getLast?_append_name hn base
        · simpa using getLast?_append_name hn (base ++ ['/'])
      rw [restBelow, hlast]
      rfl
    have hne : join base n ≠ [] := by
      rw [hjoin]
      split <;> simp [hbase]
    change below (join base n) ns = _
    rw [ih hne hns, hnext, hjoin, restBelow, ofNames_cons]
    split <;> simp

theorem length_slashed_le (p : Path) : (slashed p).length ≤ p.length + 2 := by
  simp only [slashed]
  split <;> split <;> simp

/-- A text that lacks as many characters as the upper path has is too short for the names. -/
theorem length_restBelow_lt {base : Path} (hbase : base.isAbsolute = true) {ns : List (List Char)}
    (hne : ns ≠ []) : (restBelow base ns).length + 2 < (framed ns).length + base.length := by
  obtain ⟨n, ns, rfl⟩ := List.exists_cons_of_ne_nil hne
  rw [restBelow, framed_eq_concat, ofNames_cons]
  split
  · have hpos : 0 < base.length := List.length_pos_iff.2 (by rintro rfl; cases hbase)
    simp only [List.flatMap_cons, List.length_append, List.length_cons]
    omega
  · next hlast =>
    have htwo : 1 < base.length := by
      rcases base with _ | ⟨c, _ | ⟨d, base⟩⟩
      · cases hbase
      · exact absurd hbase (by simpa [isAbsolute] using hlast)
      · simp
    simp only [List.length_append, List.length_singleton]
    omega

theorem slashed_restBelow (base : Path) {ns : List (List Char)} (hns : ∀ n ∈ ns, IsName n) :
    slashed (restBelow base ns) = framed ns := by
  cases ns with
  | nil => simp [restBelow, ofNames, slashed, isAbsolute, framed]
  | cons n ns =>
    have hleads : restBelow base (n :: ns) = (if base.getLast? == some '/' then [] else ['/']) ++
        (ofNames (n :: ns) ++ []) := by
      rw [restBelow]
      split <;> simp [ofNames_cons]
    rw [hleads]
    have hslashed := slashed_ofNames (List.cons_ne_nil n ns) hns
    split
    · exact hslashed false false
    · exact hslashed true false

end Path

/-! ### The list of ignored directories -/

/-- An entry of the list: names with a slash between each two of them, and perhaps one before the
first and one after the last. -/
structure IgnoreEntry where
  names : List (List Char)
  isName : ∀ n ∈ names, Path.IsName n
  ne_nil : names ≠ []
  leads : Bool := false
  trails : Bool := false

namespace IgnoreEntry

def text (e : IgnoreEntry) : Path :=
  (if e.leads then ['/'] else []) ++ (Path.ofNames e.names ++ (if e.trails then ['/'] else []))

/-- A list of entries as the settings hold it. -/
def list (es : List IgnoreEntry) : Json := .arr (es.map fun e => .str (String.ofList e.text))

theorem slashed_text (e : IgnoreEntry) : e.text.slashed = Path.framed e.names :=
  Path.slashed_ofNames e.ne_nil e.isName e.leads e.trails

/-- A directory is ignored if its path with slashes around it starts with the names of an entry. -/
theorem isIgnored_list (dir : Path) (es : List IgnoreEntry) : isIgnored dir (list es) =
    .ok (es.any fun e => (Path.framed e.names).isPrefixOf dir.slashed) := by
  change liesBelow dir (es.map fun e => .str (String.ofList e.text)) = _
  induction es with
  | nil => rfl
  | cons e es ih =>
    rw [List.map_cons, liesBelow, String.toList_ofList, slashed_text, ih, List.any_cons]
    split <;> simp_all

end IgnoreEntry

/-- **What is ignored.** Let names lead from the directory of the project, which is given by an
absolute path, to a directory. Then the entries are compared with what is left of the path of the
directory once every occurrence of the path of the project is removed from what follows it. So they
are compared with the names, whichever they are, if and only if the path of the project does not
occur there: a directory is then ignored just if the names of some entry are the first of its
names. -/
theorem isIgnored_below (base : Path) (hbase : base.isAbsolute = true) (ns : List (List Char))
    (hns : ∀ n ∈ ns, Path.IsName n) :
    (∀ es : List IgnoreEntry,
      isIgnored ((base.below ns).relativeTo base) (IgnoreEntry.list es) =
        .ok (es.any fun e =>
          (Path.framed e.names).isPrefixOf (Path.slashed (Text.remove base (base.restBelow ns))))) ∧
    ((∀ es : List IgnoreEntry,
      isIgnored ((base.below ns).relativeTo base) (IgnoreEntry.list es) =
        .ok (es.any fun e => e.names.isPrefixOf ns)) ↔ ¬ base <:+: base.restBelow ns) := by
  have hne : base ≠ [] := by
    rintro rfl
    cases hbase
  have hremove : Text.remove base (base.restBelow ns) =
      Text.removeFrom base 0 (base.restBelow ns) := if_neg (by simpa using hne)
  have hrelative : (base.below ns).relativeTo base = Text.remove base (base.restBelow ns) := by
    rw [Path.below_eq_append hne hns, Path.relativeTo, Text.remove_append hne, hremove]
  rw [hrelative]
  refine ⟨IgnoreEntry.isIgnored_list _, fun hall hinfix => ?_, fun hinfix es => ?_⟩
  · -- an entry for the directory itself is longer than what is left of its path
    have hnames : ns ≠ [] := by
      rintro rfl
      have hempty : base.restBelow [] = [] := by simp [Path.restBelow, Path.ofNames]
      exact hne (List.infix_nil.1 (hempty ▸ hinfix))
    have hself := hall [⟨ns, hns, hnames, false, false⟩]
    rw [IgnoreEntry.isIgnored_list, hremove] at hself
    simp only [List.any_cons, List.any_nil, Bool.or_false, Except.ok.injEq,
      List.isPrefixOf_iff_prefix.2 (List.prefix_refl ns), List.isPrefixOf_iff_prefix] at hself
    have hlonger := hself.length_le
    have hslashed := Path.length_slashed_le (Text.removeFrom base 0 (base.restBelow ns))
    have hremoved := Text.length_removeFrom_of_infix hne hinfix
    have hframed := Path.length_restBelow_lt hbase hnames
    omega
  · rw [IgnoreEntry.isIgnored_list, hremove, Text.removeFrom_of_not_infix hinfix,
      Path.slashed_restBelow base hns]
    congr 2
    funext e
    rw [Bool.eq_iff_iff, List.isPrefixOf_iff_prefix, List.isPrefixOf_iff_prefix,
      Path.framed_prefix_iff e.isName hns]

/-- The names of a directory in which the name of the project comes once more. -/
def sourceApp : List (List Char) := ["source".toList, "app".toList]

/-- An entry for it. -/
def sourceAppEntry : IgnoreEntry := ⟨sourceApp, by decide, by decide, false, true⟩

/-- An entry for a directory whose name is the beginning of another. -/
def sourcEntry : IgnoreEntry := ⟨["sourc".toList], by decide, by decide, true, false⟩

/-- In a project whose path does not occur in the path of the directory, the entry with the names of
the directory ignores it, and the one with a beginning of a name does not. -/
theorem isIgnored_below_sourceApp :
    Path.isAbsolute "/my/app".toList = true ∧ (∀ n ∈ sourceApp, Path.IsName n) ∧
    ¬ "/my/app".toList <:+: Path.restBelow "/my/app".toList sourceApp ∧
    isIgnored ((Path.below "/my/app".toList sourceApp).relativeTo "/my/app".toList)
      (IgnoreEntry.list [sourcEntry, sourceAppEntry]) = .ok true ∧
    isIgnored ((Path.below "/my/app".toList sourceApp).relativeTo "/my/app".toList)
      (IgnoreEntry.list [sourcEntry]) = .ok false := by
  have hnames : ∀ n ∈ sourceApp, Path.IsName n := by decide
  have hinfix : ¬ "/my/app".toList <:+: Path.restBelow "/my/app".toList sourceApp := by
    decide +kernel
  have hignored := (isIgnored_below "/my/app".toList rfl sourceApp hnames).2.2 hinfix
  exact ⟨rfl, hnames, hinfix, hignored [sourcEntry, sourceAppEntry], hignored [sourcEntry]⟩

/-- In a project at `/app` the same entry does not ignore the directory. -/
theorem isIgnored_repeatedBase :
    isIgnored ((Path.below "/app".toList sourceApp).relativeTo "/app".toList)
      (IgnoreEntry.list [sourceAppEntry]) = .ok false ∧
    sourceAppEntry.names <+: sourceApp :=
  ⟨rfl, List.prefix_refl _⟩

end BrightLint
