import BrightLint.Proofs.Summary

/-!
What a run of the linter goes through: some of the files at or below the place that is named, each
of them once. So the summary counts no file twice.

* `FileTree.IsProper`: no two files are at one place, and no name holds a slash
* `Workspace.targets`: the files at or below the place that is named
* `Workspace.nodup_targets`: they are distinct
* `Session.lint_visits`: a run lints some of them, one after the other
* `Session.run_sumsUp`: the summary of a whole run
-/

namespace BrightLint

/-! ### Distinct paths -/

/-- Names without slashes can be told from their path. -/
theorem Path.ofNames_inj {ns ms : List (List Char)} (hns : ns ≠ []) (hms : ms ≠ [])
    (hplain : ∀ n ∈ ns, '/' ∉ n) (hplain' : ∀ m ∈ ms, '/' ∉ m) (h : ofNames ns = ofNames ms) :
    ns = ms := by
  induction ns generalizing ms with
  | nil => exact absurd rfl hns
  | cons n ns ih =>
    obtain ⟨m, ms, rfl⟩ := List.exists_cons_of_ne_nil hms
    obtain ⟨hn, hrest⟩ := List.forall_mem_cons.1 hplain
    obtain ⟨hm, hrest'⟩ := List.forall_mem_cons.1 hplain'
    cases ns with
    | nil =>
      cases ms with
      | nil => exact congrArg (fun n => [n]) h
      | cons m' ms =>
        change n = m ++ '/' :: ofNames (m' :: ms) at h
        exact absurd (by simp [h]) hn
    | cons n' ns =>
      cases ms with
      | nil =>
        change n ++ '/' :: ofNames (n' :: ns) = m at h
        exact absurd (by simp [← h]) hm
      | cons m' ms =>
        change n ++ '/' :: ofNames (n' :: ns) = m ++ '/' :: ofNames (m' :: ms) at h
        -- the first name ends where the first slash stands
        have hlength : n.length = m.length := by
          have hfirst := congrArg (List.idxOf '/') h
          rwa [List.idxOf_append_of_notMem hn, List.idxOf_append_of_notMem hm, List.idxOf_cons_self,
            List.idxOf_cons_self] at hfirst
        obtain ⟨rfl, hnames⟩ := List.append_inj h hlength
        rw [ih (List.cons_ne_nil _ _) (List.cons_ne_nil _ _) hrest hrest' (List.cons.inj hnames).2]

namespace FileTree

variable {t : FileTree}

/-- A tree as it is on a disk: no two files are at one place, and no name holds a slash. -/
structure IsProper (t : FileTree) : Prop where
  distinct : (t.files.map (·.1)).Nodup
  plain : ∀ f ∈ t.files.map (·.1), ∀ name ∈ f, '/' ∉ name

theorem mem_filesIn {f dir : Location} (h : f ∈ t.filesIn dir) :
    f ∈ t.files.map (·.1) ∧ f ≠ [] ∧ f.dropLast = dir := by
  obtain ⟨hmem, hf⟩ := List.mem_filter.1 (List.mem_mergeSort.1 h)
  obtain ⟨hne, hdir⟩ := Bool.and_eq_true_iff.1 hf
  exact ⟨hmem, by simpa using hne, beq_iff_eq.1 hdir⟩

theorem IsProper.path_inj (ht : t.IsProper) {f f' dir dir' : Location} (hf : f ∈ t.filesIn dir)
    (hf' : f' ∈ t.filesIn dir') (h : Location.path f = Location.path f') : f = f' := by
  obtain ⟨hmem, hne, -⟩ := mem_filesIn hf
  obtain ⟨hmem', hne', -⟩ := mem_filesIn hf'
  exact Path.ofNames_inj hne hne' (ht.plain f hmem) (ht.plain f' hmem') (List.cons.inj h).2

theorem nodup_eraseDups (ls : List Location) : ls.eraseDups.Nodup := by
  induction hn : ls.length using Nat.strong_induction_on generalizing ls with
  | h n ih =>
    cases ls with
    | nil => exact List.nodup_nil
    | cons l ls =>
      rw [List.eraseDups_cons]
      have hlength := List.length_filter_le (fun b => !b == l) ls
      refine List.nodup_cons.2 ⟨?_, ih _ (by rw [← hn, List.length_cons]; omega) _ rfl⟩
      simp [List.mem_eraseDups]

theorem nodup_folders (t : FileTree) (top : Location) : (t.folders top).Nodup :=
  (List.mergeSort_perm _ _).nodup_iff.2 (nodup_eraseDups _)

/-- The paths of the files at and below a directory. -/
def pathsBelow (t : FileTree) (top : Location) : List Path :=
  (t.folders top).flatMap fun dir => (t.filesIn dir).map Location.path

theorem IsProper.nodup_pathsBelow (ht : t.IsProper) (top : Location) :
    (t.pathsBelow top).Nodup := by
  refine List.nodup_flatMap.2 ⟨fun dir _ => ?_, (nodup_folders t top).imp fun hne => ?_⟩
  · have hfiles : (t.filesIn dir).Nodup :=
      (List.mergeSort_perm _ _).nodup_iff.2 (ht.distinct.filter _)
    exact hfiles.map_on fun f hf f' hf' => ht.path_inj hf hf'
  · -- what lies in two directories is one file only if they are one directory
    intro path hpath hpath'
    obtain ⟨f, hf, rfl⟩ := List.mem_map.1 hpath
    obtain ⟨f', hf', hsame⟩ := List.mem_map.1 hpath'
    have heq := ht.path_inj hf' hf hsame
    subst heq
    exact hne ((mem_filesIn hf).2.2.symm.trans (mem_filesIn hf').2.2)

end FileTree

/-! ### The files of a run -/

/-- The paths of the files at or below what the options name. -/
def Workspace.targets (w : Workspace) (o : Options) : List Path :=
  match w.tree.locate? [] (w.absolute (o.path.getD [])) with
  | none => []
  | some place =>
    if w.tree.isFile place then [w.absolute (o.path.getD [])] else w.tree.pathsBelow place

theorem Workspace.nodup_targets {w : Workspace} (ht : w.tree.IsProper) (o : Options) :
    (w.targets o).Nodup := by
  unfold targets
  split
  · exact List.nodup_nil
  · split
    · exact List.nodup_singleton _
    · exact ht.nodup_pathsBelow _

namespace Session

variable {w : Workspace} {p : Profile} {lexOnly : Bool} {o : Options} {s s' : Session}

theorem ofExcept_ok {α : Type} {v : Except Fault α} {a : α} (h : ofExcept v s = .ok a s') :
    s' = s := by
  cases v <;> cases h
  rfl

/-- Of the files of a directory, all are linted or none. -/
theorem lintFolder_visits {dir : Location} (h : lintFolder w p lexOnly dir s = .ok () s') :
    ∃ paths : List Path, paths.Sublist ((w.tree.filesIn dir).map Location.path) ∧
      paths.forM (lintFile w p lexOnly) s = .ok () s' := by
  obtain ⟨_, _, ⟨⟩, h⟩ := bind_ok h
  obtain ⟨ignore, s₁, hignore, h⟩ := bind_ok h
  obtain ⟨passedOver, s₂, hpassedOver, h⟩ := bind_ok h
  obtain rfl := ofExcept_ok hignore
  obtain rfl := ofExcept_ok hpassedOver
  cases passedOver with
  | true =>
    cases h
    exact ⟨[], List.nil_sublist _, rfl⟩
  | false =>
    refine ⟨_, List.Sublist.refl _, ?_⟩
    rw [List.forM_eq_forM, List.forM_map]
    exact h

theorem lintFolders_visits {dirs : List Location}
    (h : dirs.forM (lintFolder w p lexOnly) s = .ok () s') :
    ∃ paths : List Path,
      paths.Sublist (dirs.flatMap fun dir => (w.tree.filesIn dir).map Location.path) ∧
        paths.forM (lintFile w p lexOnly) s = .ok () s' := by
  induction dirs generalizing s with
  | nil => exact ⟨[], List.nil_sublist _, h⟩
  | cons dir dirs ih =>
    obtain ⟨⟨⟩, s₁, hone, hrest⟩ := bind_ok h
    obtain ⟨first, hfirst, hone⟩ := lintFolder_visits hone
    obtain ⟨others, hothers, hrest⟩ := ih hrest
    refine ⟨first ++ others, hfirst.append hothers, ?_⟩
    rw [List.forM_eq_forM, List.forM_append, ← List.forM_eq_forM, bind_of_ok hone]
    exact hrest

/-- **What a run lints**: some of the files at or below what is named, one after the other. -/
theorem lint_visits (h : lint w p o s = .ok () s') :
    ∃ paths : List Path, paths.Sublist (w.targets o) ∧
      paths.forM (lintFile w p o.lexOnly) s = .ok () s' := by
  unfold lint at h
  unfold Workspace.targets
  cases hplace : w.tree.locate? [] (w.absolute (o.path.getD [])) with
  | none =>
    simp only [hplace] at h
    exact ⟨[], List.nil_sublist _, h⟩
  | some place =>
    simp only [hplace] at h ⊢
    by_cases hfile : w.tree.isFile place = true
    · rw [if_pos hfile] at h ⊢
      exact ⟨_, List.Sublist.refl _, bind_of_ok h⟩
    · rw [if_neg hfile] at h ⊢
      exact lintFolders_visits h

/-! ### Whole runs -/

theorem lintBytes_of_error {bytes : ByteArray} {name : String} {f : Fault}
    (h : (w.lintContent p lexOnly bytes).1 = .error f) :
    ∃ t, lintBytes w.codecs p lexOnly name bytes s = .error f t := by
  unfold Workspace.lintContent at h
  unfold lintBytes
  cases hdecode : Text.Encoding.utf8.decode? bytes with
  | none =>
    simp only [hdecode] at h ⊢
    cases h
    exact ⟨_, rfl⟩
  | some text =>
    cases hencoding : Check.findEncoding w.codecs p.settings bytes with
    | error f =>
      simp only [hdecode, hencoding] at h ⊢
      cases h
      exact ⟨_, rfl⟩
    | ok e =>
      simp only [hdecode, hencoding] at h ⊢
      simp only [ofExcept, h]
      exact ⟨_, rfl⟩

theorem lintFile_of_error {path : Path} {f : Fault} (hsource : isSource (w.nameOf path) = true)
    (h : (w.lintPath p lexOnly path).1 = .error f) :
    ∃ t, lintFile w p lexOnly path s = .error f t := by
  unfold Workspace.lintPath at h
  unfold lintFile
  simp only [hsource]
  cases hread : w.tree.read w.here (w.nameOf path) with
  | error f =>
    simp only [hread] at h ⊢
    cases h
    exact ⟨_, rfl⟩
  | ok bytes =>
    simp only [hread] at h ⊢
    obtain ⟨t, ht⟩ := lintBytes_of_error h
    exact ⟨t, (bind_of_ok rfl).trans ((bind_of_ok rfl).trans (bind_of_error ht))⟩

/-- Files that were linted could be linted. -/
theorem lintPath_of_forM {paths : List Path}
    (h : paths.forM (lintFile w p lexOnly) s = .ok () s') :
    ∀ path ∈ paths, isSource (w.nameOf path) = true →
      (w.lintPath p lexOnly path).1 = .ok (w.resultOf p lexOnly path) := by
  induction paths generalizing s with
  | nil => exact fun _ hpath => absurd hpath List.not_mem_nil
  | cons path paths ih =>
    obtain ⟨⟨⟩, s₁, hone, hrest⟩ := bind_ok h
    refine List.forall_mem_cons.2 ⟨fun hsource => Workspace.lintPath_of_isOk ?_, ih hrest⟩
    cases hresult : (w.lintPath p lexOnly path).1 with
    | ok _ => rfl
    | error f =>
      obtain ⟨t, ht⟩ := lintFile_of_error (s := s) hsource hresult
      cases ht.symm.trans hone

theorem openProject_ok {target : Path} {settings : Settings}
    (h : openProject w target s = .ok settings s') (hs : s.report.IsBlank) :
    s'.report.IsBlank ∧ s'.isSpinning = s.isSpinning := by
  unfold openProject at h
  -- a missing manifest is told, which prints something and does no more
  cases hmanifest : w.findManifest? Workspace.reach (w.searchStart target) <;>
  · simp only [hmanifest] at h
    cases h
    exact ⟨⟨hs.isCorrect, hs.errors, hs.warnings, hs.errorTotal, hs.warningTotal⟩, rfl⟩

/-- **The summary of a whole run.** When a run has linted anything, it has linted distinct files
below what is named, and the summary counts their results. -/
theorem run_sumsUp (w : Workspace) (o : Options) (s' : Session) (htree : w.tree.IsProper)
    (h : (run w o).run {} = .ok () s') (hlinted : s'.isSpinning = true) :
    ∃ settings s₁ paths, (openProject w (o.path.getD [])).run {} = .ok settings s₁ ∧
      paths.Sublist (w.targets o) ∧ paths.Nodup ∧
      (∀ path ∈ paths, isSource (w.nameOf path) = true →
        (w.lintPath ⟨settings, w.knows⟩ o.lexOnly path).1 =
          .ok (w.resultOf ⟨settings, w.knows⟩ o.lexOnly path)) ∧
      s'.report.SumsUp s₁.report.out
        (w.filesOf (w.resultOf ⟨settings, w.knows⟩ o.lexOnly) paths) := by
  unfold run at h
  simp only at h
  split at h
  · cases h
    cases hlinted
  · obtain ⟨settings, s₁, hopen, h⟩ := bind_ok h
    obtain ⟨hblank, hspinning⟩ := openProject_ok hopen ⟨rfl, rfl, rfl, rfl, rfl⟩
    split at h
    · cases h
      rw [hspinning] at hlinted
      cases hlinted
    · obtain ⟨_, _, ⟨⟩, h⟩ := bind_ok h
      obtain ⟨⟨⟩, s₂, hlint, h⟩ := bind_ok h
      cases h
      obtain ⟨paths, hsub, hpaths⟩ := lint_visits hlint
      have hdistinct := hsub.nodup (Workspace.nodup_targets htree o)
      have hresults := lintPath_of_forM hpaths
      obtain ⟨t, ht, hsums⟩ :=
        exists_sumsUp (s := { s₁ with isSpinning := true }) hblank hdistinct hresults
      cases ht.symm.trans hpaths
      exact ⟨settings, s₁, paths, hopen, hsub, hdistinct, hresults, hsums⟩

end Session

end BrightLint
