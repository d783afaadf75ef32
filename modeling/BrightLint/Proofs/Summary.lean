import BrightLint.CommandLine.Session
import BrightLint.Proofs.ParsingOutcome
import Mathlib.Data.List.Nodup

/-!
The summary at the end of a run. A file that fails does so with one problem, since a problem ends
the parsing of a text and a reading finds one at its very end only. What is printed then counts what
was found: the files that failed, and the warnings of the others.

* `lintText_failed`: a text that fails has one problem
* `Report.Covers`: what a report holds after some files
* `Report.SumsUp`: a report after its summary
* `Session.exists_forM_lintFile`: linting one file after the other
* `Session.sumsUp_of_results`: the summary counts the results of the files
-/

namespace BrightLint

/-! ### One problem -/

namespace Reading

variable {p : Profile} {r r' : Reading}

theorem problems_finish {rest : List Char} (h : finish p rest r = .ok () r')
    (hnone : r.problems = []) : r'.problems.length ≤ 1 := by
  rw [(finish_ok h).2.2]
  split
  · simp [hnone]
  · simp [recordUnmatched, hnone]

theorem problems_read {text : List Char} (h : (read p text).run fresh = .ok () r) :
    r.problems.length ≤ 1 := by
  obtain ⟨⟨⟩, r₁, hlex, hfinish⟩ := bind_ok
    (x := (scan text).1.forM (readLexeme p)) (s := fresh.start text) h
  exact problems_finish hfinish (StandsAfter.readLexemes (List.append_nil _).symm hlex).problems

end Reading

namespace Parsing

variable {p : Profile} {s : Parsing}

/-- **A parsing records one problem at most.** Code that cannot be parsed is looked for only while
there is none. -/
theorem problems_parse {text : List Char} (h : (parse p text).run {} = .ok () s) :
    s.reading.problems.length ≤ 1 := by
  rcases parse_returns h with hok | ⟨stage, t, herror, rfl⟩
  · obtain ⟨⟨⟩, s₁, hlex, hclose⟩ := bind_ok hok
    have hnone : s₁.reading.problems = [] := (recordsNone_readLexemes p _).of_ok hlex
    obtain ⟨⟨⟩, s₂, hfinish, hconclude⟩ := bind_ok hclose
    obtain ⟨r, hr, rfl⟩ := asParse_ok hfinish
    rw [show s.reading = r from reading_conclude_ok hconclude]
    exact Reading.problems_finish hr hnone
  · have hnone : t.reading.problems = [] := by
      rcases bind_error herror with hlex | ⟨⟨⟩, s₁, hlex, hclose⟩
      · exact (recordsNone_readLexemes p _).of_unparsed hlex
      · rcases bind_error hclose with hfinish | ⟨⟨⟩, s₂, -, hconclude⟩
        · rcases finish_cases p (scan text).2 s₁ with ⟨f, u, hu, hf⟩ | ⟨r, hr, -⟩
          · cases hu.symm.trans hfinish
            cases hf
          · cases hr.symm.trans hfinish
        · -- with a problem there is nothing more to parse
          by_contra hsome
          rw [(conclude_error hconclude).2.2] at hsome
          cases (conclude_of_problems hsome).symm.trans hconclude
    simp [recordUnparsed, hnone]

end Parsing

theorem Reading.result_failed {r : Reading} {problems : List String} (hr : r.problems.length ≤ 1)
    (h : r.result = .failed problems) : problems.length = 1 := by
  unfold Reading.result at h
  split at h
  · cases h
  · next hsome =>
    cases h
    rw [List.length_map]
    rw [List.isEmpty_iff_length_eq_zero] at hsome
    omega

/-- **A text that fails** has one problem. -/
theorem lintText_failed {p : Profile} {lexOnly : Bool} {text : List Char} {problems : List String}
    (h : (lintText p lexOnly text).1 = .ok (.failed problems)) : problems.length = 1 := by
  unfold lintText at h
  split at h
  · split at h
    · next r hr => exact Reading.result_failed (Reading.problems_read hr) (Except.ok.inj h)
    · cases h
  · split at h
    · next s hs => exact Reading.result_failed (Parsing.problems_parse hs) (Except.ok.inj h)
    · cases h

/-! ### Reports -/

namespace FileResult

def isFailed : FileResult → Bool
  | .failed _ => true
  | .passed _ => false

/-- The warnings of a file. If the file fails, they are not told. -/
def warnings : FileResult → List String
  | .failed _ => []
  | .passed ws => ws

/-- The lines in which the errors of a file are told, if there are any. -/
def errorLines? : FileResult → Option (List String)
  | .failed problems => some (problems.map fun m => Notice.error.line [m])
  | .passed _ => none

/-- The lines in which the warnings of a file are told, if there are any. -/
def warningLines? : FileResult → Option (List String)
  | .failed _ | .passed [] => none
  | .passed ws => some (ws.map fun m => Notice.warning.line [m])

end FileResult

/-- A file that was linted, with its result. -/
structure LintedFile where
  path : String
  result : FileResult
deriving DecidableEq

/-- The messages of those files that have lines of some kind. -/
def Messages.ofFiles (lines? : FileResult → Option (List String)) (found : List LintedFile) :
    Messages :=
  found.filterMap fun f => (lines? f.result).map (f.path, ·)

namespace Messages

variable {lines? : FileResult → Option (List String)} {found : List LintedFile} {path : String}
  {lines : List String} {ms : Messages}

theorem ofFiles_concat (f : LintedFile) :
    ofFiles lines? (found ++ [f]) =
      ofFiles lines? found ++ ((lines? f.result).map (f.path, ·)).toList := by
  rw [ofFiles, ofFiles, List.filterMap_append, List.filterMap_cons, List.filterMap_nil]
  cases lines? f.result <;> rfl

theorem exists_of_mem_ofFiles {e : String × List String} (h : e ∈ ofFiles lines? found) :
    ∃ f ∈ found, f.path = e.1 ∧ lines? f.result = some e.2 := by
  obtain ⟨f, hf, hlines⟩ := List.mem_filterMap.1 h
  obtain ⟨ls, hls, rfl⟩ := Option.map_eq_some_iff.1 hlines
  exact ⟨f, hf, rfl, hls⟩

theorem not_mem_ofFiles (h : path ∉ found.map LintedFile.path) :
    path ∉ (ofFiles lines? found).map (·.1) := by
  intro hmem
  obtain ⟨e, he, rfl⟩ := List.mem_map.1 hmem
  obtain ⟨f, hf, hpath, -⟩ := exists_of_mem_ofFiles he
  exact h (hpath ▸ List.mem_map_of_mem hf)

theorem put_of_not_mem (h : path ∉ ms.map (·.1)) : put path lines ms = ms ++ [(path, lines)] := by
  induction ms with
  | nil => rfl
  | cons m ms ih =>
    obtain ⟨hne, hrest⟩ := not_or.1 (mt List.mem_cons.2 h)
    rw [put, if_neg (by simpa using Ne.symm hne), ih hrest]
    rfl

theorem lookup_of_not_mem (h : path ∉ ms.map (·.1)) : ms.lookup path = none := by
  rw [List.lookup_eq_none_iff]
  intro e he
  have hne : path ≠ e.1 := fun heq => h (heq ▸ List.mem_map_of_mem he)
  simpa using hne

theorem lookup_concat (h : path ∉ ms.map (·.1)) :
    (ms ++ [(path, lines)]).lookup path = some lines := by
  rw [List.lookup_append, lookup_of_not_mem h]
  simp

end Messages

namespace LintedFile

/-- The name of a file and the lines about it. -/
def told (path : String) (lines : List String) : String :=
  Notice.fileName.line ["file://" ++ path] ++ String.join lines

/-- What is printed as soon as the file is linted. -/
def printedAtOnce (f : LintedFile) : String :=
  match f.result.warningLines? with
  | none => ""
  | some lines => told f.path lines ++ Notice.warningsInFile.line [toString lines.length]

/-- What is printed with the errors of all files. -/
def printedLast (f : LintedFile) : String :=
  match f.result.errorLines? with
  | none => ""
  | some lines => told f.path lines

end LintedFile

namespace Report

variable {r : Report} {found : List LintedFile} {path : String} {result : FileResult}

/-- A report in which nothing was found so far. -/
structure IsBlank (r : Report) : Prop where
  isCorrect : r.isCorrect = true
  errors : r.errors = []
  warnings : r.warnings = []
  errorTotal : r.errorTotal = 0
  warningTotal : r.warningTotal = 0

/-- What a report holds after some files, if nothing was found before them. -/
structure Covers (r : Report) (before : String) (found : List LintedFile) : Prop where
  isCorrect : r.isCorrect = true ↔ ∀ f ∈ found, f.result = .passed []
  errors : r.errors = Messages.ofFiles FileResult.errorLines? found
  warnings : r.warnings = Messages.ofFiles FileResult.warningLines? found
  errorTotal : r.errorTotal = 0
  warningTotal : r.warningTotal = (found.flatMap (·.result.warnings)).length
  out : r.out = before ++ String.join (found.map LintedFile.printedAtOnce)

theorem IsBlank.covers (h : r.IsBlank) : r.Covers r.out [] :=
  ⟨by simp [h.isCorrect], h.errors, h.warnings, h.errorTotal, h.warningTotal,
    String.append_empty.symm⟩

theorem Covers.named {before : String} (h : r.Covers before found) (files : List String) :
    { r with files := files }.Covers before found :=
  ⟨h.isCorrect, h.errors, h.warnings, h.errorTotal, h.warningTotal, h.out⟩

theorem printFile_of_not_mem (h : path ∉ r.warnings.map (·.1)) : r.printFile path = r := by
  unfold printFile
  rw [Messages.lookup_of_not_mem h]

/-- **One file** more. Its warnings are printed at once, its error is kept. -/
theorem Covers.concat {before : String} (h : r.Covers before found)
    (hnew : path ∉ found.map LintedFile.path) :
    ((r.record path result).printFile path).Covers before (found ++ [⟨path, result⟩]) := by
  have herrors : path ∉ r.errors.map (·.1) := h.errors ▸ Messages.not_mem_ofFiles hnew
  have hwarnings : path ∉ r.warnings.map (·.1) := h.warnings ▸ Messages.not_mem_ofFiles hnew
  cases result with
  | failed problems =>
    rw [printFile_of_not_mem (r := r.record path (.failed problems)) hwarnings]
    refine ⟨?_, ?_, ?_, h.errorTotal, ?_, ?_⟩
    · simp [record]
    · rw [Messages.ofFiles_concat, ← h.errors]
      exact Messages.put_of_not_mem herrors
    · rw [Messages.ofFiles_concat, ← h.warnings]
      exact (List.append_nil _).symm
    · simp [record, h.warningTotal, FileResult.warnings]
    · simp [record, h.out, LintedFile.printedAtOnce, FileResult.warningLines?]
  | passed warnings =>
    cases warnings with
    | nil =>
      rw [printFile_of_not_mem (r := r.record path (.passed [])) hwarnings]
      refine ⟨?_, ?_, ?_, h.errorTotal, ?_, ?_⟩
      · simp [record, h.isCorrect, or_imp, forall_and]
      · rw [Messages.ofFiles_concat, ← h.errors]
        exact (List.append_nil _).symm
      · rw [Messages.ofFiles_concat, ← h.warnings]
        exact (List.append_nil _).symm
      · simp [record, h.warningTotal, FileResult.warnings]
      · simp [record, h.out, LintedFile.printedAtOnce, FileResult.warningLines?]
    | cons w ws =>
      have hput : (r.record path (.passed (w :: ws))).warnings = r.warnings ++
          [(path, (w :: ws).map fun m => Notice.warning.line [m])] :=
        Messages.put_of_not_mem hwarnings
      have hlookup := hput ▸ Messages.lookup_concat hwarnings
      unfold printFile
      rw [hlookup]
      refine ⟨?_, ?_, ?_, h.errorTotal, ?_, ?_⟩
      · simp [record, printMessages, tell, print]
      · rw [Messages.ofFiles_concat, ← h.errors]
        exact (List.append_nil _).symm
      · rw [Messages.ofFiles_concat, ← h.warnings]
        exact hput
      · simp [record, printMessages, tell, print, h.warningTotal, FileResult.warnings]
      · simp [record, printMessages, tell, print, h.out, LintedFile.printedAtOnce,
          FileResult.warningLines?, LintedFile.told, String.append_assoc]

/-- Messages that are printed and counted one after the other. -/
theorem foldl_told {f : Report → String × List String → Report}
    (hf : ∀ r e, f r e =
      { r.printMessages e.1 e.2 with errorTotal := r.errorTotal + e.2.length })
    (ms : Messages) (r : Report) :
    ms.foldl f r = { r with
      out := r.out ++ String.join (ms.map fun e => LintedFile.told e.1 e.2)
      errorTotal := r.errorTotal + (ms.flatMap (·.2)).length } := by
  induction ms generalizing r with
  | nil => simp
  | cons e ms ih =>
    rw [List.foldl_cons, ih, hf]
    simp [printMessages, tell, print, LintedFile.told, String.append_assoc, Nat.add_assoc]

theorem printErrors_eq (r : Report) :
    r.printErrors = { r with
      out := r.out ++ String.join (r.errors.map fun e => LintedFile.told e.1 e.2)
      errorTotal := r.errorTotal + (r.errors.flatMap (·.2)).length } :=
  foldl_told (fun _ _ => rfl) r.errors r

/-- What stands at the end of a summary. -/
def verdict (r : Report) : String :=
  if r.isCorrect then Notice.allCorrect.line []
  else Notice.totalWarnings.line [toString r.warningTotal] ++
    Notice.totalErrors.line [toString r.errorTotal]

theorem summarise_eq (r : Report) :
    r.summarise = { r.printErrors with
      out := r.printErrors.out ++ Notice.complete.line [] ++ r.printErrors.verdict } := by
  unfold summarise verdict
  by_cases h : r.printErrors.isCorrect = true
  · simp [tell, print, h]
  · simp [tell, print, h, String.append_assoc]

theorem isDigit_of_mem_toString {n : Nat} {c : Char} (h : c ∈ (toString n).toList) :
    c.isDigit = true := by
  rw [Nat.toString_eq_repr, Nat.repr_eq_ofList_toDigits, String.toList_ofList] at h
  exact Nat.isDigit_of_mem_toDigits (by decide) (by decide) h

/-- The number of errors ends the output otherwise than the praise does. -/
theorem allCorrect_suffix_iff (text : String) (r : Report) :
    (Notice.allCorrect.line []).toList <:+ (text ++ r.verdict).toList ↔ r.isCorrect = true := by
  unfold verdict
  constructor
  · rintro ⟨us, hus⟩
    by_contra hfalse
    have hpraise : (Notice.allCorrect.line []).toList =
        (Colour.green.code ++ "All linted correctl").toList ++ ['y'] ++
          (Colour.off ++ "\n").toList := by decide +kernel
    have hnumber : Notice.totalErrors.line [toString r.errorTotal] =
        Colour.violet.code ++ "FILES WITH ERRORS:" ++ " " ++ toString r.errorTotal ++
          (Colour.off ++ "\n") := by
      simp [Notice.line, Notice.template, Notice.closeWith, Notice.wording, Notice.before,
        Notice.after, Notice.colour, Template.fill, String.append_assoc]
    rw [if_neg hfalse, hpraise, hnumber] at hus
    simp only [String.toList_append, ← List.append_assoc, List.append_cancel_right_eq] at hus
    have hlast := congrArg List.getLast? hus
    rw [List.getLast?_concat, List.append_assoc,
      List.getLast?_append_of_ne_nil _ (by simp)] at hlast
    rcases List.mem_append.1 (List.mem_of_getLast? hlast.symm) with hspace | hdigit
    · exact absurd hspace (by decide)
    · exact absurd (isDigit_of_mem_toString hdigit) (by decide)
  · intro htrue
    rw [if_pos htrue, String.toList_append]
    exact List.suffix_append _ _

/-- A report after its summary. -/
structure SumsUp (r : Report) (before : String) (found : List LintedFile) : Prop where
  errors : r.errors = Messages.ofFiles FileResult.errorLines? found
  warnings : r.warnings = Messages.ofFiles FileResult.warningLines? found
  one_error : ∀ e ∈ r.errors, e.2.length = 1
  /-- No file has both an error and warnings. -/
  one_kind : ∀ path ∈ r.errors.map (·.1), path ∉ r.warnings.map (·.1)
  errorTotal : r.errorTotal = found.countP (·.result.isFailed)
  warningTotal : r.warningTotal = (found.flatMap (·.result.warnings)).length
  isCorrect : r.isCorrect = true ↔ ∀ f ∈ found, f.result = .passed []
  out : r.out = before ++ String.join (found.map LintedFile.printedAtOnce) ++
    String.join (found.map LintedFile.printedLast) ++ Notice.complete.line [] ++ r.verdict
  /-- The praise is written, and then it stands last, exactly if nothing was found. -/
  allCorrect : (Notice.allCorrect.line []).toList <:+ r.out.toList ↔
    ∀ f ∈ found, f.result = .passed []

theorem join_errors (found : List LintedFile) :
    String.join ((Messages.ofFiles FileResult.errorLines? found).map
      fun e => LintedFile.told e.1 e.2) = String.join (found.map LintedFile.printedLast) := by
  induction found with
  | nil => rfl
  | cons f found ih =>
    rw [List.map_cons, String.join_cons, ← ih, Messages.ofFiles, List.filterMap_cons,
      LintedFile.printedLast]
    cases f.result.errorLines? with
    | none => exact String.empty_append.symm
    | some lines => rw [Option.map_some, List.map_cons, String.join_cons, Messages.ofFiles]

/-- Every file that fails has one problem. -/
def FailSingly (found : List LintedFile) : Prop :=
  ∀ f ∈ found, ∀ problems, f.result = .failed problems → problems.length = 1

theorem length_of_failSingly {e : String × List String} (hone : FailSingly found)
    (he : e ∈ Messages.ofFiles FileResult.errorLines? found) : e.2.length = 1 := by
  obtain ⟨f, hf, -, hlines⟩ := Messages.exists_of_mem_ofFiles he
  cases hresult : f.result with
  | failed problems =>
    rw [hresult] at hlines
    rw [← Option.some.inj hlines, List.length_map]
    exact hone f hf problems hresult
  | passed _ =>
    rw [hresult] at hlines
    cases hlines

theorem length_errors (hone : FailSingly found) :
    ((Messages.ofFiles FileResult.errorLines? found).flatMap (·.2)).length =
      found.countP (·.result.isFailed) := by
  induction found with
  | nil => rfl
  | cons f found ih =>
    have hrest := ih fun g hg => hone g (List.mem_cons_of_mem f hg)
    rw [Messages.ofFiles, List.filterMap_cons, List.countP_cons, ← hrest, Messages.ofFiles]
    cases hresult : f.result with
    | failed problems =>
      have := hone f List.mem_cons_self problems hresult
      simp only [FileResult.errorLines?, FileResult.isFailed, Option.map_some, List.flatMap_cons,
        List.length_append, List.length_map, if_true]
      omega
    | passed _ => rfl

/-- A file with an error is not one with warnings. -/
theorem not_mem_warnings (hdistinct : (found.map LintedFile.path).Nodup)
    (h : path ∈ (Messages.ofFiles FileResult.errorLines? found).map (·.1)) :
    path ∉ (Messages.ofFiles FileResult.warningLines? found).map (·.1) := by
  intro h'
  obtain ⟨e, he, rfl⟩ := List.mem_map.1 h
  obtain ⟨e', he', hsame⟩ := List.mem_map.1 h'
  obtain ⟨f, hf, hpath, hlines⟩ := Messages.exists_of_mem_ofFiles he
  obtain ⟨f', hf', hpath', hlines'⟩ := Messages.exists_of_mem_ofFiles he'
  have heq : f = f' :=
    List.inj_on_of_nodup_map hdistinct hf hf' (hpath.trans (hsame.symm.trans hpath'.symm))
  subst heq
  cases hresult : f.result with
  | failed _ =>
    rw [hresult] at hlines'
    cases hlines'
  | passed _ =>
    rw [hresult] at hlines
    cases hlines

/-- **The summary** of a report on distinct files. -/
theorem Covers.sumsUp {before : String} (h : r.Covers before found)
    (hdistinct : (found.map LintedFile.path).Nodup) (hone : FailSingly found) :
    r.summarise.SumsUp before found := by
  have hout : r.summarise.out = before ++ String.join (found.map LintedFile.printedAtOnce) ++
      String.join (found.map LintedFile.printedLast) ++ Notice.complete.line [] ++
        r.summarise.verdict := by
    rw [summarise_eq, printErrors_eq, h.out, h.errors, join_errors]
    rfl
  have hkept : r.summarise = { r.printErrors with out := r.summarise.out } := by
    rw [summarise_eq]
  have herrors : r.summarise.errors = r.errors := by rw [hkept, printErrors_eq]
  have hwarnings : r.summarise.warnings = r.warnings := by rw [hkept, printErrors_eq]
  have hcorrect : r.summarise.isCorrect = r.isCorrect := by rw [hkept, printErrors_eq]
  refine ⟨herrors.trans h.errors, hwarnings.trans h.warnings, ?_, ?_, ?_, ?_, ?_, hout, ?_⟩
  · rw [herrors, h.errors]
    exact fun e he => length_of_failSingly hone he
  · rw [herrors, hwarnings, h.errors, h.warnings]
    exact fun path hpath => not_mem_warnings hdistinct hpath
  · rw [hkept, printErrors_eq]
    simp only [h.errorTotal, h.errors, length_errors hone, Nat.zero_add]
  · rw [hkept, printErrors_eq]
    exact h.warningTotal
  · rw [hcorrect]
    exact h.isCorrect
  · rw [hout, allCorrect_suffix_iff, hcorrect]
    exact h.isCorrect

end Report

/-! ### Files one after the other -/

namespace Workspace

/-- The result for the bytes of a file, with the words asked about. -/
def lintContent (w : Workspace) (p : Profile) (lexOnly : Bool) (bytes : ByteArray) :
    Except Fault FileResult × List String :=
  match Text.Encoding.utf8.decode? bytes, Check.findEncoding w.codecs p.settings bytes with
  | none, _ => (.error .undecodable, [])
  | some _, .error f => (.error f, [])
  | some text, .ok _ => lintText p lexOnly (Text.unifyLineEnds text.toList)

/-- The result for a path, with the words asked about. The file is the one that has the name of the
report, seen from the working directory. -/
def lintPath (w : Workspace) (p : Profile) (lexOnly : Bool) (path : Path) :
    Except Fault FileResult × List String :=
  match w.tree.read w.here (w.nameOf path) with
  | .error f => (.error f, [])
  | .ok bytes => w.lintContent p lexOnly bytes

/-- The result for a file that can be linted. -/
def resultOf (w : Workspace) (p : Profile) (lexOnly : Bool) (path : Path) : FileResult :=
  match (w.lintPath p lexOnly path).1 with
  | .ok result => result
  | .error _ => .passed []

/-- The source files among those that some paths name, with their results. -/
def filesOf (w : Workspace) (results : Path → FileResult) (paths : List Path) : List LintedFile :=
  (paths.filter (Session.isSource <| w.nameOf ·)).map fun path => ⟨String.ofList path, results path⟩

variable {w : Workspace} {p : Profile} {lexOnly : Bool} {results : Path → FileResult}
  {paths : List Path} {path : Path}

theorem lintPath_of_isOk (h : (w.lintPath p lexOnly path).1.isOk = true) :
    (w.lintPath p lexOnly path).1 = .ok (w.resultOf p lexOnly path) := by
  unfold resultOf
  cases hresult : (w.lintPath p lexOnly path).1 with
  | ok _ => rfl
  | error _ =>
    rw [hresult] at h
    cases h

theorem lintPath_failed {problems : List String}
    (h : (w.lintPath p lexOnly path).1 = .ok (.failed problems)) : problems.length = 1 := by
  unfold lintPath at h
  split at h
  · cases h
  · unfold lintContent at h
    split at h
    · cases h
    · cases h
    · exact lintText_failed h

theorem mem_filesOf {f : LintedFile} (h : f ∈ w.filesOf results paths) :
    ∃ path ∈ paths, Session.isSource (w.nameOf path) = true ∧
      f = ⟨String.ofList path, results path⟩ := by
  obtain ⟨path, hpath, rfl⟩ := List.mem_map.1 h
  obtain ⟨hmem, hsource⟩ := List.mem_filter.1 hpath
  exact ⟨path, hmem, hsource, rfl⟩

theorem not_mem_filesOf (h : path ∉ paths) :
    String.ofList path ∉ (w.filesOf results paths).map LintedFile.path := by
  intro hmem
  obtain ⟨f, hf, hpath⟩ := List.mem_map.1 hmem
  obtain ⟨path', hpath', -, rfl⟩ := mem_filesOf hf
  exact h (String.ofList_injective hpath ▸ hpath')

theorem nodup_filesOf (h : paths.Nodup) :
    ((w.filesOf results paths).map LintedFile.path).Nodup := by
  rw [filesOf, List.map_map]
  exact (h.filter _).map fun _ _ heq => String.ofList_injective heq

theorem filesOf_concat : w.filesOf results (paths ++ [path]) =
    if Session.isSource (w.nameOf path) then
      w.filesOf results paths ++ [⟨String.ofList path, results path⟩]
    else w.filesOf results paths := by
  rw [filesOf, List.filter_append, List.map_append, List.filter_cons, List.filter_nil]
  split
  · rfl
  · exact List.append_nil _

theorem failSingly_filesOf
    (hresults : ∀ path ∈ paths, Session.isSource (w.nameOf path) = true →
      (w.lintPath p lexOnly path).1 = .ok (results path)) :
    Report.FailSingly (w.filesOf results paths) := by
  intro f hf problems hproblems
  obtain ⟨path, hpath, hsource, rfl⟩ := mem_filesOf hf
  exact lintPath_failed ((hresults path hpath hsource).trans (congrArg Except.ok hproblems))

end Workspace

namespace Session

variable {w : Workspace} {p : Profile} {lexOnly : Bool} {path : Path} {s s' : Session}

theorem lintBytes_of_ok {bytes : ByteArray} {name : String} {result : FileResult}
    (h : (w.lintContent p lexOnly bytes).1 = .ok result) :
    lintBytes w.codecs p lexOnly name bytes s = .ok () { s with
      report := s.report.record name result
      asked := (w.lintContent p lexOnly bytes).2 ++ s.asked } := by
  unfold Workspace.lintContent at h ⊢
  unfold lintBytes
  cases hdecode : Text.Encoding.utf8.decode? bytes with
  | none => simp [hdecode] at h
  | some text =>
    cases hencoding : Check.findEncoding w.codecs p.settings bytes with
    | error f => simp [hdecode, hencoding] at h
    | ok e =>
      simp only [hdecode, hencoding] at h ⊢
      simp only [ofExcept, h]
      rfl

theorem lintFile_of_ok {result : FileResult} (hsource : isSource (w.nameOf path) = true)
    (h : (w.lintPath p lexOnly path).1 = .ok result) :
    lintFile w p lexOnly path s = .ok () { s with
      report := ({ s.report with files := s.report.files ++ [String.ofList (w.nameOf path)] }.record
        (String.ofList path) result).printFile (String.ofList path)
      asked := (w.lintPath p lexOnly path).2 ++ s.asked } := by
  unfold Workspace.lintPath at h ⊢
  unfold lintFile
  cases hread : w.tree.read w.here (w.nameOf path) with
  | error f => simp [hread] at h
  | ok bytes =>
    simp only [hread] at h ⊢
    simp only [hsource]
    exact bind_of_ok (lintBytes_of_ok h)

/-- A file that holds no source code is passed over. -/
theorem lintFile_of_other (hsource : isSource (w.nameOf path) = false)
    (hnew : String.ofList path ∉ s.report.warnings.map (·.1)) :
    lintFile w p lexOnly path s = .ok () s := by
  unfold lintFile
  simp only [hsource]
  change EStateM.Result.ok () { s with report := s.report.printFile (String.ofList path) } = _
  rw [Report.printFile_of_not_mem hnew]

/-- **One file** after others. -/
theorem exists_lintFile {before : String} {results : Path → FileResult} {done : List Path}
    (hs : s.report.Covers before (w.filesOf results done)) (hnew : path ∉ done)
    (hresult : isSource (w.nameOf path) = true →
      (w.lintPath p lexOnly path).1 = .ok (results path)) :
    ∃ s', lintFile w p lexOnly path s = .ok () s' ∧
      s'.report.Covers before (w.filesOf results (done ++ [path])) := by
  rw [Workspace.filesOf_concat]
  have hpath : String.ofList path ∉ (w.filesOf results done).map LintedFile.path :=
    Workspace.not_mem_filesOf hnew
  cases hsource : isSource (w.nameOf path) with
  | true =>
    refine ⟨_, lintFile_of_ok hsource (hresult hsource), ?_⟩
    exact Report.Covers.concat (hs.named _) hpath
  | false =>
    refine ⟨s, lintFile_of_other hsource ?_, hs⟩
    rw [hs.warnings]
    exact Messages.not_mem_ofFiles hpath

/-- **All files**, one after the other. -/
theorem exists_forM_lintFile {before : String} {results : Path → FileResult}
    {done paths : List Path} (hs : s.report.Covers before (w.filesOf results done))
    (hdistinct : (done ++ paths).Nodup)
    (hresults : ∀ path ∈ paths, isSource (w.nameOf path) = true →
      (w.lintPath p lexOnly path).1 = .ok (results path)) :
    ∃ s', paths.forM (lintFile w p lexOnly) s = .ok () s' ∧
      s'.report.Covers before (w.filesOf results (done ++ paths)) := by
  induction paths generalizing s done with
  | nil => exact ⟨s, rfl, by rwa [List.append_nil]⟩
  | cons path paths ih =>
    obtain ⟨hfirst, hrest⟩ := List.forall_mem_cons.1 hresults
    have hnew : path ∉ done := fun hmem =>
      (List.nodup_append.1 hdistinct).2.2 path hmem path List.mem_cons_self rfl
    obtain ⟨s₁, hs₁, hcovers⟩ := exists_lintFile hs hnew hfirst
    rw [List.append_cons] at hdistinct ⊢
    obtain ⟨s', hs', hend⟩ := ih hcovers hdistinct hrest
    exact ⟨s', (bind_of_ok hs₁).trans hs', hend⟩

theorem exists_sumsUp {results : Path → FileResult} {paths : List Path}
    (hblank : s.report.IsBlank) (hdistinct : paths.Nodup)
    (hresults : ∀ path ∈ paths, isSource (w.nameOf path) = true →
      (w.lintPath p lexOnly path).1 = .ok (results path)) :
    ∃ s', paths.forM (lintFile w p lexOnly) s = .ok () s' ∧
      s'.report.summarise.SumsUp s.report.out (w.filesOf results paths) := by
  have hstart : s.report.Covers s.report.out (w.filesOf results []) := hblank.covers
  obtain ⟨s', hs', hcovers⟩ := exists_forM_lintFile hstart hdistinct hresults
  exact ⟨s', hs', hcovers.sumsUp (Workspace.nodup_filesOf hdistinct)
    (Workspace.failSingly_filesOf hresults)⟩

/-- **The summary counts the results of the files.** Distinct files that can all be linted are
linted, in any order, and then: a file that failed has one error; no file has both an error and
warnings; the totals are the number of the files that failed and of the warnings of the others; and
the praise ends the output if and only if nothing was found in any file. -/
theorem sumsUp_of_results (w : Workspace) (p : Profile) (lexOnly : Bool) (paths : List Path)
    (results : Path → FileResult) (s : Session) (hblank : s.report.IsBlank)
    (hdistinct : paths.Nodup)
    (hresults : ∀ path ∈ paths, isSource (w.nameOf path) = true →
      (w.lintPath p lexOnly path).1 = .ok (results path)) :
    ∃ s', (do paths.forM (lintFile w p lexOnly); onReport Report.summarise : Run Unit).run s =
        .ok () s' ∧
      s'.report.SumsUp s.report.out (w.filesOf results paths) := by
  obtain ⟨s₁, hs₁, hsums⟩ := exists_sumsUp hblank hdistinct hresults
  exact ⟨{ s₁ with report := s₁.report.summarise }, bind_of_ok hs₁, hsums⟩

/-- A project with a file of each sort: nothing to say, a warning, a statement that cannot be
parsed, quotation marks without a match, and no source code at all. -/
def mixedWorkspace : Workspace where
  tree := { files := [
    (["p".toList, "a.brs".toList], "x = 1\n".toUTF8),
    (["p".toList, "b.bs".toList], "print 1\n".toUTF8),
    (["p".toList, "c.brs".toList], "x = = 2\n".toUTF8),
    (["p".toList, "d.brs".toList], "x = \"y\n".toUTF8),
    (["p".toList, "e.txt".toList], "print \"".toUTF8)] }
  here := ["p".toList]
  knows _ := true

def mixedPaths : List Path :=
  ["/p/d.brs".toList, "/p/b.bs".toList, "/p/e.txt".toList, "/p/c.brs".toList, "/p/a.brs".toList]

theorem sumsUp_of_results_mixedPaths :
    ∃ s', (do mixedPaths.forM (lintFile mixedWorkspace Parsing.sampleProfile false)
              onReport Report.summarise : Run Unit).run {} = .ok () s' ∧
      s'.report.errors.map (·.1) = ["/p/d.brs", "/p/c.brs"] ∧
      s'.report.warnings.map (·.1) = ["/p/b.bs"] ∧
      s'.report.errorTotal = 2 ∧ s'.report.warningTotal = 1 ∧
      ¬ (Notice.allCorrect.line []).toList <:+ s'.report.out.toList := by
  have hresults : mixedPaths.all (fun path =>
      (mixedWorkspace.lintPath Parsing.sampleProfile false path).1.isOk) = true := by
    decide +kernel
  have hfiles : mixedWorkspace.filesOf (mixedWorkspace.resultOf Parsing.sampleProfile false)
      mixedPaths =
      [⟨"/p/d.brs", .failed
          ["ERROR: You have unmatched quotation marks at \"y on line number: 1"]⟩,
        ⟨"/p/b.bs", .passed ["WARNING: Print statements not allowed. Line number: 1"]⟩,
        ⟨"/p/c.brs", .failed ["ERROR: Parsing statement failed. Line number: 1"]⟩,
        ⟨"/p/a.brs", .passed []⟩] := by
    decide +kernel
  obtain ⟨s', hs', hsums⟩ := sumsUp_of_results mixedWorkspace Parsing.sampleProfile false mixedPaths
    (mixedWorkspace.resultOf Parsing.sampleProfile false) {} ⟨rfl, rfl, rfl, rfl, rfl⟩
    (by decide +kernel) fun path hpath _ =>
      Workspace.lintPath_of_isOk (List.all_eq_true.1 hresults path hpath)
  rw [hfiles] at hsums
  refine ⟨s', hs', ?_, ?_, hsums.errorTotal, hsums.warningTotal, ?_⟩
  · rw [hsums.errors]
    rfl
  · rw [hsums.warnings]
    rfl
  · rw [hsums.allCorrect]
    intro hclean
    cases hclean _ List.mem_cons_self

end Session

end BrightLint
