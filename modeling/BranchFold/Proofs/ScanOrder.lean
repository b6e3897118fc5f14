import BranchFold.Proofs.Collected
import BranchFold.Proofs.Numerals
import BranchFold.Scan.Progress
import Mathlib

/-!
# Scans in any order

Files are scanned side by side and finish in any order.  This module proves that the order leaves
no trace: every order in which the collected files finish gives the same result or the same fault.
There is a result exactly if no folder that has to be listed refuses, the number of workers is short
enough to be written into the log, and no file goes on without end.  The result accounts for every
collected file exactly once, and what it says of a file depends on that file alone.

Main definitions:

- {lit}`Scanner.expected`: what the scan of files should give.
- {lit}`Scanner.Concludes`: nothing stands in the way of a result.
- {lit}`Batch.Accounts`: what a result has to say about collected files.

Main results:

- Theorem {lit}`Progress.foldlM_record`: what has been taken in after a run of completions.
- Theorem {lit}`Scanner.lookup_successes`: a scan is found under its path in any order.
- Theorem {lit}`Batch.sortFailures_eq_of_perm`: failures are put in order whatever order they came
  in.
- Theorem {lit}`Scanner.scan_independent_of_completion_order`: all orders give the one result that
  accounts for the collected files, or the one fault.
-/

namespace BranchFold

/-! ## Failures in order -/

namespace Batch

/-- The order of failures: by path, and then by message. -/
def failureLe (a b : String × String) : Bool :=
  Text.le a.1.toList b.1.toList && (a.1 != b.1 || Text.le a.2.toList b.2.toList)

variable {a b c : String × String}

theorem failureLe_iff :
    failureLe a b = true ↔ Text.le a.1.toList b.1.toList = true ∧
      (a.1 = b.1 → Text.le a.2.toList b.2.toList = true) := by
  by_cases hpath : a.1 = b.1 <;> simp [failureLe, hpath]

theorem eq_of_le_of_le {x y : String} (hxy : Text.le x.toList y.toList = true)
    (hyx : Text.le y.toList x.toList = true) : x = y :=
  String.toList_inj.1 (Text.le_antisymm hxy hyx)

theorem failureLe_antisymm (hab : failureLe a b = true) (hba : failureLe b a = true) : a = b := by
  rw [failureLe_iff] at hab hba
  have hpath := eq_of_le_of_le hab.1 hba.1
  exact Prod.ext hpath (eq_of_le_of_le (hab.2 hpath) (hba.2 hpath.symm))

theorem failureLe_trans (hab : failureLe a b = true) (hbc : failureLe b c = true) :
    failureLe a c = true := by
  rw [failureLe_iff] at hab hbc ⊢
  refine ⟨Text.le_trans hab.1 hbc.1, ?_⟩
  intro hpath
  -- Between two equal paths there is no room for another.
  have hba : Text.le b.1.toList a.1.toList = true := hpath ▸ hbc.1
  have hsame := eq_of_le_of_le hab.1 hba
  exact Text.le_trans (hab.2 hsame) (hbc.2 (hsame.symm.trans hpath))

theorem failureLe_total (a b : String × String) : (failureLe a b || failureLe b a) = true := by
  rw [Bool.or_eq_true, failureLe_iff, failureLe_iff]
  have hpaths := Text.le_total a.1.toList b.1.toList
  have hmessages := Text.le_total a.2.toList b.2.toList
  rw [Bool.or_eq_true] at hpaths hmessages
  by_cases hpath : a.1 = b.1
  · have hself := Text.le_refl b.1.toList
    simpa [hpath, hself] using hmessages
  · have hpath' : b.1 ≠ a.1 := fun heq => hpath heq.symm
    simpa [hpath, hpath'] using hpaths

theorem sortFailures_eq (failed : List (String × String)) :
    sortFailures failed = failed.mergeSort failureLe :=
  rfl

theorem sortFailures_perm (failed : List (String × String)) :
    (sortFailures failed).Perm failed := by
  rw [sortFailures_eq]
  exact List.mergeSort_perm failed failureLe

theorem sortFailures_pairwise (failed : List (String × String)) :
    (sortFailures failed).Pairwise fun a b => failureLe a b = true := by
  rw [sortFailures_eq]
  exact @List.pairwise_mergeSort _ failureLe (fun _ _ _ => failureLe_trans) failureLe_total failed

/-- Failures are put in order whatever order they came in. -/
theorem sortFailures_eq_of_perm {failed failed' : List (String × String)}
    (h : failed.Perm failed') : sortFailures failed = sortFailures failed' := by
  have hperm : (sortFailures failed).Perm (sortFailures failed') :=
    (sortFailures_perm failed).trans (h.trans (sortFailures_perm failed').symm)
  exact hperm.eq_of_pairwise (fun _ _ _ _ hab hba => failureLe_antisymm hab hba)
    (sortFailures_pairwise failed) (sortFailures_pairwise failed')

/-- The scans among the completions, each under the path of its file. -/
def successes (completions : List Completion) : List (String × FileScan) :=
  completions.filterMap fun completion =>
    completion.outcome.toOption.map fun scan => (completion.path, scan)

/-- The failures among the completions, each with its message. -/
def failures (completions : List Completion) : List (String × String) :=
  completions.filterMap fun completion =>
    match completion.outcome with
    | .ok _ => none
    | .error fault => some (completion.path, fault.message)

theorem successes_cons (completion : Completion) (rest : List Completion) :
    successes (completion :: rest) = successes [completion] ++ successes rest := by
  unfold successes
  rw [← List.filterMap_append, List.singleton_append]

theorem reverse_successes_singleton (completion : Completion) :
    (successes [completion]).reverse = successes [completion] := by
  cases houtcome : completion.outcome <;> simp [successes, houtcome, Except.toOption]

theorem failures_cons (completion : Completion) (rest : List Completion) :
    failures (completion :: rest) = failures [completion] ++ failures rest := by
  unfold failures
  rw [← List.filterMap_append, List.singleton_append]

end Batch

/-! ## Workers -/

namespace ScanFault

variable {workers : Int}

theorem checkNumeral_of_lt (h : workers.natAbs < 10 ^ Text.longestNumeral) :
    checkNumeral workers = .ok () := by
  rw [checkNumeral, Text.ofInt?_eq, if_pos h]
  rfl

theorem checkNumeral_of_not_lt (h : ¬ workers.natAbs < 10 ^ Text.longestNumeral) :
    checkNumeral workers = .error numeral := by
  rw [checkNumeral, Text.ofInt?_eq, if_neg h]
  rfl

/-- At least one worker is enough for a pool. -/
theorem checkWorkers_max : checkWorkers (max 1 workers) = .ok () := by
  rw [checkWorkers, if_neg (by omega)]

end ScanFault

/-! ## Taking in completions -/

namespace Progress

/-- One completion adds its scan in front or its failure at the end. -/
theorem record_eq (progress : Progress) {completion : Completion}
    (h : ∀ fault, completion.outcome = .error fault → fault.isReported = true) :
    progress.record completion =
      .ok ⟨Batch.successes [completion] ++ progress.scanned,
        progress.failed ++ Batch.failures [completion]⟩ := by
  unfold record
  cases houtcome : completion.outcome with
  | ok scan => simp [Batch.successes, Batch.failures, houtcome, Except.toOption]
  | error fault =>
    simp [Batch.successes, Batch.failures, houtcome, Except.toOption, h fault houtcome]

/-- After a run of completions the scans stand in front, the latest first, and the failures at the
end in the order in which they came. -/
theorem foldlM_record (progress : Progress) {completions : List Completion}
    (h : ∀ completion ∈ completions, ∀ fault, completion.outcome = .error fault →
      fault.isReported = true) :
    completions.foldlM record progress =
      .ok ⟨(Batch.successes completions).reverse ++ progress.scanned,
        progress.failed ++ Batch.failures completions⟩ := by
  induction completions generalizing progress with
  | nil => simp [Batch.successes, Batch.failures, pure, Except.pure]
  | cons completion rest ih =>
    have hfirst := record_eq progress (h completion List.mem_cons_self)
    have hrest := fun later : Progress =>
      ih later fun other hother => h other (List.mem_cons_of_mem _ hother)
    rw [List.foldlM_cons, hfirst]
    simp only [bind, Except.bind]
    rw [hrest, Batch.successes_cons completion rest, Batch.failures_cons completion rest,
      List.reverse_append, Batch.reverse_successes_singleton]
    simp

/-- A run of completions comes to its end only if all failures are such as to be reported. -/
theorem isReported_of_foldlM_record {progress after : Progress} {completions : List Completion}
    (h : completions.foldlM record progress = .ok after) :
    ∀ completion ∈ completions, ∀ fault, completion.outcome = .error fault →
      fault.isReported = true := by
  induction completions generalizing progress with
  | nil => simp
  | cons completion rest ih =>
    rw [List.foldlM_cons] at h
    intro other hother fault hfault
    cases hfirst : progress.record completion with
    | error cause =>
      rw [hfirst] at h
      cases h
    | ok next =>
      rw [hfirst] at h
      rcases List.mem_cons.1 hother with rfl | hlater
      · by_contra hnot
        rw [record, hfault] at hfirst
        dsimp only at hfirst
        rw [if_neg hnot] at hfirst
        cases hfirst
      · exact ih h other hlater fault hfault

/-- A file that goes on without end keeps the run from coming to one, wherever it stands. -/
theorem foldlM_record_of_endless (progress : Progress) {completions : List Completion}
    (h : ∀ completion ∈ completions, ∀ fault, completion.outcome = .error fault →
      fault ≠ .endless → fault.isReported = true)
    (hendless : ∃ completion ∈ completions, completion.outcome = .error .endless) :
    completions.foldlM record progress = .error (.unread .endless) := by
  induction completions generalizing progress with
  | nil =>
    rcases hendless with ⟨_, hmem, -⟩
    cases hmem
  | cons completion rest ih =>
    have hrest := fun other hother => h other (List.mem_cons_of_mem completion hother)
    rw [List.foldlM_cons]
    by_cases hfirst : completion.outcome = .error .endless
    · rw [record, hfirst]
      rfl
    · have hreported : ∀ fault, completion.outcome = .error fault → fault.isReported = true := by
        intro fault hfault
        refine h completion List.mem_cons_self fault hfault ?_
        rintro rfl
        exact hfirst hfault
      rcases hendless with ⟨other, hmem, hother⟩
      rcases List.mem_cons.1 hmem with rfl | hlater
      · exact absurd hother hfirst
      · rw [record_eq progress hreported]
        exact ih _ hrest ⟨other, hlater, hother⟩

end Progress

/-! ## Results by path -/

/-- Where a key has one value at most, that value is found under it. -/
theorem lookup_eq_of_mem_iff {α β : Type} [BEq α] [LawfulBEq α] {entries : List (α × β)} {key : α}
    {value? : Option β} (h : ∀ value, (key, value) ∈ entries ↔ value? = some value) :
    entries.lookup key = value? := by
  have hfound : ∀ value, entries.lookup key = some value → value? = some value := by
    intro value hvalue
    rcases List.lookup_eq_some_iff.1 hvalue with ⟨before, after, hentries, -⟩
    exact (h value).1 (by simp [hentries])
  cases hlookup : entries.lookup key with
  | some value => exact (hfound value hlookup).symm
  | none =>
    cases hvalue : value? with
    | none => rfl
    | some value =>
      have hne := List.lookup_eq_none_iff.1 hlookup _ ((h value).2 hvalue)
      simp at hne

namespace Scanner

variable {scanner : Scanner} {fs : FileSystem} {files : List String}
  {completions : List Completion}

theorem mem_successes_iff (h : completions.Perm (files.map (scanner.complete fs))) {path : String}
    {scan : FileScan} :
    (path, scan) ∈ Batch.successes completions ↔
      path ∈ files ∧ fs.scanFile scanner.classifier path = .ok scan := by
  simp only [Batch.successes, List.mem_filterMap, h.mem_iff, List.mem_map, Option.map_eq_some_iff,
    Prod.mk.injEq]
  constructor
  · intro hgiven
    rcases hgiven with ⟨_, ⟨file, hfile, rfl⟩, scan', hscan, rfl, rfl⟩
    refine ⟨hfile, ?_⟩
    cases houtcome : fs.scanFile scanner.classifier file with
    | ok found => simpa [complete, houtcome, Except.toOption] using hscan
    | error fault => simp [complete, houtcome, Except.toOption] at hscan
  · intro hgiven
    rcases hgiven with ⟨hfile, hscan⟩
    exact ⟨_, ⟨path, hfile, rfl⟩, scan, by simp [complete, hscan, Except.toOption], rfl, rfl⟩

theorem mem_failures_iff {path message : String} :
    (path, message) ∈ Batch.failures (files.map (scanner.complete fs)) ↔
      path ∈ files ∧ ∃ fault, fs.scanFile scanner.classifier path = .error fault ∧
        message = fault.message := by
  simp only [Batch.failures, List.mem_filterMap, List.mem_map]
  constructor
  · intro hgiven
    rcases hgiven with ⟨_, ⟨file, hfile, rfl⟩, hfailure⟩
    cases houtcome : fs.scanFile scanner.classifier file with
    | ok found => simp [complete, houtcome] at hfailure
    | error fault =>
      simp only [complete, houtcome, Option.some.injEq, Prod.mk.injEq] at hfailure
      rcases hfailure with ⟨rfl, rfl⟩
      exact ⟨hfile, fault, houtcome, rfl⟩
  · intro hgiven
    rcases hgiven with ⟨hfile, fault, hfault, rfl⟩
    exact ⟨_, ⟨path, hfile, rfl⟩, by simp [complete, hfault]⟩

/-- A scan is found under its path in whatever order the files have finished. -/
theorem lookup_successes (h : completions.Perm (files.map (scanner.complete fs))) {path : String}
    (hpath : path ∈ files) :
    (Batch.successes completions).reverse.lookup path =
      (fs.scanFile scanner.classifier path).toOption := by
  refine lookup_eq_of_mem_iff fun scan => ?_
  rw [List.mem_reverse, mem_successes_iff h]
  cases fs.scanFile scanner.classifier path <;> simp [hpath, Except.toOption]

end Scanner

/-! ## One file -/

namespace FileSystem

variable {fs : FileSystem} {classifier : Classifier} {path : String}

theorem scanFile_eq_error_iff {fault : ReadFault} :
    fs.scanFile classifier path = .error fault ↔ fs.readDocument path = .error fault := by
  unfold scanFile
  cases fs.readDocument path <;> simp [Except.map]

theorem path_of_scanFile {scan : FileScan} (h : fs.scanFile classifier path = .ok scan) :
    scan.path = path := by
  unfold scanFile at h
  cases hread : fs.readDocument path with
  | error fault => simp [hread, Except.map] at h
  | ok document =>
    rw [hread] at h
    cases h
    rfl

/-- The scan of a file depends on its path and its bytes and on no other file. -/
theorem scanFile_eq_of_readBytes_eq {other : FileSystem}
    (h : other.readBytes path = fs.readBytes path) :
    other.scanFile classifier path = fs.scanFile classifier path := by
  unfold scanFile readDocument
  rw [h]

end FileSystem

/-! ## All orders -/

/-- What a result has to say about collected files. -/
structure Batch.Accounts (batch : Batch) (scanner : Scanner) (fs : FileSystem)
    (files : List String) : Prop where
  /-- Every file is scanned, skipped or failed, and only once. -/
  each_once : files.Nodup ∧
    (batch.scanned.map (·.path) ++ batch.skipped ++ batch.failed.map (·.1)).Perm files
  /-- The files of other kinds are skipped, in the order of the collection. -/
  skipped_eq : batch.skipped = files.filter fun path => !scanner.wants path
  /-- The scans are those of the files that can be scanned, in the order of the collection. -/
  scanned_eq : batch.scanned = (files.filter scanner.wants).filterMap fun path =>
    (fs.scanFile scanner.classifier path).toOption
  /-- The failures are those of the files that cannot be read or decoded. -/
  mem_failed_iff : ∀ path message, (path, message) ∈ batch.failed ↔
    path ∈ files ∧ scanner.wants path = true ∧
      ∃ fault, fs.readDocument path = .error fault ∧ message = fault.message
  /-- Failures stand in the order of their paths. -/
  failed_sorted : batch.failed.Pairwise fun a b =>
    Text.le a.1.toList b.1.toList = true ∧ a.1 ≠ b.1
  /-- A scan is that of the file alone, whatever the other files are. -/
  alone : ∀ scan ∈ batch.scanned, ∀ other : FileSystem,
    other.readBytes scan.path = fs.readBytes scan.path →
      other.scanFile scanner.classifier scan.path = .ok scan
  /-- The number of ranges is the total over the files. -/
  rangeCount_eq : batch.rangeCount = (batch.scanned.map (·.ranges.length)).sum

theorem Batch.rangeCount_eq_sum (batch : Batch) :
    batch.rangeCount = (batch.scanned.map (·.ranges.length)).sum := by
  rw [rangeCount, List.sum_eq_foldr, List.foldr_map]
  rfl

namespace Scanner

variable {scanner : Scanner} {fs : FileSystem} {recursive : Bool} {paths : List String}
  {completions : List Completion}

/-- The scan of the file succeeds. -/
def succeeds (scanner : Scanner) (fs : FileSystem) (path : String) : Bool :=
  (fs.scanFile scanner.classifier path).toOption.isSome

/-! ### What a scan should give -/

/-- What the scan of files should give: each file counts on its own. -/
def expected (scanner : Scanner) (fs : FileSystem) (files : List String) : Batch :=
  { scanned := (scanner.wanted files).filterMap fun path =>
      (fs.scanFile scanner.classifier path).toOption
    skipped := scanner.unwanted files
    failed := Batch.sortFailures (Batch.failures ((scanner.wanted files).map
      (scanner.complete fs))) }

theorem paths_of_scans (scanner : Scanner) (fs : FileSystem) (files : List String) :
    (files.filterMap fun path => (fs.scanFile scanner.classifier path).toOption).map (·.path) =
      files.filter (scanner.succeeds fs) := by
  rw [List.map_filterMap, ← List.filterMap_eq_filter]
  refine List.filterMap_congr fun path _ => ?_
  cases hscan : fs.scanFile scanner.classifier path with
  | ok scan =>
    simp [succeeds, hscan, Except.toOption, Option.guard, FileSystem.path_of_scanFile hscan]
  | error fault => simp [succeeds, hscan, Except.toOption, Option.guard]

theorem paths_of_failures (scanner : Scanner) (fs : FileSystem) (files : List String) :
    (Batch.failures (files.map (scanner.complete fs))).map (·.1) =
      files.filter fun path => !scanner.succeeds fs path := by
  rw [Batch.failures, List.filterMap_map, List.map_filterMap, ← List.filterMap_eq_filter]
  refine List.filterMap_congr fun path _ => ?_
  cases hscan : fs.scanFile scanner.classifier path with
  | ok scan => simp [succeeds, complete, hscan, Except.toOption, Option.guard]
  | error fault => simp [succeeds, complete, hscan, Except.toOption, Option.guard]

theorem failed_expected_perm (scanner : Scanner) (fs : FileSystem) (files : List String) :
    ((scanner.expected fs files).failed.map (·.1)).Perm
      ((scanner.wanted files).filter fun path => !scanner.succeeds fs path) := by
  rw [← paths_of_failures]
  exact (Batch.sortFailures_perm _).map _

/-- Every file is scanned, skipped or failed, and only once. -/
theorem expected_perm (scanner : Scanner) (fs : FileSystem) (files : List String) :
    ((scanner.expected fs files).scanned.map (·.path) ++ (scanner.expected fs files).skipped ++
      (scanner.expected fs files).failed.map (·.1)).Perm files := by
  have hscanned : (scanner.expected fs files).scanned.map (·.path) =
      (scanner.wanted files).filter (scanner.succeeds fs) := paths_of_scans scanner fs _
  have hfailed := failed_expected_perm scanner fs files
  have hwanted := List.filter_append_perm (scanner.succeeds fs) (scanner.wanted files)
  have hfiles := List.filter_append_perm scanner.wants files
  rw [hscanned, List.append_assoc]
  refine ((List.perm_append_comm.trans (hfailed.append_right _)).append_left _).trans ?_
  rw [← List.append_assoc]
  exact (hwanted.append_right _).trans hfiles

/-- Failures stand in the order of their paths, and no path comes twice. -/
theorem failed_expected_pairwise (hnodup : files.Nodup) :
    (scanner.expected fs files).failed.Pairwise fun a b =>
      Text.le a.1.toList b.1.toList = true ∧ a.1 ≠ b.1 := by
  have hpaths : ((scanner.expected fs files).failed.map (·.1)).Nodup :=
    (failed_expected_perm scanner fs files).nodup_iff.2 ((hnodup.filter _).filter _)
  have hsorted := Batch.sortFailures_pairwise
    (Batch.failures ((scanner.wanted files).map (scanner.complete fs)))
  refine (hsorted.imp fun hle => (Batch.failureLe_iff.1 hle).1).and ?_
  exact List.pairwise_map.1 hpaths

/-- The failures are those of the wanted files that cannot be read or decoded. -/
theorem mem_failed_expected {path message : String} :
    (path, message) ∈ (scanner.expected fs files).failed ↔
      path ∈ files ∧ scanner.wants path = true ∧
        ∃ fault, fs.readDocument path = .error fault ∧ message = fault.message := by
  rw [expected, (Batch.sortFailures_perm _).mem_iff, mem_failures_iff]
  simp only [wanted, List.mem_filter, and_assoc, FileSystem.scanFile_eq_error_iff]

/-- A scan in the result is what its file alone gives. -/
theorem scanFile_of_mem_expected {scan : FileScan}
    (h : scan ∈ (scanner.expected fs files).scanned) :
    fs.scanFile scanner.classifier scan.path = .ok scan := by
  rcases List.mem_filterMap.1 h with ⟨path, -, hfound⟩
  cases houtcome : fs.scanFile scanner.classifier path with
  | error fault => simp [houtcome, Except.toOption] at hfound
  | ok found =>
    have hscan : found = scan := by simpa [houtcome, Except.toOption] using hfound
    rw [← hscan, FileSystem.path_of_scanFile houtcome, houtcome]

/-- What a scan should give accounts for the files. -/
theorem expected_accounts (scanner : Scanner) (fs : FileSystem) (hnodup : files.Nodup) :
    (scanner.expected fs files).Accounts scanner fs files where
  each_once := ⟨hnodup, expected_perm scanner fs files⟩
  skipped_eq := rfl
  scanned_eq := rfl
  mem_failed_iff := fun _ _ => mem_failed_expected
  failed_sorted := failed_expected_pairwise hnodup
  alone := fun _ hscan _ hbytes =>
    (FileSystem.scanFile_eq_of_readBytes_eq hbytes).trans (scanFile_of_mem_expected hscan)
  rangeCount_eq := Batch.rangeCount_eq_sum _

/-! ### What a scan gives -/

/-- Nothing stands in the way of a result: no folder that has to be listed refuses, the number of
workers can be written if there is a file to scan, and no such file goes on without end. -/
structure Concludes (scanner : Scanner) (fs : FileSystem) (recursive : Bool) (workers : Int)
    (paths : List String) : Prop where
  listed : recursive = true ∨ ∀ path ∈ paths, ∀ access entries,
    fs.locate (fs.absolute path.toList) = .ok (.folder access entries) → access.unlisted = none
  writable : scanner.wanted (collected fs recursive paths) ≠ [] →
    workers.natAbs < 10 ^ Text.longestNumeral
  ends : ∀ path ∈ scanner.wanted (collected fs recursive paths),
    fs.readDocument path ≠ .error .endless

theorem firstListFault?_eq_none_iff :
    fs.firstListFault? recursive (paths.map (·.toList)) = none ↔
      recursive = true ∨ ∀ path ∈ paths, ∀ access entries,
        fs.locate (fs.absolute path.toList) = .ok (.folder access entries) →
          access.unlisted = none := by
  have hpath : ∀ path : String, fs.listFault? recursive (fs.absolute path.toList) = none ↔
      recursive = true ∨ ∀ access entries,
        fs.locate (fs.absolute path.toList) = .ok (.folder access entries) →
          access.unlisted = none := by
    intro path
    unfold FileSystem.listFault?
    cases fs.locate (fs.absolute path.toList) with
    | error fault => simp
    | ok node =>
      cases node with
      | file kind reading => simp
      | link target => simp
      | folder access entries => cases recursive <;> simp
  rw [FileSystem.firstListFault?, List.findSome?_eq_none_iff, List.forall_mem_map]
  simp only [hpath]
  cases recursive <;> simp

/-- Every order in which the files finish gives what it should if the workers can be written and all
failures are such as to be reported. -/
theorem scanFiles_eq_ok {workers : Int}
    (h : completions.Perm ((scanner.wanted files).map (scanner.complete fs)))
    (hwritable : scanner.wanted files ≠ [] → workers.natAbs < 10 ^ Text.longestNumeral)
    (hreported : ∀ completion ∈ completions, ∀ fault, completion.outcome = .error fault →
      fault.isReported = true) :
    scanner.scanFiles workers files completions = .ok (scanner.expected fs files) := by
  have hscanned : (scanner.wanted files).filterMap
      (fun path => (Batch.successes completions).reverse.lookup path) =
        (scanner.wanted files).filterMap fun path =>
          (fs.scanFile scanner.classifier path).toOption :=
    List.filterMap_congr fun path hpath => lookup_successes h hpath
  have hfailed : Batch.sortFailures (Batch.failures completions) =
      Batch.sortFailures (Batch.failures ((scanner.wanted files).map (scanner.complete fs))) :=
    Batch.sortFailures_eq_of_perm (h.filterMap _)
  unfold scanFiles expected
  dsimp only
  split_ifs with hempty
  · simp [List.isEmpty_iff.1 hempty, Batch.failures, Batch.sortFailures]
  · have hsmall := hwritable fun heq => hempty (List.isEmpty_iff.2 heq)
    rw [ScanFault.checkNumeral_of_lt hsmall, ScanFault.checkWorkers_max,
      Progress.foldlM_record {} hreported]
    simp only [bind, Except.bind, pure, Except.pure, Progress.batch, List.append_nil,
      List.nil_append]
    rw [hscanned, hfailed]

/-- A result is what it should be. -/
theorem eq_expected_of_scanFiles {workers : Int}
    (h : completions.Perm ((scanner.wanted files).map (scanner.complete fs))) {batch : Batch}
    (hbatch : scanner.scanFiles workers files completions = .ok batch) :
    (scanner.wanted files ≠ [] → workers.natAbs < 10 ^ Text.longestNumeral) ∧
      batch = scanner.expected fs files := by
  have hparts : (scanner.wanted files ≠ [] → workers.natAbs < 10 ^ Text.longestNumeral) ∧
      (scanner.wanted files ≠ [] → ∃ after, completions.foldlM Progress.record {} = .ok after) := by
    by_cases hempty : scanner.wanted files = []
    · exact ⟨fun hne => absurd hempty hne, fun hne => absurd hempty hne⟩
    · unfold scanFiles at hbatch
      dsimp only at hbatch
      rw [if_neg (by simpa using hempty), ScanFault.checkWorkers_max] at hbatch
      have hsmall : workers.natAbs < 10 ^ Text.longestNumeral := by
        by_contra hlong
        rw [ScanFault.checkNumeral_of_not_lt hlong] at hbatch
        cases hbatch
      rw [ScanFault.checkNumeral_of_lt hsmall] at hbatch
      cases hrun : completions.foldlM Progress.record {} with
      | error fault =>
        rw [hrun] at hbatch
        cases hbatch
      | ok after => exact ⟨fun _ => hsmall, fun _ => ⟨after, rfl⟩⟩
  rcases hparts with ⟨hwritable, hrun⟩
  have hreported : ∀ completion ∈ completions, ∀ fault, completion.outcome = .error fault →
      fault.isReported = true := by
    intro completion hcompletion
    have hwanted : scanner.wanted files ≠ [] := by
      rcases List.mem_map.1 (h.mem_iff.1 hcompletion) with ⟨path, hpath, -⟩
      exact List.ne_nil_of_mem hpath
    rcases hrun hwanted with ⟨after, hafter⟩
    exact Progress.isReported_of_foldlM_record hafter completion hcompletion
  rw [scanFiles_eq_ok h hwritable hreported] at hbatch
  cases hbatch
  exact ⟨hwritable, rfl⟩

/-- With too many workers to be written there is no result. -/
theorem scanFiles_eq_numeral {workers : Int} (hwanted : scanner.wanted files ≠ [])
    (hlong : ¬ workers.natAbs < 10 ^ Text.longestNumeral) :
    scanner.scanFiles workers files completions = .error .numeral := by
  unfold scanFiles
  dsimp only
  rw [if_neg (by simpa using hwanted), ScanFault.checkNumeral_of_not_lt hlong]
  rfl

/-- With a file that goes on without end there is no result. -/
theorem scanFiles_eq_endless {workers : Int}
    (h : completions.Perm ((scanner.wanted files).map (scanner.complete fs)))
    (hwritable : workers.natAbs < 10 ^ Text.longestNumeral)
    (hreported : ∀ completion ∈ completions, ∀ fault, completion.outcome = .error fault →
      fault ≠ .endless → fault.isReported = true)
    {path : String} (hpath : path ∈ scanner.wanted files)
    (hendless : fs.readDocument path = .error .endless) :
    scanner.scanFiles workers files completions = .error (.unread .endless) := by
  have hcompletion : ∃ completion ∈ completions, completion.outcome = .error .endless :=
    ⟨scanner.complete fs path, h.mem_iff.2 (List.mem_map_of_mem hpath),
      FileSystem.scanFile_eq_error_iff.2 hendless⟩
  unfold scanFiles
  dsimp only
  rw [if_neg (by simpa using List.ne_nil_of_mem hpath), ScanFault.checkNumeral_of_lt hwritable,
    ScanFault.checkWorkers_max, Progress.foldlM_record_of_endless {} hreported hcompletion]
  rfl

section Collected

variable (hroot : fs.root.isNameable = true) {workers : Int}
  (h : completions.Perm
    ((scanner.wanted (collected fs recursive paths)).map (scanner.complete fs)))

include hroot h

/-- Failures to read collected files are such as to be reported. -/
theorem isReported_of_completion : ∀ completion ∈ completions, ∀ fault,
    completion.outcome = .error fault → fault ≠ .endless → fault.isReported = true := by
  intro completion hcompletion fault hfault
  rcases List.mem_map.1 (h.mem_iff.1 hcompletion) with ⟨path, hpath, rfl⟩
  exact isReported_of_mem_collected hroot (List.mem_filter.1 hpath).1
    (FileSystem.scanFile_eq_error_iff.1 hfault)

/-- Collected files give what they should if the workers can be written and no file goes on without
end. -/
theorem scanFiles_collected_eq_ok
    (hwritable : scanner.wanted (collected fs recursive paths) ≠ [] →
      workers.natAbs < 10 ^ Text.longestNumeral)
    (hends : ∀ path ∈ scanner.wanted (collected fs recursive paths),
      fs.readDocument path ≠ .error .endless) :
    scanner.scanFiles workers (collected fs recursive paths) completions =
      .ok (scanner.expected fs (collected fs recursive paths)) := by
  refine scanFiles_eq_ok h hwritable fun completion hcompletion fault hfault => ?_
  refine isReported_of_completion hroot h completion hcompletion fault hfault ?_
  rintro rfl
  rcases List.mem_map.1 (h.mem_iff.1 hcompletion) with ⟨path, hpath, rfl⟩
  exact hends path hpath (FileSystem.scanFile_eq_error_iff.1 hfault)

/-- The order in which collected files finish makes no difference. -/
theorem scanFiles_collected_eq {finished : List Completion}
    (hfinished : finished.Perm
      ((scanner.wanted (collected fs recursive paths)).map (scanner.complete fs))) :
    scanner.scanFiles workers (collected fs recursive paths) completions =
      scanner.scanFiles workers (collected fs recursive paths) finished := by
  by_cases hwritable : scanner.wanted (collected fs recursive paths) ≠ [] →
      workers.natAbs < 10 ^ Text.longestNumeral
  · by_cases hends : ∀ path ∈ scanner.wanted (collected fs recursive paths),
        fs.readDocument path ≠ .error .endless
    · rw [scanFiles_collected_eq_ok hroot h hwritable hends,
        scanFiles_collected_eq_ok hroot hfinished hwritable hends]
    · push Not at hends
      rcases hends with ⟨path, hpath, hendless⟩
      have hsmall := hwritable (List.ne_nil_of_mem hpath)
      rw [scanFiles_eq_endless h hsmall (isReported_of_completion hroot h) hpath hendless,
        scanFiles_eq_endless hfinished hsmall (isReported_of_completion hroot hfinished) hpath
          hendless]
  · push Not at hwritable
    rcases hwritable with ⟨hwanted, hlong⟩
    rw [scanFiles_eq_numeral hwanted (by omega), scanFiles_eq_numeral hwanted (by omega)]

end Collected

/-- Every order in which the files finish gives the same result or the same fault. -/
theorem scanInOrder_eq (hroot : fs.root.isNameable = true) (workers : Int)
    (h : completions.Perm
      ((scanner.wanted (collected fs recursive paths)).map (scanner.complete fs))) :
    scanner.scanInOrder fs recursive workers paths completions =
      scanner.scanPaths fs recursive workers paths := by
  unfold scanPaths scanInOrder
  cases fs.firstListFault? recursive (paths.map (·.toList)) with
  | some fault => rfl
  | none => exact scanFiles_collected_eq hroot h (List.Perm.refl _)

/-- There is a result if nothing stands in its way. -/
theorem scanPaths_of_concludes (hroot : fs.root.isNameable = true) {workers : Int}
    (h : scanner.Concludes fs recursive workers paths) :
    scanner.scanPaths fs recursive workers paths =
      .ok (scanner.expected fs (collected fs recursive paths)) := by
  unfold scanPaths scanInOrder
  rw [firstListFault?_eq_none_iff.2 h.listed]
  exact scanFiles_collected_eq_ok hroot (List.Perm.refl _) h.writable h.ends

/-- What is known when there is a result. -/
theorem of_scanPaths {workers : Int} {batch : Batch}
    (h : scanner.scanPaths fs recursive workers paths = .ok batch) :
    fs.firstListFault? recursive (paths.map (·.toList)) = none ∧
      scanner.scanFiles workers (collected fs recursive paths)
        ((scanner.wanted (collected fs recursive paths)).map (scanner.complete fs)) =
          .ok batch := by
  unfold scanPaths scanInOrder at h
  cases hfault : fs.firstListFault? recursive (paths.map (·.toList)) with
  | some fault =>
    rw [hfault] at h
    cases h
  | none =>
    rw [hfault] at h
    exact ⟨rfl, h⟩

theorem eq_expected_of_scanPaths {workers : Int} {batch : Batch}
    (h : scanner.scanPaths fs recursive workers paths = .ok batch) :
    batch = scanner.expected fs (collected fs recursive paths) :=
  (eq_expected_of_scanFiles (List.Perm.refl _) (of_scanPaths h).2).2

/-- If there is a result, nothing has stood in its way. -/
theorem concludes_of_scanPaths (hroot : fs.root.isNameable = true) {workers : Int} {batch : Batch}
    (h : scanner.scanPaths fs recursive workers paths = .ok batch) :
    scanner.Concludes fs recursive workers paths := by
  rcases of_scanPaths h with ⟨hlisted, hbatch⟩
  have hself := List.Perm.refl
    ((scanner.wanted (collected fs recursive paths)).map (scanner.complete fs))
  have hwritable := (eq_expected_of_scanFiles hself hbatch).1
  refine ⟨firstListFault?_eq_none_iff.1 hlisted, hwritable, ?_⟩
  intro path hpath hendless
  rw [scanFiles_eq_endless hself (hwritable (List.ne_nil_of_mem hpath))
    (isReported_of_completion hroot hself) hpath hendless] at hbatch
  cases hbatch

/-- The result for one file that is scanned. -/
theorem scanPaths_single {workers : Int} {file : String} {scan : FileScan}
    (hlisted : fs.firstListFault? recursive (paths.map (·.toList)) = none)
    (hfiles : collected fs recursive paths = [file]) (hwants : scanner.wants file = true)
    (hscan : fs.scanFile scanner.classifier file = .ok scan)
    (hworkers : workers.natAbs < 10 ^ Text.longestNumeral) :
    scanner.scanPaths fs recursive workers paths = .ok { scanned := [scan] } := by
  have hwanted : scanner.wanted [file] = [file] := by simp [wanted, hwants]
  have hunwanted : scanner.unwanted [file] = [] := by simp [unwanted, hwants]
  have hexpected : scanner.expected fs [file] = { scanned := [scan] } := by
    rw [expected, hwanted, hunwanted]
    simp [hscan, Except.toOption, Batch.failures, Batch.sortFailures, complete]
  unfold scanPaths scanInOrder
  rw [hlisted, hfiles, ← hexpected]
  refine scanFiles_eq_ok (List.Perm.refl _) (fun _ => hworkers) ?_
  rw [hwanted]
  intro completion hcompletion fault hfault
  rw [List.mem_singleton.1 hcompletion] at hfault
  cases hscan.symm.trans hfault

end Scanner
end BranchFold
