import BranchFold.Proofs.FoldFamily
import BranchFold.Proofs.FolderFiles
import BranchFold.Proofs.ScanOrder
import BranchFold.Report.Text

/-!
# What reports show

The report on a scan shows what the scan has found, whatever lines are at hand by then: files may
have grown, shrunk or gone since they were scanned.  Headers of scanned ranges never lie before the
start of a file, so only headers beyond the end are left out, and nothing fails.  A report from
elsewhere may fail.  It fails as the first of its ranges that fails, by a number with too many
digits or else by a header before the start of its file.

Main definitions:

- {lit}`Batch.reportSections`, {lit}`ReportSection.text`: what the report on a scan should show.
- {lit}`RangeRecord.IsWritable`, {lit}`RangeRecord.IsBeforeStart`: what can be wrong with a range.

Main results:

- Theorem {lit}`faultOf?_mapM`: the fault of a sequence of steps is the first.
- Theorem {lit}`ScanReport.faultOf?_text`: the fault of a report.
- Theorem {lit}`ScanReport.text_ofBatch`: the report on a scan.
- Theorem {lit}`ScanReport.text_is_faithful`: the report on a scan, and reports that miss a line.
-/

namespace BranchFold

/-! ## First faults -/

section FirstFaults

variable {ε α β γ : Type}

/-- The fault with which a computation ends, if it fails. -/
def faultOf? : Except ε α → Option ε
  | .ok _ => none
  | .error fault => some fault

@[simp]
theorem faultOf?_ok (a : α) : faultOf? (.ok a : Except ε α) = none := rfl

@[simp]
theorem faultOf?_error (fault : ε) : faultOf? (.error fault : Except ε α) = some fault := rfl

@[simp]
theorem faultOf?_map (f : α → β) (result : Except ε α) :
    faultOf? (result.map f) = faultOf? result := by
  cases result <;> rfl

theorem eq_error_iff {result : Except ε α} {fault : ε} :
    result = .error fault ↔ faultOf? result = some fault := by
  cases result <;> simp

/-- The fault of a step followed by another is that of the first if it fails. -/
theorem faultOf?_bind (result : Except ε α) (next : α → Except ε β) {fault? : Option ε}
    (h : ∀ a, result = .ok a → faultOf? (next a) = fault?) :
    faultOf? (result >>= next) = (faultOf? result).or fault? := by
  cases result with
  | error fault => rfl
  | ok a => exact h a rfl

/-- The fault of a sequence of steps is the first. -/
theorem faultOf?_mapM (f : α → Except ε β) (items : List α) :
    faultOf? (items.mapM f) = items.findSome? fun item => faultOf? (f item) := by
  induction items with
  | nil => rfl
  | cons item rest ih =>
    rw [List.mapM_cons, List.findSome?_cons, ← ih]
    cases f item with
    | error fault => rfl
    | ok result => cases rest.mapM f <;> rfl

/-- Steps that do not fail give their results one by one. -/
theorem mapM_eq_ok {f : α → Except ε β} {g : α → β} {items : List α}
    (h : ∀ item ∈ items, f item = .ok (g item)) : items.mapM f = .ok (items.map g) := by
  induction items with
  | nil => rfl
  | cons item rest ih =>
    rcases List.forall_mem_cons.1 h with ⟨hitem, hrest⟩
    rw [List.mapM_cons, hitem, ih hrest]
    rfl

/-- The first value of a list of lists. -/
theorem findSome?_flatMap (f : β → Option γ) (parts : α → List β) (items : List α) :
    (items.flatMap parts).findSome? f = items.findSome? fun item => (parts item).findSome? f := by
  induction items with
  | nil => rfl
  | cons item rest ih =>
    rw [List.flatMap_cons, List.findSome?_append, List.findSome?_cons, ih]
    cases (parts item).findSome? f <;> rfl

/-- The first value is of a kind exactly when some value is of that kind and none of another kind
comes before. -/
theorem exists_findSome?_iff {f : α → Option β} {items : List α} (Kind : β → Prop) :
    (∃ value, Kind value ∧ items.findSome? f = some value) ↔
      ∃ front item back, items = front ++ item :: back ∧
        (∀ earlier ∈ front, ∀ value, f earlier = some value → Kind value) ∧
        ∃ value, Kind value ∧ f item = some value := by
  constructor
  · intro h
    rcases h with ⟨value, hkind, hfound⟩
    rcases List.findSome?_eq_some_iff.1 hfound with ⟨front, item, back, hitems, hitem, hfront⟩
    refine ⟨front, item, back, hitems, ?_, value, hkind, hitem⟩
    intro earlier hearlier other hother
    rw [hfront earlier hearlier] at hother
    cases hother
  · intro h
    rcases h with ⟨front, item, back, rfl, hfront, value, hkind, hitem⟩
    rw [List.findSome?_append, List.findSome?_cons, hitem]
    cases hfirst : front.findSome? f with
    | none => exact ⟨value, hkind, rfl⟩
    | some first =>
      rcases List.exists_of_findSome?_eq_some hfirst with ⟨earlier, hearlier, hvalue⟩
      exact ⟨first, hfront earlier hearlier first hvalue, rfl⟩

end FirstFaults

/-! ## Ranges -/

/-- The fault is that of a line number. -/
def ReportFault.IsLine (fault : ReportFault) : Prop :=
  ∃ missing, fault = .line missing

theorem shownNumber_of_lt {n : Int} (h : n.natAbs < 10 ^ Text.longestNumeral) :
    shownNumber n = .ok (toString n) := by
  unfold shownNumber
  rw [Text.ofInt?_eq, if_pos h]

theorem shownNumber_of_not_lt {n : Int} (h : ¬ n.natAbs < 10 ^ Text.longestNumeral) :
    shownNumber n = .error .numeral := by
  unfold shownNumber
  rw [Text.ofInt?_eq, if_neg h]

namespace RangeRecord

/-- The line numbers of the range, counted from one, have not too many digits. -/
def IsWritable (range : RangeRecord) : Prop :=
  (range.first + 1).natAbs < 10 ^ Text.longestNumeral ∧
    (range.last + 1).natAbs < 10 ^ Text.longestNumeral

/-- The header of the range lies before the start of the lines at hand. -/
def IsBeforeStart (range : RangeRecord) (lines : Option Document) : Prop :=
  ∃ document number, lines = some document ∧ range.header = some number ∧
    number < -document.length

variable {range : RangeRecord} {lines : Option Document}

theorem span_of_isWritable (h : range.IsWritable) :
    range.span = .ok (toString (range.first + 1) ++ "-" ++ toString (range.last + 1)) := by
  rw [span, shownNumber_of_lt h.1, shownNumber_of_lt h.2]
  rfl

theorem span_of_not_isWritable (h : ¬ range.IsWritable) : range.span = .error .numeral := by
  rw [span]
  by_cases hfirst : (range.first + 1).natAbs < 10 ^ Text.longestNumeral
  · rw [shownNumber_of_lt hfirst, shownNumber_of_not_lt fun hlast => h ⟨hfirst, hlast⟩]
    rfl
  · rw [shownNumber_of_not_lt hfirst]
    rfl

/-- Only a header before the start of the lines cannot be looked up. -/
theorem exists_faultOf?_shownHeader_iff :
    (∃ missing, faultOf? (range.shownHeader lines) = some missing) ↔
      range.IsBeforeStart lines := by
  unfold shownHeader IsBeforeStart
  cases lines with
  | none => simp
  | some document =>
    cases range.header with
    | none => simp
    | some number =>
      have hmissing := Document.line?_eq_none_iff document number
      dsimp only
      split_ifs with hlt
      · cases hline : document.line? number with
        | none =>
          have hbefore : number < -document.length := by
            have hout := hmissing.1 hline
            omega
          simp [hbefore]
        | some line =>
          have hinside : ¬ number < -document.length := by
            intro hbefore
            have hnone := hmissing.2 (Or.inl hbefore)
            simp [hline] at hnone
          simp [hinside]
      · have hbeyond : ¬ number < -document.length := by omega
        simp [hbeyond]

/-- Where the numbers can be written, only the header can fail. -/
theorem faultOf?_entry_of_isWritable (paint : Paint) (lines : Option Document)
    (h : range.IsWritable) :
    faultOf? (range.entry paint lines) = (faultOf? (range.shownHeader lines)).map .line := by
  rw [entry, span_of_isWritable h]
  cases range.shownHeader lines <;> rfl

theorem faultOf?_entry_of_not_isWritable (paint : Paint) (lines : Option Document)
    (h : ¬ range.IsWritable) : faultOf? (range.entry paint lines) = some .numeral := by
  rw [entry, span_of_not_isWritable h]
  rfl

/-- Numbers are written before headers are looked up. -/
theorem exists_isLine_entry_iff (paint : Paint) (range : RangeRecord) (lines : Option Document) :
    (∃ fault, ReportFault.IsLine fault ∧ faultOf? (range.entry paint lines) = some fault) ↔
      range.IsWritable ∧ range.IsBeforeStart lines := by
  by_cases hwritable : range.IsWritable
  · rw [faultOf?_entry_of_isWritable paint lines hwritable, ← exists_faultOf?_shownHeader_iff]
    cases faultOf? (range.shownHeader lines) <;> simp [ReportFault.IsLine, hwritable]
  · rw [faultOf?_entry_of_not_isWritable paint lines hwritable]
    simp [ReportFault.IsLine, hwritable]

/-- Where a number has too many digits, that is the fault. -/
theorem isLine_of_faultOf?_entry_iff (paint : Paint) (range : RangeRecord)
    (lines : Option Document) :
    (∀ fault, faultOf? (range.entry paint lines) = some fault → ReportFault.IsLine fault) ↔
      range.IsWritable := by
  by_cases hwritable : range.IsWritable
  · rw [faultOf?_entry_of_isWritable paint lines hwritable]
    cases faultOf? (range.shownHeader lines) <;> simp [ReportFault.IsLine, hwritable]
  · rw [faultOf?_entry_of_not_isWritable paint lines hwritable]
    simp [ReportFault.IsLine, hwritable]

end RangeRecord

/-! ## Faults of reports -/

namespace ScanReport

/-- The ranges that a report shows, each with its file, in order. -/
def shownRanges (report : ScanReport) : List (FileRecord × RangeRecord) :=
  report.files.flatMap fun file => file.ranges.map fun range => (file, range)

/-- The fault of a file is that of its first range with a fault. -/
theorem faultOf?_entries (paint : Paint) (shown : LinesByPath) (file : FileRecord) :
    faultOf? (file.entries paint shown) =
      file.ranges.findSome? fun range => faultOf? (range.entry paint (shown.lookup file.path)) := by
  rw [FileRecord.entries]
  split_ifs with hempty
  · rw [List.isEmpty_iff.1 hempty]
    rfl
  · rw [faultOf?_map, faultOf?_mapM]

/-- The fault of a report is that of its first range with a fault, and else that of its summary. -/
theorem faultOf?_text (paint : Paint) (shown : LinesByPath) (report : ScanReport) :
    faultOf? (report.text paint shown) =
      (report.shownRanges.findSome? fun (file, range) =>
        faultOf? (range.entry paint (shown.lookup file.path))).or (faultOf? report.summary) := by
  have hfiles : faultOf? (report.files.mapM (FileRecord.entries paint shown)) =
      report.shownRanges.findSome? fun (file, range) =>
        faultOf? (range.entry paint (shown.lookup file.path)) := by
    rw [faultOf?_mapM, shownRanges, findSome?_flatMap]
    simp only [faultOf?_entries, List.findSome?_map, Function.comp_def]
  rw [text, faultOf?_map, lines, ← hfiles]
  refine faultOf?_bind _ _ fun parts _ => ?_
  cases report.summary <;> rfl

theorem faultOf?_summary {report : ScanReport} {fault : ReportFault}
    (h : faultOf? report.summary = some fault) : fault = .numeral := by
  unfold summary at h
  split_ifs at h
  · cases h
  · rw [faultOf?_map] at h
    by_cases hcount : report.count.natAbs < 10 ^ Text.longestNumeral
    · rw [shownNumber_of_lt hcount] at h
      cases h
    · rw [shownNumber_of_not_lt hcount] at h
      cases h
      rfl

/-- A report misses a line exactly when a header lies before the start of its file and no number up
to there has too many digits. -/
theorem exists_text_eq_line_iff (paint : Paint) (shown : LinesByPath) (report : ScanReport) :
    (∃ missing, report.text paint shown = .error (.line missing)) ↔
      ∃ front file range back, report.shownRanges = front ++ (file, range) :: back ∧
        (∀ earlier ∈ front, earlier.2.IsWritable) ∧ range.IsWritable ∧
        range.IsBeforeStart (shown.lookup file.path) := by
  have hkinds : (∃ missing, report.text paint shown = .error (.line missing)) ↔
      ∃ fault, ReportFault.IsLine fault ∧ (report.shownRanges.findSome? fun (file, range) =>
        faultOf? (range.entry paint (shown.lookup file.path))) = some fault := by
    simp only [eq_error_iff, faultOf?_text]
    constructor
    · intro h
      rcases h with ⟨missing, hfault⟩
      rcases Option.or_eq_some_iff.1 hfault with hrange | ⟨-, hsummary⟩
      · exact ⟨_, ⟨missing, rfl⟩, hrange⟩
      · cases faultOf?_summary hsummary
    · intro h
      rcases h with ⟨fault, ⟨missing, rfl⟩, hrange⟩
      exact ⟨missing, Option.or_eq_some_iff.2 (Or.inl hrange)⟩
  rw [hkinds, exists_findSome?_iff]
  simp only [RangeRecord.isLine_of_faultOf?_entry_iff, RangeRecord.exists_isLine_entry_iff,
    Prod.exists]

end ScanReport

/-! ## Reports on scans -/

namespace FoldRange

/-- The header line of a range among the lines at hand, if its number is an index of them. -/
def headerIn? (lines : Option Document) (range : FoldRange) : Option Line :=
  lines.bind fun document => range.header.bind fun number =>
    if 0 ≤ number then document[number.toNat]? else none

/-- The line for a range: its lines counted from one, the reason, and the header line if it is at
hand. -/
def plainEntry (lines : Option Document) (range : FoldRange) : String :=
  "  " ++ toString (range.first + 1) ++ "-" ++ toString (range.last + 1) ++ " (" ++
    range.category ++ ": " ++ range.rule ++ ")" ++
      match range.headerIn? lines with
      | some line => "  " ++ String.ofList (Text.trim line)
      | none => ""

variable {range : FoldRange} {lines : Option Document}

/-- Without negative headers no look-up fails. -/
theorem shownHeader_ofRange (hheader : ∀ number ∈ range.header, 0 ≤ number) :
    (RangeRecord.ofRange range).shownHeader lines =
      .ok ((range.headerIn? lines).map Text.trim) := by
  unfold RangeRecord.shownHeader headerIn? RangeRecord.ofRange
  cases lines with
  | none => rfl
  | some document =>
    cases hnumber : range.header with
    | none => simp
    | some number =>
      have hnonneg : 0 ≤ number := hheader number hnumber
      obtain ⟨index, rfl⟩ := Int.eq_ofNat_of_zero_le hnonneg
      by_cases hlt : index < document.length <;> simp [hlt]

theorem entry_ofRange (hwritable : (RangeRecord.ofRange range).IsWritable)
    (hheader : ∀ number ∈ range.header, 0 ≤ number) :
    (RangeRecord.ofRange range).entry .none lines = .ok (range.plainEntry lines) := by
  rw [RangeRecord.entry, RangeRecord.span_of_isWritable hwritable, shownHeader_ofRange hheader]
  cases hfound : range.headerIn? lines with
  | none =>
    refine congrArg Except.ok (String.toList_inj.1 ?_)
    simp [plainEntry, hfound, Paint.none, RangeRecord.reason, RangeRecord.ofRange]
  | some line =>
    refine congrArg Except.ok (String.toList_inj.1 ?_)
    simp [plainEntry, hfound, Paint.none, RangeRecord.reason, RangeRecord.ofRange]

end FoldRange

/-- What a report shows of one file. -/
structure ReportSection where
  path : String
  entries : List String
  deriving DecidableEq, Repr

namespace ReportSection

/-- The summary of sections: how many entries there are, and in how many files. -/
def summary (sections : List ReportSection) : String :=
  let entries := sections.flatMap (·.entries)
  if entries = [] then "No error-handling branches found"
  else "Found " ++ toString entries.length ++ " error-handling branches in " ++
    toString sections.length ++ " files"

/-- The sections and their summary, line by line. -/
def text (sections : List ReportSection) : String :=
  String.intercalate "\n"
    ((sections.flatMap fun part => part.path :: part.entries) ++ [summary sections])

theorem summary_eq_iff (sections : List ReportSection) :
    summary sections = "No error-handling branches found" ↔ sections.flatMap (·.entries) = [] := by
  unfold summary
  dsimp only
  split_ifs with hnone
  · exact iff_of_true rfl hnone
  · refine iff_of_false (fun heq => ?_) hnone
    have hstart := congrArg (fun line => line.toList.head?) heq
    simp at hstart

end ReportSection

/-- The section of a scanned file. -/
def FileScan.reportSection (shown : LinesByPath) (scan : FileScan) : ReportSection :=
  ⟨scan.path, scan.ranges.map (FoldRange.plainEntry (shown.lookup scan.path))⟩

/-- The sections of the scanned files with ranges. -/
def Batch.reportSections (shown : LinesByPath) (batch : Batch) : List ReportSection :=
  (batch.scanned.filter fun scan => !scan.ranges.isEmpty).map (FileScan.reportSection shown)

/-- The ranges of a scan can be shown: their numbers have not too many digits, and their headers do
not count from the end. -/
def FileScan.IsShowable (scan : FileScan) : Prop :=
  ∀ range ∈ scan.ranges, (RangeRecord.ofRange range).IsWritable ∧
    ∀ number ∈ range.header, 0 ≤ number

theorem FileScan.IsShowable.entries_eq {scan : FileScan} (h : scan.IsShowable)
    (shown : LinesByPath) :
    (FileRecord.ofScan scan).entries .none shown =
      .ok (if !scan.ranges.isEmpty then scan.path :: (scan.reportSection shown).entries
        else []) := by
  have hentries : (scan.ranges.map RangeRecord.ofRange).mapM
      (RangeRecord.entry .none (shown.lookup scan.path)) =
        .ok (scan.reportSection shown).entries := by
    rw [List.mapM_map]
    exact mapM_eq_ok fun range hrange =>
      FoldRange.entry_ofRange (h range hrange).1 (h range hrange).2
  unfold FileRecord.entries FileRecord.ofScan
  dsimp only
  rw [List.isEmpty_map, hentries]
  cases scan.ranges.isEmpty <;> simp [Except.map, Paint.none]

namespace Batch

variable (batch : Batch) (shown : LinesByPath)

/-- The entries of all sections are those of all files. -/
theorem entries_reportSections :
    (batch.reportSections shown).flatMap (·.entries) =
      batch.scanned.flatMap fun scan => (scan.reportSection shown).entries := by
  rw [reportSections, List.flatMap_map, flatMap_filter]
  refine List.flatMap_congr fun scan _ => ?_
  cases hranges : scan.ranges <;> simp [FileScan.reportSection, hranges]

/-- As many entries are shown as ranges were found. -/
theorem length_entries_reportSections :
    ((batch.reportSections shown).flatMap (·.entries)).length = batch.rangeCount := by
  rw [entries_reportSections, List.length_flatMap, rangeCount_eq_sum]
  simp [FileScan.reportSection]

/-- As many sections are shown as files have ranges. -/
theorem length_reportSections (elapsed : Binary64) :
    (ScanReport.ofBatch batch elapsed).filesWithRanges.length =
      (batch.reportSections shown).length := by
  unfold ScanReport.filesWithRanges ScanReport.ofBatch reportSections
  rw [List.filter_map, List.length_map, List.length_map]
  simp [FileRecord.ofScan, Function.comp_def]

variable {batch}

theorem summary_ofBatch (hcount : batch.rangeCount < 10 ^ Text.longestNumeral)
    (elapsed : Binary64) :
    (ScanReport.ofBatch batch elapsed).summary =
      .ok (ReportSection.summary (batch.reportSections shown)) := by
  have hentries := batch.length_entries_reportSections shown
  have htotal : (ScanReport.ofBatch batch elapsed).count = (batch.rangeCount : Int) := rfl
  have hnone : ((batch.rangeCount : Int) = 0) ↔
      (batch.reportSections shown).flatMap (·.entries) = [] := by
    rw [← List.length_eq_zero_iff, hentries]
    omega
  have hnumber : shownNumber (batch.rangeCount : Int) = .ok (toString batch.rangeCount) :=
    shownNumber_of_lt hcount
  rw [ScanReport.summary, ReportSection.summary, htotal, hnumber,
    batch.length_reportSections shown elapsed, hentries]
  by_cases hempty : (batch.reportSections shown).flatMap (·.entries) = []
  · rw [if_pos hempty, if_pos (hnone.2 hempty)]
  · rw [if_neg hempty, if_neg fun hzero => hempty (hnone.1 hzero)]
    rfl

end Batch

namespace ScanReport

/-- The report on a scan whose ranges can be shown. -/
theorem text_ofBatch {batch : Batch} (hscans : ∀ scan ∈ batch.scanned, scan.IsShowable)
    (hcount : batch.rangeCount < 10 ^ Text.longestNumeral) (elapsed : Binary64)
    (shown : LinesByPath) :
    (ofBatch batch elapsed).text .none shown =
      .ok (ReportSection.text (batch.reportSections shown)) := by
  have hfiles : (ofBatch batch elapsed).files.mapM (FileRecord.entries .none shown) =
      .ok (batch.scanned.map fun scan =>
        if !scan.ranges.isEmpty then scan.path :: (scan.reportSection shown).entries else []) := by
    rw [ofBatch, List.mapM_map]
    exact mapM_eq_ok fun scan hscan => (hscans scan hscan).entries_eq shown
  have hlines : (batch.reportSections shown).flatMap (fun part => part.path :: part.entries) =
      (batch.scanned.map fun scan =>
        if !scan.ranges.isEmpty then scan.path :: (scan.reportSection shown).entries
        else []).flatten := by
    rw [Batch.reportSections, List.flatMap_map, flatMap_filter, List.flatMap_def]
    rfl
  rw [text, lines, hfiles, Batch.summary_ofBatch shown hcount, ReportSection.text, hlines]
  rfl

end ScanReport

/-! ## Scans -/

/-- There are no more ranges than lines. -/
theorem Classifier.length_foldRanges_le (classifier : Classifier) (document : Document) :
    (classifier.foldRanges document).length ≤ document.length := by
  rw [foldRanges_eq_filterMap, Document.blocks_eq_filterMap]
  calc _ ≤ _ := List.length_filterMap_le _ _
    _ ≤ _ := List.length_filterMap_le _ _
    _ = document.length := by simp

namespace Scanner

variable {scanner : Scanner} {fs : FileSystem} {recursive : Bool} {workers : Int}
  {paths : List String} {batch : Batch}
  (hbatch : scanner.scanPaths fs recursive workers paths = .ok batch)

include hbatch

/-- A scan in the result is that of a document. -/
theorem exists_document_of_mem_scanned {scan : FileScan} (h : scan ∈ batch.scanned) :
    ∃ document, scan = .ofDocument scanner.classifier scan.path document := by
  rw [eq_expected_of_scanPaths hbatch] at h
  have hscan := scanFile_of_mem_expected h
  unfold FileSystem.scanFile at hscan
  cases hread : fs.readDocument scan.path with
  | error fault => simp [hread, Except.map] at hscan
  | ok document =>
    rw [hread] at hscan
    injection hscan with hscan
    exact ⟨document, hscan.symm⟩

/-- Scanned ranges can be shown if the lines of their file can be counted. -/
theorem isShowable_of_mem_scanned {scan : FileScan} (h : scan ∈ batch.scanned)
    (hlines : scan.lineCount < 10 ^ Text.longestNumeral) : scan.IsShowable := by
  rcases exists_document_of_mem_scanned hbatch h with ⟨document, hdocument⟩
  have hlength : document.length < 10 ^ Text.longestNumeral := by
    rw [hdocument] at hlines
    exact hlines
  rw [hdocument]
  intro range hrange
  rcases Classifier.exists_block_of_mem_foldRanges hrange with ⟨block, hblock, verdict, rfl⟩
  rcases Document.bounds_of_mem_blocks hblock with ⟨hfirst, hle, hlast⟩
  refine ⟨⟨?_, ?_⟩, ?_⟩
  · dsimp only [RangeRecord.ofRange, Classifier.rangeOf]
    omega
  · dsimp only [RangeRecord.ofRange, Classifier.rangeOf]
    omega
  · intro number hnumber
    rw [Classifier.rangeOf, Option.mem_def] at hnumber
    split_ifs at hnumber with hpos
    cases hnumber
    omega

theorem rangeCount_le : batch.rangeCount ≤ (batch.scanned.map (·.lineCount)).sum := by
  rw [Batch.rangeCount_eq_sum]
  refine List.sum_le_sum fun scan hscan => ?_
  rcases exists_document_of_mem_scanned hbatch hscan with ⟨document, hdocument⟩
  rw [hdocument]
  exact Classifier.length_foldRanges_le _ _

end Scanner

namespace ScanReport

/--
A report in plain text is faithful to its scan.  Whatever lines are at hand, it is written, and it
shows every scanned file with ranges, in order, with one entry for each range, in order, and a
summary.  The summary counts the entries and the files that are shown, and says that there are none
exactly when there are no entries.  The lines are taken to be so few that their number can be
written.  A report from elsewhere misses a line exactly when a header lies before the start of its
file and no number up to there has too many digits.
-/
theorem text_is_faithful :
    (∀ (scanner : Scanner) (fs : FileSystem) (recursive : Bool) (workers : Int)
        (paths : List String) (batch : Batch) (elapsed : Binary64) (shown : LinesByPath),
      let sections := batch.reportSections shown
      scanner.scanPaths fs recursive workers paths = .ok batch →
      (batch.scanned.map (·.lineCount)).sum < 10 ^ Text.longestNumeral →
        (ofBatch batch elapsed).text .none shown = .ok (ReportSection.text sections) ∧
        (ReportSection.summary sections = "No error-handling branches found" ↔
          sections.flatMap (·.entries) = [])) ∧
    ∀ (report : ScanReport) (paint : Paint) (shown : LinesByPath),
      (∃ missing, report.text paint shown = .error (.line missing)) ↔
        ∃ front file range back, report.shownRanges = front ++ (file, range) :: back ∧
          (∀ earlier ∈ front, earlier.2.IsWritable) ∧ range.IsWritable ∧
          range.IsBeforeStart (shown.lookup file.path) := by
  refine ⟨?_, fun report paint shown => exists_text_eq_line_iff paint shown report⟩
  intro scanner fs recursive workers paths batch elapsed shown sections hbatch hlines
  have hscans : ∀ scan ∈ batch.scanned, scan.IsShowable := by
    intro scan hscan
    have hle : scan.lineCount ≤ (batch.scanned.map (·.lineCount)).sum :=
      List.le_sum_of_mem (List.mem_map_of_mem hscan)
    exact Scanner.isShowable_of_mem_scanned hbatch hscan (Nat.lt_of_le_of_lt hle hlines)
  have hcount : batch.rangeCount < 10 ^ Text.longestNumeral :=
    Nat.lt_of_le_of_lt (Scanner.rangeCount_le hbatch) hlines
  exact ⟨text_ofBatch hscans hcount elapsed shown, ReportSection.summary_eq_iff sections⟩

/-- A scanned file that is at hand, changed or shrunk, and a report with a header before the start
of its file. -/
theorem text_after_changes :
    let fs : FileSystem :=
      ⟨.openFolder [("a.c".toList,
        .document (Utf8.encode "if (p)\n  return;\nuse(p);".toList))], ['/']⟩
    let scanner : Scanner :=
      ⟨⟨⟨[.custom "any" "any" "any" .content fun _ => true]⟩, false, 0, []⟩, false⟩
    let batch : Batch := { scanned := [⟨"/a.c", some .c, 3, [⟨1, 1, some 0, "any", "any"⟩]⟩] }
    let report := ofBatch batch .zero
    let foreign : ScanReport :=
      ⟨[⟨"a", none, 2, [⟨0, 0, 0, some (-3), "any", "any"⟩]⟩], [], [], 1, .zero⟩
    scanner.scanPaths fs true 1 ["."] = .ok batch ∧
      (batch.scanned.map (·.lineCount)).sum < 10 ^ Text.longestNumeral ∧
      report.text .none [("/a.c", [" if (q)".toList])] =
        .ok "/a.c\n  2-2 (any: any)  if (q)\nFound 1 error-handling branches in 1 files" ∧
      report.text .none [("/a.c", [])] =
        .ok "/a.c\n  2-2 (any: any)\nFound 1 error-handling branches in 1 files" ∧
      ∃ missing, foreign.text .terminal [("a", [[], []])] = .error (.line missing) := by
  intro fs scanner batch report foreign
  have hbatch : scanner.scanPaths fs true 1 ["."] = .ok batch := by
    have hcollected : Scanner.collected fs true ["."] = ["/a.c"] := by cbv
    have hscan : fs.scanFile scanner.classifier "/a.c" =
        .ok ⟨"/a.c", some .c, 3, [⟨1, 1, some 0, "any", "any"⟩]⟩ := by cbv
    exact Scanner.scanPaths_single (Scanner.firstListFault?_eq_none_iff.2 (Or.inl rfl)) hcollected
      (by decide +kernel) hscan (by decide +kernel)
  have hlines : (batch.scanned.map (·.lineCount)).sum < 10 ^ Text.longestNumeral := by
    decide +kernel
  obtain ⟨hwritten, hmissed⟩ := text_is_faithful
  have hshown := fun shown => (hwritten scanner fs true 1 ["."] batch .zero shown hbatch hlines).1
  refine ⟨hbatch, hlines, (hshown _).trans ?_, (hshown _).trans ?_, ?_⟩
  · cbv
  · cbv
  · refine (hmissed foreign .terminal _).2 ⟨[], _, _, [], rfl, by simp, ?_, ?_⟩
    · exact ⟨by decide +kernel, by decide +kernel⟩
    · exact ⟨_, _, rfl, rfl, by decide⟩

/-- A number with too many digits hides that a line is missing. -/
theorem long_number_hides_missing_line :
    let range : RangeRecord := ⟨10 ^ Text.longestNumeral - 1, 0, 0, some (-1), "any", "any"⟩
    let report : ScanReport := ⟨[⟨"a", none, 0, [range]⟩], [], [], 1, .zero⟩
    let shown : LinesByPath := [("a", [])]
    range.IsBeforeStart (shown.lookup "a") ∧ report.text .none shown = .error .numeral ∧
      ¬ ∃ missing, report.text .none shown = .error (.line missing) := by
  intro range report shown
  have hlong : ¬ range.IsWritable := by
    intro hwritable
    exact absurd hwritable.1 (by decide +kernel)
  have htext : report.text .none shown = .error .numeral := by
    have hfault := RangeRecord.faultOf?_entry_of_not_isWritable .none (shown.lookup "a") hlong
    have hranges : report.shownRanges = [(⟨"a", none, 0, [range]⟩, range)] := rfl
    rw [eq_error_iff, faultOf?_text, hranges, List.findSome?_cons]
    dsimp only
    rw [hfault]
    rfl
  refine ⟨⟨[], -1, rfl, rfl, by decide⟩, htext, ?_⟩
  rintro ⟨missing, hmissing⟩
  rw [htext] at hmissing
  cases hmissing

end ScanReport
end BranchFold
