import BranchFold.Proofs.Encoding
import BranchFold.Proofs.HostReports
import BranchFold.Proofs.Numerals
import BranchFold.Proofs.Overrides
import BranchFold.Proofs.PlainOutput
import BranchFold.Proofs.ScanOrder

/-!
# All hosts report the same

The ranges of a document reach their users through the service, through a scan and through a listing
of blocks.  Each host resolves the policy, reads the document and writes its report on its own.
This module proves that all hosts tell of a document what the engine finds in it: the service in the
value with which it answers, the commands in the text that they print.

Main definitions:

- {lit}`Service.Request.AsksFor`, {lit}`Command.Session.AsksForScan`,
  {lit}`Command.Session.AsksForBlocks`: what each host is asked.
- {lit}`FileSystem.Holds`: a path leads to a file with a text.
- {lit}`Command.Outcome.Shows`: what a command prints is read as a report.

Main results:

- Theorems {lit}`Service.report?_of_asksFor`, {lit}`Command.scan_shows` and
  {lit}`Command.blocks_shows`: what each host reports.
- Theorem {lit}`hosts_agree`: the hosts agree, however they are asked.
-/

namespace BranchFold

open Json (Value)

/-- The judge that an environment and a caller's wishes call for. -/
def Classifier.resolved (env : Environment) (wishes : PolicyOverrides) : Classifier :=
  { policy := (Policy.ofEnvironment env).overridden wishes }

/-! ## Levels of the log -/

namespace LogLevel

/-- A level without meaning gives the default's, so that a rank for one default is a rank for
another. -/
theorem exists_rank_of_default {env : Environment} {default other : String} {value : Int}
    (hother : ofName? other = some (.rank value))
    (h : ∃ value, ofEnvironment env default = .rank value) :
    ∃ value, ofEnvironment env other = .rank value := by
  unfold ofEnvironment Environment.text at h ⊢
  cases hset : env.get? "FOLDEB_LOG_LEVEL" with
  | none => exact ⟨value, by simp [hother]⟩
  | some name =>
    cases hname : ofName? name with
    | none => exact ⟨value, by simp [hname, hother]⟩
    | some level => simpa [hset, hname] using h

end LogLevel

/-! ## The service -/

namespace Service

/-- The report in an answer, if the answer is a good one. -/
def Response.report? (response : Response) : Option HostReport :=
  if response.status = 200 then Layout.ranges.report? response.content.toValue else none

/-- The language of a request for ranges is missing or supported. -/
def FoldRequest.IsSupported (request : FoldRequest) : Prop :=
  ∀ name ∈ request.language, (Language.ofName? name).isSome = true

/-- The request, read within limits, asks for the ranges of a text under wishes, and nothing goes
wrong inside the service. -/
structure Request.AsksFor (request : Request) (limits : Json.Limits) (text : String)
    (wishes : PolicyOverrides) : Prop where
  endpoint : App.endpoint? request.path = some .fold
  method : Text.upper request.method.toList = App.Endpoint.fold.method.toList
  body : ∃ fold, FoldRequest.ofBody limits request.body = .ok fold ∧ fold.text = text ∧
    fold.wishes = wishes ∧ fold.IsSupported
  undisturbed : request.fault = none

/-- A language that is missing or supported is accepted. -/
theorem languageOf_of_isSupported {request : FoldRequest} (h : request.IsSupported) :
    ∃ language, App.languageOf request = .ok language := by
  cases hname : request.language with
  | none => exact ⟨none, by simp [App.languageOf, hname]⟩
  | some name =>
    rcases Option.isSome_iff_exists.1 (h name hname) with ⟨language, hlanguage⟩
    exact ⟨some language, by simp [App.languageOf, hname, hlanguage]⟩

/-- An answer holds the report on its ranges. -/
theorem report?_fold (ranges : List FoldRange) (lineCount : Nat) (language : Option Language)
    (time : Binary64) :
    Response.report? ⟨200, .fold ⟨ranges, lineCount, language, time⟩⟩ =
      some ⟨ranges.map (·.entry), lineCount⟩ := by
  rw [Response.report?, if_pos rfl]
  exact Layout.report?_of_fields (fun range => (RangeRecord.ofRange range).toValue) rfl rfl
    Layout.readEntry_ofRange

/-- A service reports what the engine finds under its policy and the wishes of the request. -/
theorem report?_of_asksFor {app : App} {request : Request} {text : String}
    {wishes : PolicyOverrides} (h : request.AsksFor app.limits text wishes) (metrics : Metrics)
    (elapsed : Binary64) :
    (app.handle metrics request elapsed).1.report? =
      some (.ofDocument { policy := app.policy.overridden wishes }
        (Document.ofText text.toList)) := by
  rcases h.body with ⟨fold, hbody, rfl, rfl, hsupported⟩
  rcases languageOf_of_isSupported hsupported with ⟨language, hlanguage⟩
  rw [App.handle, h.endpoint]
  dsimp only
  rw [if_pos h.method, hbody]
  dsimp only
  rw [h.undisturbed, App.fold, hlanguage]
  exact report?_fold _ _ language elapsed

/-- A service starts where its log has a rank, with the policy of the environment. -/
theorem exists_start {env : Environment}
    (h : ∃ value, LogLevel.ofEnvironment env "INFO" = .rank value) (nesting : Nat) :
    ∃ app, App.start env nesting = .ok app ∧ app.policy = Policy.ofEnvironment env := by
  rcases h with ⟨value, hrank⟩
  have hthreshold : LogLevel.threshold none env "INFO" = .ok value := by
    rw [LogLevel.threshold, hrank, LogLevel.toRank]
  rw [App.start, hthreshold]
  exact ⟨_, rfl, rfl⟩

/-- The plain request asks for what it is made for. -/
theorem foldRequest_asksFor (limits : Json.Limits) (text : String) {language : Option String}
    (hlanguage : ∀ name ∈ language, (Language.ofName? name).isSome = true) (gate : Option Bool)
    (threshold : Option Nat) :
    (foldRequest text language gate threshold).AsksFor limits text
      ⟨gate, threshold.map fun n : Nat => (n : Int)⟩ where
  endpoint := by
    change App.endpoint? App.foldPath = some .fold
    decide
  method := by
    change Text.upper "POST".toList = App.Endpoint.fold.method.toList
    decide
  body := ⟨_, ofBody_foldRequest text language gate threshold limits, rfl, rfl, hlanguage⟩
  undisturbed := rfl

end Service

/-! ## Files -/

/-- The path leads to a file of a supported language with the text, also when it is written in full
from the root. -/
structure FileSystem.Holds (fs : FileSystem) (path text : String) : Prop where
  located : fs.locate path.toList = .ok (.document (Utf8.encode text.toList))
  absolute : fs.locate (fs.absolute path.toList) = .ok (.document (Utf8.encode text.toList))
  language : (Language.ofPath? (String.ofList (fs.absolute path.toList))).isSome = true

namespace FileSystem

variable {fs : FileSystem} {path text : String}

/-- A file that holds a text is read as the lines of the text. -/
theorem readDocument_of_locate
    (h : fs.locate path.toList = .ok (.document (Utf8.encode text.toList))) :
    fs.readDocument path = .ok (Document.ofText text.toList) := by
  have hbytes : fs.readBytes path = .ok (Utf8.encode text.toList) := by
    simp [readBytes, h, Reading.outcome]
  simp [readDocument, hbytes, bind, Except.bind]

/-- A path to a file stands for the file alone. -/
theorem Holds.collected (h : fs.Holds path text) (recursive : Bool) :
    Scanner.collected fs recursive [path] = [String.ofList (fs.absolute path.toList)] := by
  have hfiles : fs.filesAt recursive (fs.absolute path.toList) = [fs.absolute path.toList] := by
    simp [filesAt, h.absolute]
  simp [Scanner.collected, FileSystem.collected, hfiles, List.eraseDups_cons]

/-- The scan of a path to a file is the scan of the file. -/
theorem Holds.scanPaths (h : fs.Holds path text) (scanner : Scanner) (recursive : Bool)
    {workers : Int} (hworkers : workers.natAbs < 10 ^ Text.longestNumeral) :
    scanner.scanPaths fs recursive workers [path] =
      .ok { scanned := [.ofDocument scanner.classifier (String.ofList (fs.absolute path.toList))
        (Document.ofText text.toList)] } := by
  have hlisted : fs.firstListFault? recursive ([path].map (·.toList)) = none := by
    simp [firstListFault?, listFault?, h.absolute]
  have hwants : scanner.wants (String.ofList (fs.absolute path.toList)) = true := by
    simp [Scanner.wants, h.language]
  have hread : fs.readDocument (String.ofList (fs.absolute path.toList)) =
      .ok (Document.ofText text.toList) :=
    readDocument_of_locate (by simpa using h.absolute)
  have hscan : fs.scanFile scanner.classifier (String.ofList (fs.absolute path.toList)) =
      .ok (.ofDocument scanner.classifier (String.ofList (fs.absolute path.toList))
        (Document.ofText text.toList)) := by
    rw [scanFile, hread]
    rfl
  exact Scanner.scanPaths_single hlisted (h.collected recursive) hwants hscan hworkers

end FileSystem

/-! ## Commands -/

namespace Command

/-- The outcome is good, and the text that it prints, on a terminal or not, is read as the
report. -/
structure Outcome.Shows (outcome : Outcome) (read : Value → Option HostReport)
    (report : HostReport) : Prop where
  good : outcome.exitCode = 0
  shown : ∀ toTerminal, reportIn? read (linesText toTerminal outcome.output).toList = some report

/-- An outcome that is good and consists of a written value shows the report in the value. -/
theorem Outcome.shows_of_output {outcome : Outcome} {alphabet : Json.Alphabet}
    {read : Value → Option HostReport} {report : HostReport} {value : Value}
    (hgood : outcome.exitCode = 0) (houtput : outcome.output = [Json.write alphabet value])
    (hreread : ∀ value : Value, read value.reread = read value)
    (hread : read value = some report) : outcome.Shows read report := by
  refine ⟨hgood, ?_⟩
  intro toTerminal
  rw [houtput, linesText_write, reportIn?_write hreread, hread]

/-- The environment names a log level that is a rank. -/
def Session.CanLog (session : Session) : Prop :=
  ∃ value, LogLevel.ofEnvironment session.env "WARNING" = .rank value

/-- The number of workers was read from the environment in which the program started, and a scan
takes it. -/
structure Session.CanWork (session : Session) : Prop where
  started : ∃ env, session.workers = workersIn env
  enough : leastWorkers ≤ session.workers

/-- The number of workers of a session can be written. -/
theorem Session.CanWork.natAbs_workers_lt {session : Session} (h : session.CanWork) :
    session.workers.natAbs < 10 ^ Text.longestNumeral := by
  rcases h.started with ⟨env, hworkers⟩
  rw [hworkers]
  exact natAbs_workersIn_lt env

/-- The judge is the one that the environment and the wishes call for. -/
theorem Session.CanLog.exists_bench {session : Session} (h : session.CanLog)
    {options : JudgingOptions} {wishes : PolicyOverrides} (hwishes : options.wishes = .ok wishes) :
    ∃ threshold, session.bench options = .ok ⟨.resolved session.env wishes, threshold⟩ := by
  have hlog : ∃ rank, options.logThreshold session.env = .ok rank := by
    cases hverbose : options.verbose with
    | true => exact ⟨LogLevel.debug, by simp [JudgingOptions.logThreshold, hverbose]⟩
    | false =>
      rcases h with ⟨value, hlevel⟩
      exact ⟨value, by
        simp [JudgingOptions.logThreshold, hverbose, LogLevel.threshold, hlevel, LogLevel.toRank]⟩
  rcases hlog with ⟨rank, hrank⟩
  refine ⟨LogLevel.effective rank, ?_⟩
  rw [Session.bench, hwishes, hrank]
  rfl

/-! ### Scans -/

/-- The words ask for a scan of a path, written as a structured value, under wishes. -/
def Session.AsksForScan (session : Session) (words : List String) (path : String)
    (wishes : PolicyOverrides) : Prop :=
  ∃ options, Invocation.ofWords session.files session.workers words = .ok (.scan options [path]) ∧
    options.json = true ∧ options.judging.wishes = .ok wishes

/-- The value of a scan of one file holds the report on the file. -/
theorem scanReport?_ofDocument (classifier : Classifier) (path : String) (document : Document)
    (elapsed : Binary64) :
    scanReport? (ScanReport.ofBatch { scanned := [.ofDocument classifier path document] }
      elapsed).toValue = some (.ofDocument classifier document) := by
  have hfile : Layout.ranges.report?
      (FileRecord.ofScan (.ofDocument classifier path document)).toValue =
        some (.ofDocument classifier document) := by
    refine Layout.report?_of_fields (fun range => (RangeRecord.ofRange range).toValue) ?_ rfl
      Layout.readEntry_ofRange
    simp [FileRecord.toValue, FileRecord.ofScan, FileScan.ofDocument, Layout.ranges, Value.field?,
      Value.member?]
  exact hfile

/-- A scan of a file shows what the engine finds in it. -/
theorem scan_shows {session : Session} {path text : String} {wishes : PolicyOverrides}
    {words : List String} (hlog : session.CanLog) (hwork : session.CanWork)
    (hfile : session.files.Holds path text) (hwords : session.AsksForScan words path wishes) :
    ∃ outcome, run session words = .ok outcome ∧ outcome.Shows scanReport?
      (.ofDocument (.resolved session.env wishes) (Document.ofText text.toList)) := by
  rcases hwords with ⟨options, hoptions, hjson, hwishes⟩
  rcases hlog.exists_bench hwishes with ⟨threshold, hbench⟩
  -- The scan reads the file under its absolute path and finds nothing else there.
  have hscan := hfile.scanPaths ⟨.resolved session.env wishes, options.allLanguages⟩
    options.recursive (natAbs_maxWorkers_lt hwork.natAbs_workers_lt hoptions)
  have hrun : run session words =
      Scan.outcome session options [path] ⟨.resolved session.env wishes, threshold⟩ := by
    rw [run, hoptions]
    dsimp only
    rw [Invocation.run, Scan.run, hbench]
  rw [hrun, Scan.outcome]
  simp only [hscan, Except.mapError, Scan.report, hjson]
  exact ⟨_, rfl, Outcome.shows_of_output rfl rfl scanReport?_reread
    (scanReport?_ofDocument _ _ _ _)⟩

/-! ### Listings -/

/-- The words ask for a listing of the accepted blocks of a path, written as a structured value,
under wishes. -/
def Session.AsksForBlocks (session : Session) (words : List String) (path : String)
    (wishes : PolicyOverrides) : Prop :=
  ∃ options, Invocation.ofWords session.files session.workers words = .ok (.blocks options path) ∧
    options.json = true ∧ options.accepted = true ∧ options.judging.wishes = .ok wishes

/-- The row of a block that was accepted. -/
def Blocks.Row.ofAccepted (document : Document) (accepted : Block × Verdict) : Blocks.Row :=
  ⟨accepted.1, accepted.1.columns document, some accepted.2⟩

/-- The rows of a listing of accepted blocks are those of the blocks that the engine accepts. -/
theorem Blocks.rows_accepted (classifier : Classifier) (document : Document) :
    Blocks.rows classifier true document =
      (classifier.acceptedBlocks document).map (Blocks.Row.ofAccepted document) := by
  rw [Blocks.rows, Classifier.acceptedBlocks]
  -- The rows are filtered after they are made, the accepted blocks while they are made.
  generalize document.blocks = blocks
  induction blocks with
  | nil => rfl
  | cons block blocks ih =>
    cases hverdict : classifier.verdict? document block with
    | none => simpa [Blocks.Row.ofBlock, hverdict] using ih
    | some verdict =>
      simpa [Blocks.Row.ofBlock, hverdict, Blocks.Row.ofAccepted] using ih

/-- The value of a listing of accepted blocks holds the report on the document. -/
theorem Blocks.report?_listing (classifier : Classifier) (path : String) (document : Document) :
    Layout.blocks.report? (Blocks.listing path document.length
      (Blocks.rows classifier true document)) = some (.ofDocument classifier document) := by
  have hentries : (classifier.foldRanges document).map (·.entry) =
      (classifier.acceptedBlocks document).map fun accepted =>
        (Classifier.rangeOf accepted.1 accepted.2).entry := by
    rw [Classifier.foldRanges, List.map_map]
    rfl
  rw [Blocks.rows_accepted, HostReport.ofDocument, hentries]
  refine Layout.report?_of_fields
    (fun accepted => (Blocks.Row.ofAccepted document accepted).toValue) ?_ rfl fun _ => rfl
  simp [Blocks.listing, Layout.blocks, Value.field?, Value.member?]

/-- A listing of the accepted blocks of a file shows what the engine finds in it. -/
theorem blocks_shows {session : Session} {path text : String} {wishes : PolicyOverrides}
    {words : List String} (hlog : session.CanLog) (hfile : session.files.Holds path text)
    (hwords : session.AsksForBlocks words path wishes) :
    ∃ outcome, run session words = .ok outcome ∧ outcome.Shows Layout.blocks.report?
      (.ofDocument (.resolved session.env wishes) (Document.ofText text.toList)) := by
  rcases hwords with ⟨options, hoptions, hjson, haccepted, hwishes⟩
  rcases hlog.exists_bench hwishes with ⟨threshold, hbench⟩
  have hread := FileSystem.readDocument_of_locate hfile.located
  have hrun : run session words = .ok (Blocks.outcome options path
      ⟨.resolved session.env wishes, threshold⟩ (Document.ofText text.toList)) := by
    rw [run, hoptions]
    dsimp only
    rw [Invocation.run, Blocks.run, hread]
    dsimp only
    rw [hbench]
  have houtput : (Blocks.outcome options path ⟨.resolved session.env wishes, threshold⟩
      (Document.ofText text.toList)).output = [Json.write .ascii
        (Blocks.listing path (Document.ofText text.toList).length
          (Blocks.rows (.resolved session.env wishes) true (Document.ofText text.toList)))] := by
    simp [Blocks.outcome, Blocks.output, hjson, haccepted]
  exact ⟨_, hrun, Outcome.shows_of_output rfl houtput (Layout.report?_reread .blocks)
    (Blocks.report?_listing _ path _)⟩

/-! ### Plain words -/

section Words

variable {session : Session} {path text : String} {threshold : Option Nat}

/-- The plain words of a scan ask for it. -/
theorem asksForScan_scanWords (hworkers : leastWorkers ≤ session.workers)
    (hfile : session.files.Holds path text) (gate : Option Bool)
    (hthreshold : ∀ n ∈ threshold, n < 10 ^ Text.longestNumeral) :
    session.AsksForScan (scanWords gate threshold path) path
      ⟨gate, threshold.map fun n : Nat => (n : Int)⟩ :=
  ⟨_, ofWords_scanWords hfile.located hworkers gate hthreshold, rfl,
    wishes_overrideOptions gate threshold⟩

/-- The plain words of a listing ask for it. -/
theorem asksForBlocks_blocksWords (hfile : session.files.Holds path text) (gate : Option Bool)
    (hthreshold : ∀ n ∈ threshold, n < 10 ^ Text.longestNumeral) :
    session.AsksForBlocks (blocksWords gate threshold path) path
      ⟨gate, threshold.map fun n : Nat => (n : Int)⟩ :=
  ⟨_, ofWords_blocksWords hfile.located session.workers gate hthreshold, rfl, rfl,
    wishes_overrideOptions gate threshold⟩

/-- A scan whose words ask for a threshold that is too long reports nothing. -/
theorem run_scanWords_of_le (session : Session) (gate : Option Bool) {n : Nat}
    (h : 10 ^ Text.longestNumeral ≤ n) (path : String) :
    run session (scanWords gate (some n) path) =
      .ok (.misuse .scan (.notANumber "--depth-threshold" (toString n) (.atLeast 0))) := by
  rw [run, ofWords_scanWords_of_le session.files session.workers gate h path]

/-- A scan reports nothing where the program starts with too few workers. -/
theorem run_scanWords_of_lt (hworkers : session.workers < leastWorkers)
    (hfile : session.files.Holds path text) (gate : Option Bool)
    (hthreshold : ∀ n ∈ threshold, n < 10 ^ Text.longestNumeral) :
    run session (scanWords gate threshold path) =
      .ok (.misuse .scan (.tooSmall workersName session.workers leastWorkers)) := by
  rw [run, ofWords_scanWords_of_lt hfile.located hworkers gate hthreshold]

/-- A command line that is wrong shows no report. -/
theorem Outcome.not_shows_misuse (topic : Topic) (fault : UsageFault)
    (read : Value → Option HostReport) (report : HostReport) :
    ¬ (Outcome.misuse topic fault).Shows read report :=
  fun h => absurd h.good (by simp [misuse])

end Words

end Command

/-! ## Agreement -/

/-- A file system with one file, in its working directory, which is the root. -/
def FileSystem.single (text : String) : FileSystem :=
  ⟨.openFolder [("a.c".toList, .document (Utf8.encode text.toList))], ['/']⟩

/-- The file is found from the root. -/
theorem FileSystem.follow_single (text : String) :
    follow (single text).root mostLinks [] ["a.c".toList] =
      .ok (.document (Utf8.encode text.toList)) := by
  have hname : ¬ longestName < byteLength ['a', '.', 'c'] := by decide
  simp [follow_cons, follow, advance, advanceTo, single, Node.descend?, Node.child?, Path.here,
    Path.above, hname]

/-- The path to the file leads to it. -/
theorem FileSystem.single_holds (text : String) : (single text).Holds "a.c" text where
  located := by
    rw [locate, if_neg (by decide), if_neg (by decide), if_neg (by decide)]
    exact follow_single text
  absolute := by
    have habsolute : (single text).absolute "a.c".toList = "/a.c".toList := by
      change Path.absolute ['/'] "a.c".toList = "/a.c".toList
      decide
    rw [habsolute, locate, if_neg (by decide), if_neg (by decide), if_neg (by decide)]
    change follow (single text).root mostLinks [] [[], "a.c".toList] = _
    rw [follow_cons]
    exact follow_single text
  language := by
    change (Language.ofPath? (String.ofList (Path.absolute ['/'] "a.c".toList))).isSome = true
    decide

/--
All hosts agree.  For a file that holds a text, in an environment in which the commands can set up
their log and their workers, and for wishes whose threshold is short enough to be read from a
command line: the service starts, and the plain request to it, the plain words of a scan and the
plain words of a listing all ask for the ranges of the text under the wishes; and whoever asks for
them, in whatever words, is told what the engine finds under the resolved policy, by the service in
its answer and by the commands in the text that they print.
-/
theorem hosts_agree {session : Command.Session} {path text : String} {language : Option String}
    {threshold : Option Nat} (hlog : session.CanLog) (hwork : session.CanWork)
    (hfile : session.files.Holds path text)
    (hlanguage : ∀ name ∈ language, (Language.ofName? name).isSome = true)
    (hthreshold : ∀ n ∈ threshold, n < 10 ^ Text.longestNumeral) (gate : Option Bool)
    (nesting : Nat) (metrics : Service.Metrics) (elapsed : Binary64) :
    let wishes : PolicyOverrides := ⟨gate, threshold.map fun n : Nat => (n : Int)⟩
    let report : HostReport :=
      .ofDocument (.resolved session.env wishes) (Document.ofText text.toList)
    (∃ app, Service.App.start session.env nesting = .ok app ∧
      (Service.foldRequest text language gate threshold).AsksFor app.limits text wishes ∧
      ∀ request : Service.Request, request.AsksFor app.limits text wishes →
        (app.handle metrics request elapsed).1.report? = some report) ∧
    (session.AsksForScan (Command.scanWords gate threshold path) path wishes ∧
      ∀ words, session.AsksForScan words path wishes →
        ∃ outcome, Command.run session words = .ok outcome ∧
          outcome.Shows scanReport? report) ∧
    (session.AsksForBlocks (Command.blocksWords gate threshold path) path wishes ∧
      ∀ words, session.AsksForBlocks words path wishes →
        ∃ outcome, Command.run session words = .ok outcome ∧
          outcome.Shows Layout.blocks.report? report) := by
  intro wishes report
  refine ⟨?_, ⟨?_, ?_⟩, ?_, ?_⟩
  · have hinfo : LogLevel.ofName? "INFO" = some (.rank LogLevel.info) := by decide
    have hrank := LogLevel.exists_rank_of_default hinfo hlog
    rcases Service.exists_start hrank nesting with ⟨app, hstart, hpolicy⟩
    refine ⟨app, hstart, Service.foldRequest_asksFor app.limits text hlanguage gate threshold, ?_⟩
    intro request hrequest
    rw [Service.report?_of_asksFor hrequest metrics elapsed, hpolicy]
    rfl
  · exact Command.asksForScan_scanWords hwork.enough hfile gate hthreshold
  · intro words hwords
    exact Command.scan_shows hlog hwork hfile hwords
  · exact Command.asksForBlocks_blocksWords hfile gate hthreshold
  · intro words hwords
    exact Command.blocks_shows hlog hfile hwords

/-- A block behind a guard. -/
def guardedText : String :=
  "if (p == NULL)\n  return -1;\nuse(p);\n"

/-- A session with one file, in an environment whose policy rejects the block in it. -/
def guardedSession : Command.Session :=
  { env := ⟨[("FOLDEB_DEPTH_GATE", "yes"), ("FOLDEB_DEPTH_THRESHOLD", "2")]⟩
    files := .single guardedText }

/-- The level of the log is the usual one. -/
theorem guardedSession_canLog : guardedSession.CanLog :=
  ⟨LogLevel.warning, by decide⟩

/-- Asked for a lower threshold than the environment's, all hosts report the block. -/
theorem hosts_agree_on_guarded_block :
    let report : HostReport := ⟨[⟨1, 1, "null_check", "guard"⟩], 3⟩
    guardedSession.CanLog ∧ guardedSession.CanWork ∧
    guardedSession.files.Holds "a.c" guardedText ∧
    (∀ name ∈ some "C", (Language.ofName? name).isSome = true) ∧
    (∀ n ∈ some 0, n < 10 ^ Text.longestNumeral) ∧
    (∃ app, Service.App.start guardedSession.env 900 = .ok app ∧
      (app.handle {} (Service.foldRequest guardedText (some "C") none (some 0)) .zero).1.report? =
        some report) ∧
    (∃ outcome, Command.run guardedSession (Command.scanWords none (some 0) "a.c") = .ok outcome ∧
      outcome.Shows scanReport? report) ∧
    ∃ outcome, Command.run guardedSession (Command.blocksWords none (some 0) "a.c") = .ok outcome ∧
      outcome.Shows Layout.blocks.report? report := by
  have hlog := guardedSession_canLog
  have hwork : guardedSession.CanWork := ⟨⟨{}, by decide⟩, by decide⟩
  have hfile : guardedSession.files.Holds "a.c" guardedText := FileSystem.single_holds guardedText
  have hlanguage : ∀ name ∈ some "C", (Language.ofName? name).isSome = true := by decide
  have hthreshold : ∀ n ∈ some 0, n < 10 ^ Text.longestNumeral := by
    simp [Nat.pow_pos (show 0 < 10 by decide)]
  have hreport : HostReport.ofDocument (.resolved guardedSession.env ⟨none, some 0⟩)
      (Document.ofText guardedText.toList) = ⟨[⟨1, 1, "null_check", "guard"⟩], 3⟩ := by
    decide +kernel
  obtain ⟨⟨app, hstart, hasked, hfold⟩, ⟨hscanned, hscan⟩, hlisted, hblocks⟩ :=
    hosts_agree hlog hwork hfile hlanguage hthreshold none 900 {} .zero
  refine ⟨hlog, hwork, hfile, hlanguage, hthreshold, ⟨app, hstart, ?_⟩, ?_, ?_⟩
  · exact (hfold _ hasked).trans (congrArg some hreport)
  · exact hreport ▸ hscan _ hscanned
  · exact hreport ▸ hblocks _ hlisted

/-- A threshold may be too long for a command line, and a program that starts without workers scans
nothing: there a scan does not report what the engine finds. -/
theorem hosts_disagree_without_bounds :
    let long := 10 ^ Text.longestNumeral
    let idle : Command.Session :=
      { guardedSession with workers := Command.workersIn ⟨[("FOLDEB_MAX_WORKERS", "0")]⟩ }
    let found (threshold : Option Int) : HostReport :=
      .ofDocument (.resolved guardedSession.env ⟨none, threshold⟩)
        (Document.ofText guardedText.toList)
    guardedSession.CanLog ∧ guardedSession.files.Holds "a.c" guardedText ∧
    (guardedSession.CanWork ∧
      ¬ ∃ outcome,
        Command.run guardedSession (Command.scanWords none (some long) "a.c") = .ok outcome ∧
          outcome.Shows scanReport? (found (some long))) ∧
    ¬ ∃ outcome,
      Command.run idle (Command.scanWords none none "a.c") = .ok outcome ∧
        outcome.Shows scanReport? (found none) := by
  intro long idle found
  have hwork : guardedSession.CanWork := ⟨⟨{}, by decide⟩, by decide⟩
  have hfile : guardedSession.files.Holds "a.c" guardedText := FileSystem.single_holds guardedText
  refine ⟨guardedSession_canLog, hfile, ⟨hwork, ?_⟩, ?_⟩
  · intro hgiven
    rcases hgiven with ⟨outcome, hrun, hshows⟩
    rw [Command.run_scanWords_of_le guardedSession none (Nat.le_refl long)] at hrun
    cases hrun
    exact Command.Outcome.not_shows_misuse _ _ _ _ hshows
  · intro hgiven
    rcases hgiven with ⟨outcome, hrun, hshows⟩
    have hfew : idle.workers < Command.leastWorkers := by decide
    rw [Command.run_scanWords_of_lt hfew hfile none (by simp)] at hrun
    cases hrun
    exact Command.Outcome.not_shows_misuse _ _ _ _ hshows

end BranchFold
