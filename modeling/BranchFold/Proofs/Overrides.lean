import BranchFold.Command.Run
import BranchFold.Proofs.Numerals
import BranchFold.Service.App
import Mathlib

/-!
# How a caller's wishes are written and read

A caller may ask for another depth gate or another threshold than the environment does: by words on
a command line, or by members of the body of a request.  This module says how such wishes are
written and proves that both hosts read them back as they were meant.  A numeral on a command line
has a largest length, so thresholds are bounded there.

Main definitions:

- {lit}`Command.scanWords`, {lit}`Command.blocksWords`: commands with wishes, as words.
- {lit}`Command.Phrase`: a command that takes wishes, with all that its words rely on.
- {lit}`Service.foldRequest`: a request with wishes.

Main results:

- Theorems {lit}`Command.ofWords_scanWords` and {lit}`Command.ofWords_blocksWords`: what the words
  ask for.
- Theorem {lit}`Service.ofBody_foldRequest`: what the body asks for.
-/

namespace BranchFold

/-! ## Words -/

namespace Command

/-- The word that switches the depth gate. -/
def gateWords : Option Bool → List String
  | none => []
  | some true => ["--depth-gate"]
  | some false => ["--no-depth-gate"]

/-- The words that set the threshold. -/
def thresholdWords : Option Nat → List String
  | none => []
  | some threshold => ["--depth-threshold", toString threshold]

/-- The words that ask for another gate or threshold. -/
def overrideWords (gate : Option Bool) (threshold : Option Nat) : List String :=
  gateWords gate ++ thresholdWords threshold

/-- A scan of a path, written as a structured value, with wishes about the policy. -/
def scanWords (gate : Option Bool) (threshold : Option Nat) (path : String) : List String :=
  "scan" :: "--json" :: overrideWords gate threshold ++ ["--", path]

/-- A listing of the accepted blocks of a path, written as a structured value, with wishes about the
policy. -/
def blocksWords (gate : Option Bool) (threshold : Option Nat) (path : String) : List String :=
  "blocks" :: "--json" :: "--accepted" :: overrideWords gate threshold ++ ["--", path]

/-- The options that the words give. -/
def overrideGiven (gate : Option Bool) (threshold : Option Nat) : List (JudgingKey × String) :=
  (match gate with
    | none => []
    | some true => [(.depthGate, "")]
    | some false => [(.noDepthGate, "")]) ++
  match threshold with
    | none => []
    | some threshold => [(.depthThreshold, toString threshold)]

/-- What the options set. -/
def overrideOptions (gate : Option Bool) (threshold : Option Nat) : JudgingOptions :=
  { depthGate := gate == some true
    noDepthGate := gate == some false
    depthThreshold := threshold.map fun n : Nat => (n : Int) }

namespace Vocabulary

variable {Key : Type} {vocabulary : Vocabulary Key}

/-- To give nothing more changes nothing. -/
theorem map_giving_nil (read : Except UsageFault (CommandLine Key)) :
    read.map (giving []) = read := by
  cases read <;> rfl

/-- What is given later comes in front. -/
theorem map_giving_giving (read : Except UsageFault (CommandLine Key))
    (given given' : List (Key × String)) :
    (read.map (giving given')).map (giving given) = read.map (giving (given ++ given')) := by
  cases read with
  | error fault => rfl
  | ok line => simp [Except.map, giving]

/-- A word that is a flag. -/
theorem read_flag {word : String} {key : Key} (hdash : word ≠ "--")
    (hoption : isOption word.toList = true)
    (hword : vocabulary.readWord word.toList = .ok (.flags [key])) (rest : List String) :
    vocabulary.read (word :: rest) = (vocabulary.read rest).map (giving [(key, "")]) := by
  rw [read]
  simp [hdash, hoption, hword]

/-- A word whose value is the next word. -/
theorem read_awaiting {word : String} {key : Key} (hdash : word ≠ "--")
    (hoption : isOption word.toList = true)
    (hword : vocabulary.readWord word.toList = .ok (.awaiting key)) (value : String)
    (rest : List String) :
    vocabulary.read (word :: value :: rest) =
      (vocabulary.read rest).map (giving [(key, value)]) := by
  rw [read]
  simp [hdash, hoption, hword]

/-- The vocabulary knows the options of commands that judge blocks. -/
structure KnowsJudging (vocabulary : Vocabulary Key) (part : JudgingKey → Key) : Prop where
  gate : vocabulary.readWord "--depth-gate".toList = .ok (.flags [part .depthGate])
  noGate : vocabulary.readWord "--no-depth-gate".toList = .ok (.flags [part .noDepthGate])
  threshold :
    vocabulary.readWord "--depth-threshold".toList = .ok (.awaiting (part .depthThreshold))

/-- Wishes are read as the options that they stand for. -/
theorem read_overrideWords {part : JudgingKey → Key} (h : vocabulary.KnowsJudging part)
    (gate : Option Bool) (threshold : Option Nat) (rest : List String) :
    vocabulary.read (overrideWords gate threshold ++ rest) =
      (vocabulary.read rest).map
        (giving ((overrideGiven gate threshold).map fun entry => (part entry.1, entry.2))) := by
  have hthreshold : vocabulary.read (thresholdWords threshold ++ rest) =
      (vocabulary.read rest).map
        (giving ((overrideGiven none threshold).map fun entry => (part entry.1, entry.2))) := by
    cases threshold with
    | none => exact (map_giving_nil (vocabulary.read rest)).symm
    | some n =>
      rw [thresholdWords, List.cons_append, List.cons_append, List.nil_append,
        read_awaiting (by decide) (by decide) h.threshold]
      rfl
  rcases gate with _ | _ | _
  · simpa [overrideWords, gateWords] using hthreshold
  · rw [overrideWords, gateWords, List.append_assoc, List.singleton_append,
      read_flag (by decide) (by decide) h.noGate, hthreshold, map_giving_giving]
    rfl
  · rw [overrideWords, gateWords, List.append_assoc, List.singleton_append,
      read_flag (by decide) (by decide) h.gate, hthreshold, map_giving_giving]
    rfl

/-- Flags are read as what they stand for. -/
theorem read_flags {flags : List (String × Key)}
    (h : ∀ flag ∈ flags, flag.1 ≠ "--" ∧ isOption flag.1.toList = true ∧
      vocabulary.readWord flag.1.toList = .ok (.flags [flag.2])) (rest : List String) :
    vocabulary.read (flags.map (·.1) ++ rest) =
      (vocabulary.read rest).map (giving (flags.map fun flag => (flag.2, ""))) := by
  induction flags with
  | nil => exact (map_giving_nil (vocabulary.read rest)).symm
  | cons flag flags ih =>
    rcases h flag (by simp) with ⟨hdash, hoption, hword⟩
    have hrest := ih fun other hother => h other (by simp [hother])
    rw [List.map_cons, List.cons_append, read_flag hdash hoption hword, hrest, map_giving_giving]
    rfl

end Vocabulary

namespace CommandLine

variable {Key : Type} [DecidableEq Key] {line : CommandLine Key}

/-- Options that are given once each are used in the order in which they are given. -/
theorem uses_of_nodup (h : (line.given.map (·.1)).Nodup) : line.uses = line.given.map (·.1) := by
  unfold uses
  generalize line.given.map (·.1) = keys at h
  induction keys with
  | nil => rfl
  | cons key keys ih =>
    rcases List.nodup_cons.1 h with ⟨hkey, hkeys⟩
    have hfilter : keys.filter (fun other => !other == key) = keys := by
      rw [List.filter_eq_self]
      intro other hother
      have hne : other ≠ key := fun heq => hkey (heq ▸ hother)
      simp [hne]
    rw [List.eraseDups_cons, hfilter, ih hkeys]

/-- An option that is given once has the value that it is given. -/
theorem lastValue_of_nodup (h : (line.given.map (·.1)).Nodup) {key : Key} {value : String}
    (hmem : (key, value) ∈ line.given) : line.lastValue key = value := by
  have hlookup : line.given.reverse.lookup key = some value := by
    rw [List.lookup_eq_some_iff]
    rcases List.append_of_mem hmem with ⟨before, after, hgiven⟩
    refine ⟨after.reverse, before.reverse, by simp [hgiven], ?_⟩
    intro entry hentry
    rw [hgiven, List.map_append, List.map_cons] at h
    have hafter := (List.nodup_cons.1 (List.nodup_append.1 h).2.1).1
    have hne : key ≠ entry.1 := by
      intro heq
      exact hafter (List.mem_map.2 ⟨entry, List.mem_reverse.1 hentry, heq.symm⟩)
    simpa using hne
  simp [lastValue, hlookup]

/-- Options that are given once each are set in the order in which they are given. -/
theorem settle_of_nodup {Settings : Type} (h : (line.given.map (·.1)).Nodup)
    (set : Settings → Key → String → Except UsageFault Settings) (start : Settings) :
    line.settle set start =
      line.given.foldlM (fun settings entry => set settings entry.1 entry.2) start := by
  -- The last value of an option is the only one it has.
  rw [settle, uses_of_nodup h, List.foldlM_map]
  have hvalues : ∀ entry ∈ line.given, line.lastValue entry.1 = entry.2 := fun entry hentry =>
    lastValue_of_nodup h hentry
  generalize line.given = given at hvalues
  induction given generalizing start with
  | nil => rfl
  | cons entry given ih =>
    rw [List.foldlM_cons, List.foldlM_cons, hvalues entry (by simp)]
    congr 1
    funext settings
    exact ih settings fun other hother => hvalues other (by simp [hother])

end CommandLine

/-- A threshold that is short enough is set. -/
theorem JudgingOptions.set_threshold (options : JudgingOptions) {n : Nat}
    (h : n < 10 ^ Text.longestNumeral) :
    options.set .depthThreshold (toString n) =
      .ok { options with depthThreshold := some (n : Int) } := by
  have hnonneg : ¬ ((n : Int) < 0) := by omega
  rw [set, readNumber, Text.toInt?_toString, if_pos h]
  dsimp only
  rw [if_neg hnonneg]
  rfl

/-- A threshold that is too long is refused as no number. -/
theorem JudgingOptions.set_threshold_of_le (options : JudgingOptions) {n : Nat}
    (h : 10 ^ Text.longestNumeral ≤ n) :
    options.set .depthThreshold (toString n) =
      .error (.notANumber "--depth-threshold" (toString n) (.atLeast 0)) := by
  rw [set, readNumber, Text.toInt?_toString, if_neg (Nat.not_lt.2 h)]
  rfl

/-- The settings after several options. -/
def JudgingOptions.setAll (options : JudgingOptions) (given : List (JudgingKey × String)) :
    Except UsageFault JudgingOptions :=
  given.foldlM (fun options entry => options.set entry.1 entry.2) options

/-- Wishes that are short enough are set. -/
theorem setAll_overrideGiven (gate : Option Bool) {threshold : Option Nat}
    (h : ∀ n ∈ threshold, n < 10 ^ Text.longestNumeral) :
    JudgingOptions.setAll {} (overrideGiven gate threshold) =
      .ok (overrideOptions gate threshold) := by
  cases threshold with
  | none => rcases gate with _ | _ | _ <;> rfl
  | some n =>
    have hset (options : JudgingOptions) := options.set_threshold (h n rfl)
    rcases gate with _ | _ | _ <;>
      simp only [JudgingOptions.setAll, overrideGiven, List.cons_append, List.nil_append,
        List.foldlM_cons, List.foldlM_nil, hset] <;> rfl

/-- A threshold that is too long is refused whatever the gate. -/
theorem setAll_overrideGiven_of_le (gate : Option Bool) {n : Nat}
    (h : 10 ^ Text.longestNumeral ≤ n) :
    JudgingOptions.setAll {} (overrideGiven gate (some n)) =
      .error (.notANumber "--depth-threshold" (toString n) (.atLeast 0)) := by
  have hset (options : JudgingOptions) := options.set_threshold_of_le h
  rcases gate with _ | _ | _ <;>
    simp only [JudgingOptions.setAll, overrideGiven, List.cons_append, List.nil_append,
      List.foldlM_cons, List.foldlM_nil, hset] <;> rfl

/-- The options ask for the wishes that they stand for. -/
theorem wishes_overrideOptions (gate : Option Bool) (threshold : Option Nat) :
    (overrideOptions gate threshold).wishes =
      .ok ⟨gate, threshold.map fun n : Nat => (n : Int)⟩ := by
  rcases gate with _ | _ | _ <;> rfl

/-! ## Commands -/

/-- The keys of the options that wishes can give. -/
def overrideKeys : List JudgingKey :=
  [.depthGate, .noDepthGate, .depthThreshold]

/-- Wishes give each of their options at most once. -/
theorem overrideGiven_keys_sublist (gate : Option Bool) (threshold : Option Nat) :
    ((overrideGiven gate threshold).map (·.1)).Sublist overrideKeys := by
  rcases gate with _ | _ | _ <;> cases threshold <;> simp [overrideGiven, overrideKeys]

/-- A command that judges blocks, with the flags at the beginning of its words. -/
structure Phrase (Key Settings : Type) [DecidableEq Key] where
  vocabulary : Vocabulary Key
  helpKey : Key
  set : Settings → Key → String → Except UsageFault Settings
  start : Settings
  flags : List (String × Key)
  part : JudgingKey → Key
  /-- The settings that the flags make, with options for judging. -/
  build : JudgingOptions → Settings
  knowsJudging : vocabulary.KnowsJudging part
  knowsFlags : ∀ flag ∈ flags, flag.1 ≠ "--" ∧ Vocabulary.isOption flag.1.toList = true ∧
    vocabulary.readWord flag.1.toList = .ok (.flags [flag.2])
  keys_nodup : (flags.map (·.2) ++ overrideKeys.map part ++ [helpKey]).Nodup
  set_flags : flags.foldlM (fun settings flag => set settings flag.2 "") start = .ok (build {})
  set_part : ∀ judging key value,
    set (build judging) (part key) value = (JudgingOptions.set judging key value).map build

namespace Phrase

variable {Key Settings : Type} [DecidableEq Key] (phrase : Phrase Key Settings)

/-- The words of the command for a path, with wishes about the policy. -/
def words (gate : Option Bool) (threshold : Option Nat) (path : String) : List String :=
  phrase.flags.map (·.1) ++ (overrideWords gate threshold ++ ["--", path])

/-- The options and operands in the words. -/
def line (gate : Option Bool) (threshold : Option Nat) (path : String) : CommandLine Key :=
  ⟨(phrase.flags.map fun flag => (flag.2, "")) ++
      (overrideGiven gate threshold).map fun entry => (phrase.part entry.1, entry.2),
    [path]⟩

/-- The words are read as the options and operands in them. -/
theorem read_words (gate : Option Bool) (threshold : Option Nat) (path : String) :
    phrase.vocabulary.read (phrase.words gate threshold path) =
      .ok (phrase.line gate threshold path) := by
  rw [words, Vocabulary.read_flags phrase.knowsFlags,
    Vocabulary.read_overrideWords phrase.knowsJudging, Vocabulary.read_doubleDash,
    Vocabulary.map_giving_giving]
  simp [Except.map, Vocabulary.giving, line]

/-- No option is given twice, and none asks for help. -/
theorem line_keys_nodup (gate : Option Bool) (threshold : Option Nat) (path : String) :
    ((phrase.line gate threshold path).given.map (·.1) ++ [phrase.helpKey]).Nodup := by
  refine phrase.keys_nodup.sublist (List.Sublist.append_right ?_ _)
  have hkeys := (overrideGiven_keys_sublist gate threshold).map phrase.part
  simpa [line, Function.comp_def] using hkeys

/-- The words do not ask for help. -/
theorem line_has_help (gate : Option Bool) (threshold : Option Nat) (path : String) :
    (phrase.line gate threshold path).has phrase.helpKey = false := by
  have hdisjoint := (List.nodup_append.1 (phrase.line_keys_nodup gate threshold path)).2.2
  rw [CommandLine.has, List.any_eq_false]
  intro entry hentry
  have hne := hdisjoint entry.1 (List.mem_map_of_mem hentry) phrase.helpKey (by simp)
  simpa using hne

/-- The options for judging are set in the same way as part of the settings of the command. -/
theorem foldlM_part (given : List (JudgingKey × String)) (judging : JudgingOptions) :
    (given.map fun entry => (phrase.part entry.1, entry.2)).foldlM
        (fun settings entry => phrase.set settings entry.1 entry.2) (phrase.build judging) =
      (judging.setAll given).map phrase.build := by
  induction given generalizing judging with
  | nil => rfl
  | cons entry given ih =>
    rw [List.map_cons, List.foldlM_cons, phrase.set_part, JudgingOptions.setAll, List.foldlM_cons]
    cases judging.set entry.1 entry.2 with
    | error fault => rfl
    | ok judging' => exact ih judging'

/-- The words set what their wishes set. -/
theorem settle_line (gate : Option Bool) (threshold : Option Nat) (path : String) :
    (phrase.line gate threshold path).settle phrase.set phrase.start =
      (JudgingOptions.setAll {} (overrideGiven gate threshold)).map phrase.build := by
  have hnodup := (List.nodup_append.1 (phrase.line_keys_nodup gate threshold path)).1
  -- No option is given twice, so each is set where it stands: first the flags, then the wishes.
  rw [CommandLine.settle_of_nodup hnodup, line, List.foldlM_append, List.foldlM_map,
    phrase.set_flags]
  exact phrase.foldlM_part (overrideGiven gate threshold) {}

/-- What the words ask for. -/
theorem readCommand_words (topic : Topic)
    (proceed : Settings → List String → Except Rejection Invocation) (gate : Option Bool)
    (threshold : Option Nat) (path : String) :
    Invocation.readCommand topic phrase.vocabulary phrase.helpKey phrase.set phrase.start proceed
        (phrase.words gate threshold path) =
      match JudgingOptions.setAll {} (overrideGiven gate threshold) with
      | .error fault => .error (.usage topic fault)
      | .ok judging => proceed (phrase.build judging) [path] := by
  rw [Invocation.readCommand, phrase.read_words gate threshold path]
  dsimp only
  rw [phrase.line_has_help gate threshold path, phrase.settle_line gate threshold path]
  cases JudgingOptions.setAll {} (overrideGiven gate threshold) <;> rfl

end Phrase

/-- A scan that is written as a structured value. -/
def scanPhrase (workers : Int) : Phrase ScanKey ScanOptions where
  vocabulary := ScanOptions.vocabulary
  helpKey := .help
  set := ScanOptions.set
  start := { maxWorkers := workers }
  flags := [("--json", .json)]
  part := .judging
  build judging := { json := true, maxWorkers := workers, judging }
  knowsJudging := ⟨rfl, rfl, rfl⟩
  knowsFlags := by simpa using ⟨by decide, rfl⟩
  keys_nodup := by decide
  set_flags := rfl
  set_part _ _ _ := rfl

/-- A listing of the accepted blocks that is written as a structured value. -/
def blocksPhrase : Phrase BlocksKey BlocksOptions where
  vocabulary := BlocksOptions.vocabulary
  helpKey := .help
  set := BlocksOptions.set
  start := {}
  flags := [("--json", .json), ("--accepted", .accepted)]
  part := .judging
  build judging := { json := true, accepted := true, judging }
  knowsJudging := ⟨rfl, rfl, rfl⟩
  knowsFlags := by simpa using ⟨⟨by decide, rfl⟩, by decide, rfl⟩
  keys_nodup := by decide
  set_flags := rfl
  set_part _ _ _ := rfl

/-- A path that leads to a file is a good operand of every command. -/
theorem checkPath_of_file {fs : FileSystem} {path : String} {content : List UInt8}
    (h : fs.locate path.toList = .ok (.document content)) (operand : Invocation.PathOperand) :
    Invocation.checkPath fs operand path = .ok () := by
  simp [Invocation.checkPath, h, Node.isFolder, Node.deniesReading]

/-- What the words of a scan ask for once their wishes are read. -/
theorem ofWords_scanWords_eq (fs : FileSystem) (workers : Int) (gate : Option Bool)
    (threshold : Option Nat) (path : String) :
    Invocation.ofWords fs workers (scanWords gate threshold path) =
      match JudgingOptions.setAll {} (overrideGiven gate threshold) with
      | .error fault => .error (.usage .scan fault)
      | .ok judging => Invocation.proceedScan fs ((scanPhrase workers).build judging) [path] :=
  (scanPhrase workers).readCommand_words .scan (Invocation.proceedScan fs) gate threshold path

/-- What the words of a listing ask for once their wishes are read. -/
theorem ofWords_blocksWords_eq (fs : FileSystem) (workers : Int) (gate : Option Bool)
    (threshold : Option Nat) (path : String) :
    Invocation.ofWords fs workers (blocksWords gate threshold path) =
      match JudgingOptions.setAll {} (overrideGiven gate threshold) with
      | .error fault => .error (.usage .blocks fault)
      | .ok judging => Invocation.proceedBlocks fs (blocksPhrase.build judging) [path] :=
  blocksPhrase.readCommand_words .blocks (Invocation.proceedBlocks fs) gate threshold path

section Words

variable {fs : FileSystem} {path : String} {content : List UInt8} {threshold : Option Nat}
  {workers : Int}

/-- The operands of a scan of a file are in order, and its workers are looked at. -/
theorem proceedScan_of_file (hfile : fs.locate path.toList = .ok (.document content))
    (options : ScanOptions) :
    Invocation.proceedScan fs options [path] =
      if options.maxWorkers < leastWorkers then
        .error (.usage .scan (.tooSmall workersName options.maxWorkers leastWorkers))
      else .ok (.scan options [path]) := by
  have hchecked : [path].forM (Invocation.checkPath fs Invocation.scanOperand) = .ok () := by
    rw [List.forM_eq_forM, List.forM_cons, checkPath_of_file hfile]
    rfl
  simp [Invocation.proceedScan, hchecked]

/-- The words of a scan of a file ask for that scan. -/
theorem ofWords_scanWords (hfile : fs.locate path.toList = .ok (.document content))
    (hworkers : leastWorkers ≤ workers) (gate : Option Bool)
    (hthreshold : ∀ n ∈ threshold, n < 10 ^ Text.longestNumeral) :
    Invocation.ofWords fs workers (scanWords gate threshold path) =
      .ok (.scan ((scanPhrase workers).build (overrideOptions gate threshold)) [path]) := by
  have henough : ¬ workers < leastWorkers := Int.not_lt.2 hworkers
  rw [ofWords_scanWords_eq, setAll_overrideGiven gate hthreshold]
  dsimp only
  rw [proceedScan_of_file hfile]
  exact if_neg henough

/-- The words of a scan are wrong where the program starts with too few workers. -/
theorem ofWords_scanWords_of_lt (hfile : fs.locate path.toList = .ok (.document content))
    (hworkers : workers < leastWorkers) (gate : Option Bool)
    (hthreshold : ∀ n ∈ threshold, n < 10 ^ Text.longestNumeral) :
    Invocation.ofWords fs workers (scanWords gate threshold path) =
      .error (.usage .scan (.tooSmall workersName workers leastWorkers)) := by
  rw [ofWords_scanWords_eq, setAll_overrideGiven gate hthreshold]
  dsimp only
  rw [proceedScan_of_file hfile]
  exact if_pos hworkers

/-- The words of a scan with a threshold that is too long are wrong. -/
theorem ofWords_scanWords_of_le (fs : FileSystem) (workers : Int) (gate : Option Bool) {n : Nat}
    (h : 10 ^ Text.longestNumeral ≤ n) (path : String) :
    Invocation.ofWords fs workers (scanWords gate (some n) path) =
      .error (.usage .scan (.notANumber "--depth-threshold" (toString n) (.atLeast 0))) := by
  rw [ofWords_scanWords_eq, setAll_overrideGiven_of_le gate h]

/-- The words of a listing of a file ask for that listing. -/
theorem ofWords_blocksWords (hfile : fs.locate path.toList = .ok (.document content))
    (workers : Int) (gate : Option Bool) (hthreshold : ∀ n ∈ threshold, n < 10 ^ Text.longestNumeral) :
    Invocation.ofWords fs workers (blocksWords gate threshold path) =
      .ok (.blocks (blocksPhrase.build (overrideOptions gate threshold)) path) := by
  rw [ofWords_blocksWords_eq, setAll_overrideGiven gate hthreshold]
  simp [Invocation.proceedBlocks, checkPath_of_file hfile]

end Words

end Command

/-! ## Requests -/

namespace Service

open Json (Value)

/-- The members of a request for the ranges of a text, with wishes about the policy. -/
def foldMembers (text : String) (language : Option String) (gate : Option Bool)
    (threshold : Option Nat) : List (String × Value) :=
  ("text", .text text) ::
    (language.toList.map fun name => ("language", .text name)) ++
    (gate.toList.map fun on => ("depth_gate", .bool on)) ++
    threshold.toList.map fun n => ("depth_threshold", .int n)

section Members

variable (text : String) (language : Option String) (gate : Option Bool) (threshold : Option Nat)

theorem member?_text :
    Value.member? "text" (foldMembers text language gate threshold) = some (.text text) := by
  cases language <;> cases gate <;> cases threshold <;> simp [foldMembers, Value.member?]

theorem member?_language :
    Value.member? "language" (foldMembers text language gate threshold) = language.map .text := by
  cases language <;> cases gate <;> cases threshold <;> simp [foldMembers, Value.member?]

theorem member?_depth_gate :
    Value.member? "depth_gate" (foldMembers text language gate threshold) = gate.map .bool := by
  cases language <;> cases gate <;> cases threshold <;> simp [foldMembers, Value.member?]

theorem member?_depth_threshold :
    Value.member? "depth_threshold" (foldMembers text language gate threshold) =
      (threshold.map fun n : Nat => (n : Int)).map .int := by
  cases language <;> cases gate <;> cases threshold <;> simp [foldMembers, Value.member?]

/-- A member that may be left out is read back, also when it is. -/
theorem optional_nullable_map {α : Type} {members : List (String × Value)} {key : String}
    {kind : Value → Schema.Checked α} {write : α → Value} {found : Option α}
    (hmember : Value.member? key members = found.map write)
    (hkind : ∀ a ∈ found, Schema.nullable kind (write a) = .ok (some a)) :
    Schema.optional members key none (Schema.nullable kind) = .ok found := by
  cases found with
  | none => simp [Schema.optional, hmember]
  | some a =>
    have hread := hkind a rfl
    rw [Option.map_some] at hmember
    rw [Schema.optional, hmember]
    dsimp only
    rw [hread]
    rfl

/-- The members are read as the request that they stand for. -/
theorem ofMembers_foldMembers :
    FoldRequest.ofMembers (foldMembers text language gate threshold) =
      .ok ⟨text, language, gate, threshold.map fun n : Nat => (n : Int)⟩ := by
  have htext : Schema.required (foldMembers text language gate threshold) "text" Schema.string =
      .ok text := by
    rw [Schema.required, member?_text]
    rfl
  have hthreshold : ∀ n ∈ threshold.map fun n : Nat => (n : Int),
      Schema.nullable (Schema.intFrom 0) (.int n) = .ok (some n) := by
    intro n hn
    rcases Option.map_eq_some_iff.1 hn with ⟨m, -, rfl⟩
    simp [Schema.nullable, Schema.intFrom, Schema.int, Except.map]
  rw [FoldRequest.ofMembers, htext,
    optional_nullable_map (member?_language text language gate threshold) fun _ _ => rfl,
    optional_nullable_map (member?_depth_gate text language gate threshold) fun _ _ => rfl,
    optional_nullable_map (member?_depth_threshold text language gate threshold) hthreshold]
  rfl

/-- A request for the ranges of a text, with wishes about the policy. -/
def foldRequest : Request :=
  { method := "POST"
    path := App.foldPath
    body := .value (.object (foldMembers text language gate threshold)) }

/-- The body of the request asks for what it stands for. -/
theorem ofBody_foldRequest (limits : Json.Limits) :
    FoldRequest.ofBody limits (foldRequest text language gate threshold).body =
      .ok ⟨text, language, gate, threshold.map fun n : Nat => (n : Int)⟩ := by
  have hmembers := ofMembers_foldMembers text language gate threshold
  rw [foldRequest, FoldRequest.ofBody, FoldRequest.ofValueInBody, FoldRequest.ofValue, hmembers]
  rfl

end Members

end Service
end BranchFold
