import BranchFold.Command.Invocation
import Mathlib.Algebra.Group.Nat.Defs
import Mathlib.Data.List.Induction
import Mathlib.Tactic.Common
import Mathlib.Tactic.SplitIfs

/-!
# Numerals that are read and written

Numerals have a largest length, both where they are read and where they are written.  This module
proves that the numeral of a number is read back as the number unless it is too long, and that every
number that is read can be written again.  So whatever number of workers a command line or the
environment asks for, it can be written into the log.

Main results:

- Theorem {lit}`Text.toInt?_toString`: which numerals of numbers are read back.
- Theorem {lit}`Text.natAbs_lt_of_toInt?`: numbers that are read can be written.
- Theorem {lit}`Command.natAbs_maxWorkers_lt`: so can the number of workers of a scan.
-/

namespace BranchFold

/-! ## Numerals -/

namespace Text

/-- The numbers that can be written are those below a power of ten. -/
theorem ofInt?_eq (n : Int) :
    ofInt? n = if n.natAbs < 10 ^ longestNumeral then some (toString n) else none := by
  have hdigits : (Nat.toDigits 10 n.natAbs).length ≤ longestNumeral ↔
      n.natAbs < 10 ^ longestNumeral :=
    Nat.length_toDigits_le_iff (by decide) (by decide)
  unfold ofInt?
  simp only [hdigits]

/-- A decimal digit of ASCII has its usual value. -/
theorem digitValue?_of_isDigit {c : Char} (h : c.isDigit = true) :
    digitValue? c = some (c.toNat - 48) := by
  have hrange := toNat_of_isDigit h
  simp [digitValue?, digitZeros, hrange]

/-- A decimal digit of ASCII is no blank. -/
theorem isNumeralBlank_of_isDigit {c : Char} (h : c.isDigit = true) : isNumeralBlank c = false := by
  have hrange := toNat_of_isDigit h
  simp [isNumeralBlank, isBlank]
  omega

/-- A run of decimal digits of ASCII is read digit by digit. -/
theorem digitRun_of_isDigit {digits : Text} (hne : digits ≠ [])
    (h : ∀ c ∈ digits, c.isDigit = true) :
    digitRun digits = some (digits.map fun c => c.toNat - 48) := by
  induction digits with
  | nil => exact absurd rfl hne
  | cons c rest ih =>
    have hvalue := digitValue?_of_isDigit (h c (by simp))
    cases rest with
    | nil => simp [digitRun, hvalue]
    | cons d rest =>
      have hd : d ≠ '_' := by
        intro heq
        subst heq
        exact absurd (h '_' (by simp)) (by decide)
      have hrest := ih (by simp) (fun e he => h e (List.mem_cons_of_mem c he))
      rw [digitRun]
      · simp [hvalue, hrest]
      · simp
      · intro rest' heq
        exact hd (List.cons.inj heq).1

/-- There are no blanks around decimal digits of ASCII. -/
theorem trimNumeral_of_isDigit {digits : Text} (h : ∀ c ∈ digits, c.isDigit = true) :
    trimNumeral digits = digits := by
  have hdrop (text : Text) (htext : ∀ c ∈ text, c.isDigit = true) :
      text.dropWhile isNumeralBlank = text := by
    cases text with
    | nil => rfl
    | cons c rest => simp [isNumeralBlank_of_isDigit (htext c (by simp))]
  rw [trimNumeral, hdrop digits h, hdrop digits.reverse (by simpa using h), List.reverse_reverse]

/-- Decimal digits of ASCII have no sign in front. -/
theorem splitSign_of_isDigit {digits : Text} (h : ∀ c ∈ digits, c.isDigit = true) :
    splitSign digits = (false, digits) := by
  cases digits with
  | nil => rfl
  | cons c rest =>
    have hc := h c (by simp)
    rw [splitSign]
    · intro rest' heq
      rw [(List.cons.inj heq).1] at hc
      exact absurd hc (by decide)
    · intro rest' heq
      rw [(List.cons.inj heq).1] at hc
      exact absurd hc (by decide)

/-- The numeral of a number is read back as the number, unless it is longer than any numeral that
is read at all. -/
theorem toInt?_toString (n : Nat) :
    toInt? (toString n).toList = if n < 10 ^ longestNumeral then some (n : Int) else none := by
  have hdigit : ∀ c ∈ Nat.toDigits 10 n, c.isDigit = true := fun c hc =>
    Nat.isDigit_of_mem_toDigits (by decide) (by decide) hc
  have hlength : (Nat.toDigits 10 n).length ≤ longestNumeral ↔ n < 10 ^ longestNumeral :=
    Nat.length_toDigits_le_iff (by decide) (by decide)
  have hvalue : ofDigits ((Nat.toDigits 10 n).map fun c => c.toNat - 48) = n := by
    rw [ofDigits, List.foldl_map]
    exact Nat.ofDigitChars_ten_toDigits
  rw [Nat.toString_eq_repr, Nat.toList_repr, toInt?, trimNumeral_of_isDigit hdigit,
    splitSign_of_isDigit hdigit]
  dsimp only
  rw [digitRun_of_isDigit Nat.toDigits_ne_nil hdigit, Option.bind_some, List.length_map, hvalue]
  simp only [hlength, Bool.false_eq_true, if_false]

/-- So many digits give a number of so many digits. -/
theorem ofDigits_lt {digits : List Nat} (h : ∀ d ∈ digits, d < 10) :
    ofDigits digits < 10 ^ digits.length := by
  induction digits using List.reverseRecOn with
  | nil => decide
  | append_singleton digits d ih =>
    have hfront := ih fun e he => h e (List.mem_append_left _ he)
    have hlast := h d (by simp)
    rw [ofDigits, List.foldl_append, ← ofDigits, List.length_append, List.length_singleton,
      Nat.pow_succ]
    simp only [List.foldl_cons, List.foldl_nil]
    omega

/-- The values of a run of digits are digits. -/
theorem lt_of_mem_digitRun {text : Text} {digits : List Nat} (h : digitRun text = some digits) :
    ∀ d ∈ digits, d < 10 := by
  induction text using digitRun.induct generalizing digits with
  | case1 => cases h
  | case2 c =>
    rw [digitRun] at h
    rcases Option.map_eq_some_iff.1 h with ⟨value, hvalue, rfl⟩
    intro d hd
    rw [List.mem_singleton.1 hd]
    exact digitValue?_lt hvalue
  | case3 c rest ih =>
    rw [digitRun] at h
    rcases Option.bind_eq_some_iff.1 h with ⟨value, hvalue, hrest⟩
    rcases Option.map_eq_some_iff.1 hrest with ⟨more, hmore, rfl⟩
    intro d hd
    rcases List.mem_cons.1 hd with rfl | hd
    · exact digitValue?_lt hvalue
    · exact ih hmore d hd
  | case4 c rest hne hnot ih =>
    rw [digitRun] at h
    · rcases Option.bind_eq_some_iff.1 h with ⟨value, hvalue, hrest⟩
      rcases Option.map_eq_some_iff.1 hrest with ⟨more, hmore, rfl⟩
      intro d hd
      rcases List.mem_cons.1 hd with rfl | hd
      · exact digitValue?_lt hvalue
      · exact ih hmore d hd
    · exact hne
    · exact hnot

/-- Every number that is read can be written. -/
theorem natAbs_lt_of_toInt? {text : Text} {n : Int} (h : toInt? text = some n) :
    n.natAbs < 10 ^ longestNumeral := by
  rcases Option.bind_eq_some_iff.1 h with ⟨digits, hdigits, hvalue⟩
  split_ifs at hvalue with hlength hsign
  all_goals
    have hsmall : ofDigits digits < 10 ^ longestNumeral :=
      Nat.lt_of_lt_of_le (ofDigits_lt (lt_of_mem_digitRun hdigits))
        (Nat.pow_le_pow_right (by decide) hlength)
    cases hvalue
  · rwa [Int.natAbs_neg, Int.natAbs_natCast]
  · rwa [Int.natAbs_natCast]

end Text

/-! ## Workers -/

/-- What the environment asks for can be written if the fallback can. -/
theorem Environment.natAbs_int_lt (env : Environment) (name : String) {fallback : Int}
    (h : fallback.natAbs < 10 ^ Text.longestNumeral) :
    (env.int name fallback).natAbs < 10 ^ Text.longestNumeral := by
  unfold Environment.int
  cases hvalue : (env.get? name).bind fun value => Text.toInt? value.toList with
  | none => exact h
  | some value =>
    rcases Option.bind_eq_some_iff.1 hvalue with ⟨text, -, htext⟩
    exact Text.natAbs_lt_of_toInt? htext

namespace Command

theorem natAbs_workersIn_lt (env : Environment) :
    (workersIn env).natAbs < 10 ^ Text.longestNumeral :=
  env.natAbs_int_lt _ (Nat.lt_of_lt_of_le (by decide : usualWorkers.natAbs < 10 ^ 2)
    (Nat.pow_le_pow_right (by decide) (by decide)))

theorem natAbs_lt_of_readNumber {name word : String} {kind : NumberKind} {n : Int}
    (h : readNumber name kind word = .ok n) : n.natAbs < 10 ^ Text.longestNumeral := by
  unfold readNumber at h
  split at h
  · cases h
  · next value hvalue =>
    have hsmall := Text.natAbs_lt_of_toInt? hvalue
    split at h
    · cases h
      exact hsmall
    · split at h
      · cases h
      · cases h
        exact hsmall

/-- One more option leaves a number of workers that can be written. -/
theorem natAbs_maxWorkers_set {options next : ScanOptions} {key : ScanKey} {value : String}
    (hoptions : options.maxWorkers.natAbs < 10 ^ Text.longestNumeral)
    (h : options.set key value = .ok next) :
    next.maxWorkers.natAbs < 10 ^ Text.longestNumeral := by
  cases key with
  | maxWorkers =>
    rw [ScanOptions.set] at h
    cases hnumber : readNumber workersName (.atLeast leastWorkers) value with
    | error fault => simp [hnumber, Except.map] at h
    | ok workers =>
      rw [hnumber] at h
      cases h
      exact natAbs_lt_of_readNumber hnumber
  | judging key =>
    rw [ScanOptions.set] at h
    cases hjudging : options.judging.set key value with
    | error fault => simp [hjudging, Except.map] at h
    | ok judging =>
      rw [hjudging] at h
      cases h
      exact hoptions
  | recursive | json | allLanguages | showLines | noColor | help =>
    cases h
    exact hoptions

/-- What every option preserves, all options preserve. -/
theorem foldlM_preserves {State Step Fault : Type} {step : State → Step → Except Fault State}
    {Holds : State → Prop}
    (hstep : ∀ state next key, Holds state → step state key = .ok next → Holds next)
    {steps : List Step} {state last : State} (hstate : Holds state)
    (h : steps.foldlM step state = .ok last) : Holds last := by
  induction steps generalizing state with
  | nil =>
    cases h
    exact hstate
  | cons key rest ih =>
    rw [List.foldlM_cons] at h
    cases hnext : step state key with
    | error fault =>
      rw [hnext] at h
      cases h
    | ok next =>
      rw [hnext] at h
      exact ih (hstep state next key hstate hnext) h

/-- What the words of a command ask for has been proceeded to, unless it is help. -/
theorem of_readCommand {Key Settings : Type} [DecidableEq Key] {topic : Topic}
    {vocabulary : Vocabulary Key} {helpKey : Key}
    {set : Settings → Key → String → Except UsageFault Settings} {start : Settings}
    {proceed : Settings → List String → Except Rejection Invocation} {words : List String}
    {invocation : Invocation}
    (h : Invocation.readCommand topic vocabulary helpKey set start proceed words =
      .ok invocation) :
    invocation = .help topic ∨ ∃ line : CommandLine Key, ∃ settings,
      line.settle set start = .ok settings ∧ proceed settings line.operands = .ok invocation := by
  unfold Invocation.readCommand at h
  split at h
  · cases h
  · next line _ =>
    split at h
    · cases h
      exact Or.inl rfl
    · split at h
      · cases h
      · next settings hsettings => exact Or.inr ⟨line, settings, hsettings, h⟩

/-- A scan that is asked for has the options that its words have made. -/
theorem eq_of_proceedScan {fs : FileSystem} {settings options : ScanOptions}
    {operands paths : List String}
    (h : Invocation.proceedScan fs settings operands = .ok (.scan options paths)) :
    options = settings := by
  unfold Invocation.proceedScan at h
  split at h
  · cases h
  · split at h
    · cases h
    · split at h
      · cases h
      · cases h
        rfl

theorem natAbs_maxWorkers_ofScanWords {fs : FileSystem} {workers : Int} {words : List String}
    {options : ScanOptions} {paths : List String}
    (hworkers : workers.natAbs < 10 ^ Text.longestNumeral)
    (h : Invocation.ofScanWords fs workers words = .ok (.scan options paths)) :
    options.maxWorkers.natAbs < 10 ^ Text.longestNumeral := by
  rcases of_readCommand h with hhelp | ⟨line, settings, hsettings, hproceed⟩
  · cases hhelp
  · rw [eq_of_proceedScan hproceed]
    exact foldlM_preserves (fun options next key hoptions hnext =>
      natAbs_maxWorkers_set hoptions hnext) hworkers hsettings

/-- Whatever number of workers a command line asks for, it can be written. -/
theorem natAbs_maxWorkers_lt {fs : FileSystem} {workers : Int} {words : List String}
    {options : ScanOptions} {paths : List String}
    (hworkers : workers.natAbs < 10 ^ Text.longestNumeral)
    (h : Invocation.ofWords fs workers words = .ok (.scan options paths)) :
    options.maxWorkers.natAbs < 10 ^ Text.longestNumeral := by
  unfold Invocation.ofWords at h
  split at h
  · cases h
  · next first rest =>
    split at h
    · -- An option of the program asks for no scan.
      unfold Invocation.ofProgramWords at h
      split at h
      · cases h
      · next line _ =>
        cases hkey : line.uses.head? with
        | none => simp [hkey] at h
        | some key => cases key <;> simp [hkey, Invocation.ofProgramKey] at h
    · split at h
      · exact natAbs_maxWorkers_ofScanWords hworkers h
      · split at h
        · rcases of_readCommand h with hhelp | ⟨line, settings, -, hproceed⟩
          · cases hhelp
          · unfold Invocation.proceedBlocks at hproceed
            repeat' split at hproceed
            all_goals cases hproceed
        · split at h
          · rcases of_readCommand h with hhelp | ⟨line, settings, -, hproceed⟩
            · cases hhelp
            · unfold Invocation.proceedServe at hproceed
              split at hproceed <;> cases hproceed
          · exact natAbs_maxWorkers_ofScanWords hworkers h

end Command
end BranchFold
