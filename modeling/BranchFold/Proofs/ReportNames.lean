import BranchFold.Rule.Builtin.Reports
import BranchFold.Proofs.Languages

/-!
# Names of calls that report

A call that reports a failure goes by one of a few known names or is a method of a logger, and the
error streams have names, too.  This module lists the names and shows that the patterns cover those
and no others, letters in either case.

Main definitions:

- {lit}`Pattern.Lists`: the pattern covers the names of a list.
- {lit}`NamesReport`: the name of a call that prints or logs.

Main results:

- Theorems {lit}`Pattern.Lists.andThen` and {lit}`Pattern.Lists.maybe`: the names that a composed
  pattern covers.
- Theorem {lit}`Builtin.mem_language_reportCall`: the pattern for the names of calls.
-/

namespace BranchFold

open Text Pattern

/-! ## Patterns for names -/

namespace Pattern

variable {p q : Pattern} {names more : List String} {front text : Text}

/-- The pattern covers the given names, letters in either case, and nothing else. -/
structure Lists (p : Pattern) (names : List String) : Prop where
  unconditional : p.isUnconditional = true
  mem_language_iff : ∀ {word}, word ∈ p.language ↔ ∃ name ∈ names, Spells name word

theorem lists_anyCases (names : List String) : Lists (anyCases names) names :=
  ⟨isUnconditional_anyCases names, mem_language_anyCases⟩

theorem lists_anyCase (name : String) : Lists (anyCase name) [name] :=
  lists_anyCases [name]

/-- A sequence covers each name of the first part with each name of the second behind it. -/
theorem Lists.andThen (hp : Lists p names) (hq : Lists q more) :
    Lists (andThen p q) (names.flatMap fun start => more.map (start ++ ·)) := by
  refine ⟨by simp [isUnconditional, hp.unconditional, hq.unconditional], ?_⟩
  intro word
  simp only [mem_language_andThen, hp.mem_language_iff, hq.mem_language_iff, List.mem_flatMap,
    List.mem_map]
  constructor
  · rintro ⟨u, v, rfl, ⟨first, hfirst, hu⟩, second, hsecond, hv⟩
    exact ⟨_, ⟨first, hfirst, second, hsecond, rfl⟩, spells_append.2 ⟨u, v, rfl, hu, hv⟩⟩
  · rintro ⟨_, ⟨first, hfirst, second, hsecond, rfl⟩, hspells⟩
    obtain ⟨u, v, rfl, hu, hv⟩ := spells_append.1 hspells
    exact ⟨u, v, rfl, ⟨first, hfirst, hu⟩, second, hsecond, hv⟩

/-- What may be left out adds the empty name. -/
theorem Lists.maybe (hp : Lists p names) : Lists (maybe p) (names ++ [""]) := by
  refine ⟨by simp [Pattern.maybe, isUnconditional, hp.unconditional], ?_⟩
  intro word
  have hempty : Spells "" word ↔ word = [] := List.forall₂_nil_left_iff
  simp [mem_language_maybe, hp.mem_language_iff, or_and_right, exists_or, hempty]

theorem Lists.of_eq (hp : Lists p names) (h : names = more) : Lists p more :=
  h ▸ hp

/-- A pattern for names opens the texts that begin with one of them. -/
theorem Lists.opens_iff (hp : Lists p names) :
    p.Opens front text ↔ ∃ name ∈ names, ∃ word back, text = word ++ back ∧ Spells name word := by
  simp only [Pattern.opens_iff hp.unconditional, hp.mem_language_iff]
  constructor
  · rintro ⟨word, back, htext, name, hname, hspells⟩
    exact ⟨name, hname, word, back, htext, hspells⟩
  · rintro ⟨name, hname, word, back, htext, hspells⟩
    exact ⟨word, back, htext, name, hname, hspells⟩

end Pattern

/-! ## Calls that print or log -/

/-- The names of functions and methods that print or log. -/
def reportNames : List String :=
  ["console.log", "console.error", "console.warn", "console.info", "console.debug",
    "fprintf", "printf", "perror", "eprintln!", "eprintln", "println!", "println", "print", "puts",
    "System.out.println", "System.out.printf", "System.out.print",
    "System.err.println", "System.err.printf", "System.err.print",
    "Console.Error.WriteLine", "Console.Error.Write", "Console.WriteLine", "Console.Write",
    "syslog", "warn", "die"]

/-- The names of loggers. -/
def loggerNames : List String :=
  ["_log", "_logger", "_logging", "log", "logger", "logging"]

/-- The objects that a logger may belong to. -/
def loggerOwners : List String :=
  ["self.", "this.", ""]

/-- The text is the name of a call that prints or logs, letters in either case: one of the known
names, or any method of a logger. -/
inductive NamesReport : Text → Prop where
  | known {name : String} {text : Text} (hname : name ∈ reportNames) (hspells : Spells name text) :
      NamesReport text
  | method {owner logger : String} {start object method : Text} (howner : owner ∈ loggerOwners)
      (hstart : Spells owner start) (hlogger : logger ∈ loggerNames)
      (hobject : Spells logger object) (hmethod : isRun method = true) :
      NamesReport (start ++ object ++ '.' :: method)

/-- The names of the error streams. -/
def streamNames : List String :=
  ["std::cerr", "std::clog", "cerr", "clog"]

namespace Builtin

variable {word : Text}

/-! ## The patterns for calls and streams -/

/-- The patterns for known names, up to the one for loggers, with the names that each covers. -/
def knownCalls : List (Pattern × List String) :=
  [(inOrder [anyCase "console.", anyCases ["log", "error", "warn", "info", "debug"]],
      ["console.log", "console.error", "console.warn", "console.info", "console.debug"]),
    (inOrder [maybe (anyCase "f"), anyCase "printf"], ["fprintf", "printf"]),
    (anyCase "perror", ["perror"]),
    (inOrder [anyCase "eprintln", maybe (char '!')], ["eprintln!", "eprintln"]),
    (inOrder [anyCase "println", maybe (char '!')], ["println!", "println"]),
    (anyCase "print", ["print"]),
    (anyCase "puts", ["puts"]),
    (inOrder [anyCase "System.", anyCases ["out", "err"], anyCase ".print",
        maybe (anyCases ["ln", "f"])],
      ["System.out.println", "System.out.printf", "System.out.print",
        "System.err.println", "System.err.printf", "System.err.print"]),
    (inOrder [anyCase "Console.", maybe (anyCase "Error."), anyCase "Write", maybe (anyCase "Line")],
      ["Console.Error.WriteLine", "Console.Error.Write", "Console.WriteLine", "Console.Write"])]

theorem lists_of_mem_knownCalls : ∀ call ∈ knownCalls, Lists call.1 call.2 := by
  have hmark : Lists (char '!') ["!"] := lists_anyCase "!"
  simp only [knownCalls, List.forall_mem_cons, inOrder_cons_cons, inOrder_singleton]
  refine ⟨?_, ?_, ?_, ?_, ?_, ?_, ?_, ?_, ?_, by simp⟩
  · exact ((lists_anyCase _).andThen (lists_anyCases _)).of_eq (by decide +kernel)
  · exact ((lists_anyCase _).maybe.andThen (lists_anyCase _)).of_eq (by decide +kernel)
  · exact lists_anyCase _
  · exact ((lists_anyCase _).andThen hmark.maybe).of_eq (by decide +kernel)
  · exact ((lists_anyCase _).andThen hmark.maybe).of_eq (by decide +kernel)
  · exact lists_anyCase _
  · exact lists_anyCase _
  · exact ((lists_anyCase _).andThen ((lists_anyCases _).andThen ((lists_anyCase _).andThen
      (lists_anyCases _).maybe))).of_eq (by decide +kernel)
  · exact ((lists_anyCase _).andThen ((lists_anyCase _).maybe.andThen ((lists_anyCase _).andThen
      (lists_anyCase _).maybe))).of_eq (by decide +kernel)

/-- Any method of a logger, as a pattern. -/
def loggerCall : Pattern :=
  inOrder [maybe (anyCases ["self.", "this."]), maybe (char '_'),
    anyCases ["log", "logger", "logging"], char '.', oneOrMore wordChar]

theorem mem_language_loggerCall :
    word ∈ loggerCall.language ↔
      ∃ owner ∈ loggerOwners, ∃ logger ∈ loggerNames, ∃ start object method,
        word = start ++ object ++ '.' :: method ∧ Spells owner start ∧ Spells logger object ∧
          isRun method = true := by
  have howners : Lists (maybe (anyCases ["self.", "this."])) loggerOwners :=
    (lists_anyCases _).maybe
  have hmark : Lists (char '_') ["_"] := lists_anyCase "_"
  have hloggers : Lists (andThen (maybe (char '_')) (anyCases ["log", "logger", "logging"]))
      loggerNames :=
    (hmark.maybe.andThen (lists_anyCases _)).of_eq (by decide +kernel)
  simp only [loggerCall, inOrder_cons_cons, inOrder_singleton]
  constructor
  · intro hword
    obtain ⟨start, _, rfl, hstart, hword⟩ := mem_language_andThen.1 hword
    obtain ⟨mark, _, rfl, hmark, hword⟩ := mem_language_andThen.1 hword
    obtain ⟨name, _, rfl, hname, hword⟩ := mem_language_andThen.1 hword
    obtain ⟨dot, method, rfl, hdot, hmethod⟩ := mem_language_andThen.1 hword
    obtain rfl := mem_language_char.1 hdot
    obtain ⟨owner, howner, hstart⟩ := howners.mem_language_iff.1 hstart
    obtain ⟨logger, hlogger, hobject⟩ :=
      hloggers.mem_language_iff.1 (mem_language_andThen.2 ⟨mark, name, rfl, hmark, hname⟩)
    exact ⟨owner, howner, logger, hlogger, start, mark ++ name, method, by simp, hstart, hobject,
      isRun_iff.2 (mem_language_oneOrMore_one.1 hmethod)⟩
  · rintro ⟨owner, howner, logger, hlogger, start, object, method, rfl, hstart, hobject, hmethod⟩
    obtain ⟨mark, name, rfl, hmark, hname⟩ :=
      mem_language_andThen.1 (hloggers.mem_language_iff.2 ⟨logger, hlogger, hobject⟩)
    have hdotted : '.' :: method ∈ (andThen (char '.') (oneOrMore wordChar)).language :=
      mem_language_andThen.2 ⟨['.'], method, rfl, mem_language_char.2 rfl,
        mem_language_oneOrMore_one.2 (isRun_iff.1 hmethod)⟩
    refine mem_language_andThen.2 ⟨start, mark ++ (name ++ '.' :: method), by simp,
      howners.mem_language_iff.2 ⟨owner, howner, hstart⟩, ?_⟩
    refine mem_language_andThen.2 ⟨mark, _, rfl, hmark, ?_⟩
    exact mem_language_andThen.2 ⟨name, _, rfl, hname, hdotted⟩

/-- The pattern for the names of calls covers exactly those. -/
theorem mem_language_reportCall : word ∈ reportCall.language ↔ NamesReport word := by
  have hcall : reportCall = anyOf (knownCalls.map Prod.fst ++
      loggerCall :: ["syslog", "warn", "die"].map anyCase) := rfl
  have hnames : reportNames = knownCalls.flatMap Prod.snd ++ ["syslog", "warn", "die"] := rfl
  rw [hcall, mem_language_anyOf]
  constructor
  · rintro ⟨p, hp, hword⟩
    rcases List.mem_append.1 hp with hknown | hp
    · obtain ⟨call, hcall, rfl⟩ := List.mem_map.1 hknown
      obtain ⟨name, hname, hspells⟩ := (lists_of_mem_knownCalls call hcall).mem_language_iff.1 hword
      have hmem : name ∈ reportNames := by
        rw [hnames]
        exact List.mem_append_left _ (List.mem_flatMap.2 ⟨call, hcall, hname⟩)
      exact .known hmem hspells
    · rcases List.mem_cons.1 hp with rfl | hp
      · obtain ⟨owner, howner, logger, hlogger, start, object, method, rfl, hstart, hobject,
          hmethod⟩ := mem_language_loggerCall.1 hword
        exact .method howner hstart hlogger hobject hmethod
      · obtain ⟨name, hname, rfl⟩ := List.mem_map.1 hp
        have hmem : name ∈ reportNames := by
          rw [hnames]
          exact List.mem_append_right _ hname
        exact .known hmem (mem_language_anyCase.1 hword)
  · intro h
    cases h with
    | @known name _ hname hspells =>
      rw [hnames] at hname
      rcases List.mem_append.1 hname with hknown | hlast
      · obtain ⟨call, hcall, hname⟩ := List.mem_flatMap.1 hknown
        exact ⟨call.1, List.mem_append_left _ (List.mem_map_of_mem hcall),
          (lists_of_mem_knownCalls call hcall).mem_language_iff.2 ⟨name, hname, hspells⟩⟩
      · have hmem := List.mem_cons_of_mem loggerCall (List.mem_map_of_mem (f := anyCase) hlast)
        exact ⟨anyCase name, List.mem_append_right _ hmem, mem_language_anyCase.2 hspells⟩
    | @method owner logger start object method howner hstart hlogger hobject hmethod =>
      exact ⟨loggerCall, List.mem_append_right _ List.mem_cons_self,
        mem_language_loggerCall.2 ⟨owner, howner, logger, hlogger, start, object, method, rfl,
          hstart, hobject, hmethod⟩⟩

theorem lists_streams :
    Lists (andThen (maybe (anyCase "std::")) (anyCases ["cerr", "clog"])) streamNames :=
  ((lists_anyCase _).maybe.andThen (lists_anyCases _)).of_eq (by decide +kernel)

end Builtin
end BranchFold
