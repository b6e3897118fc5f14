import BranchFold.FoldRange
import Mathlib.Data.List.Chain

/-!
# Lines and their terminators

A text is a list of lines, each with the terminator behind it; only the last line may lack one, and
then it is not empty.  A carriage return in front of a line feed is one terminator, so no line that
ends in a carriage return is followed by an empty line that ends in a line feed.  This module proves
that every text is written in exactly one way under these rules, and that splitting a text gives
back the lines with which it was written.

Main definitions:

- {lit}`LineEnd`, {lit}`EndedLine`, {lit}`Rendering`: lines with their terminators.
- {lit}`Rendering.IsValid`: the rules above.
- {lit}`Rendering.ofText`: the rendering of a text.

Main results:

- Theorems {lit}`Rendering.text_ofText` and {lit}`Rendering.ofText_text`: texts and valid renderings
  correspond to one another.
- Theorem {lit}`Rendering.splitting_inverts_rendering`: what splitting a text does, for all
  terminators.
-/

namespace BranchFold

/-! ## Renderings -/

/-- What ends a line. -/
inductive LineEnd where
  | lf
  | cr
  | crlf
  deriving DecidableEq, Repr

/-- The characters that end a line. -/
def LineEnd.text : LineEnd → Text
  | lf => ['\n']
  | cr => ['\r']
  | crlf => ['\r', '\n']

/-- A line and what ends it, if anything does. -/
structure EndedLine where
  line : Line
  ending : Option LineEnd
  deriving DecidableEq, Repr

/-- The line followed by what ends it. -/
def EndedLine.text (ended : EndedLine) : Text :=
  ended.line ++ (ended.ending.map LineEnd.text).getD []

/-- A line without carriage returns and line feeds. -/
def IsUnbroken (line : Line) : Prop :=
  '\r' ∉ line ∧ '\n' ∉ line

instance (line : Line) : Decidable (IsUnbroken line) :=
  inferInstanceAs (Decidable (_ ∧ _))

/-- The lines of a text with their terminators. -/
abbrev Rendering := List EndedLine

namespace Rendering

/-- The text that is written. -/
def text (rendering : Rendering) : Text :=
  rendering.flatMap EndedLine.text

/-- The lines that are written. -/
def lines (rendering : Rendering) : Document :=
  rendering.map EndedLine.line

/-- The lines are unbroken, all but the last are ended, the last is ended or not empty, and no two
terminators read as one. -/
structure IsValid (rendering : Rendering) : Prop where
  unbroken : ∀ ended ∈ rendering, IsUnbroken ended.line
  ended : ∀ ended ∈ rendering.dropLast, ended.ending.isSome = true
  last_ended : ∀ ended ∈ rendering.getLast?, ended.ending = none → ended.line ≠ []
  apart : rendering.IsChain fun earlier later =>
    earlier.ending = some .cr → later ≠ ⟨[], some .lf⟩

/-- The same lines, with one and the same terminator wherever a line is ended. -/
def withEnding (rendering : Rendering) (ending : LineEnd) : Rendering :=
  rendering.map fun ended => ⟨ended.line, ended.ending.map fun _ => ending⟩

variable {rendering : Rendering} {ended : EndedLine}

@[simp]
theorem text_nil : text [] = [] := rfl

@[simp]
theorem text_cons (ended : EndedLine) (rendering : Rendering) :
    text (ended :: rendering) = ended.text ++ rendering.text := rfl

@[simp]
theorem isValid_nil : IsValid [] := by
  constructor <;> simp

/-- What the first line adds to the rules. -/
theorem isValid_cons_iff :
    IsValid (ended :: rendering) ↔
      (IsUnbroken ended.line ∧ (ended.ending = none → rendering = [] ∧ ended.line ≠ []) ∧
        (ended.ending = some .cr → rendering.head? ≠ some ⟨[], some .lf⟩)) ∧
      rendering.IsValid := by
  cases rendering with
  | nil =>
    constructor
    · intro h
      refine ⟨⟨h.unbroken ended (by simp), fun hnone => ⟨rfl, ?_⟩, by simp⟩, isValid_nil⟩
      exact h.last_ended ended (by simp) hnone
    · intro hgiven
      rcases hgiven with ⟨⟨hunbroken, hlast, -⟩, -⟩
      exact ⟨by simpa using hunbroken, by simp, by simpa using fun hnone => (hlast hnone).2,
        by simp⟩
  | cons next rest =>
    constructor
    · intro h
      have hchain := List.isChain_cons_cons.1 h.apart
      refine ⟨⟨h.unbroken ended (by simp), fun hnone => ?_, by simpa using hchain.1⟩, ?_⟩
      · have hended := h.ended ended (by simp)
        simp [hnone] at hended
      · refine ⟨fun other hother => h.unbroken other (List.mem_cons_of_mem _ hother), ?_, ?_,
          hchain.2⟩
        · exact fun other hother => h.ended other (by simp [hother])
        · exact fun other hother => h.last_ended other (by simpa using hother)
    · intro hgiven
      rcases hgiven with ⟨⟨hunbroken, hended, happart⟩, hrest⟩
      refine ⟨?_, ?_, ?_, List.isChain_cons_cons.2 ⟨by simpa using happart, hrest.apart⟩⟩
      · exact List.forall_mem_cons.2 ⟨hunbroken, hrest.unbroken⟩
      · rw [List.dropLast_cons_cons]
        refine List.forall_mem_cons.2 ⟨?_, hrest.ended⟩
        rw [Option.isSome_iff_ne_none]
        exact fun hnone => absurd (hended hnone).1 (by simp)
      · exact fun other hother => hrest.last_ended other (by simpa using hother)

/-! ## The rendering of a text -/

/-- The rendering with characters in front of its first line. -/
def prepend (start : Text) : Rendering → Rendering
  | [] => if start = [] then [] else [⟨start, none⟩]
  | ended :: rest => ⟨start ++ ended.line, ended.ending⟩ :: rest

/-- The rendering of a text: a line ends at the first terminator behind its start. -/
def ofText : Text → Rendering
  | [] => []
  | '\r' :: '\n' :: rest => ⟨[], some .crlf⟩ :: ofText rest
  | c :: rest =>
      if c = '\n' then ⟨[], some .lf⟩ :: ofText rest
      else if c = '\r' then ⟨[], some .cr⟩ :: ofText rest
      else prepend [c] (ofText rest)

/-- The rendering of a text has the lines of the text. -/
theorem lines_ofText (text : Text) : (ofText text).lines = Document.ofText text := by
  fun_induction ofText text with
  | case1 => rfl
  | case2 rest ih => rw [Document.ofText, ← ih]; rfl
  | case3 rest hcrlf ih =>
    rw [Document.ofText, ← ih]
    · rfl
    · exact hcrlf
  | case4 rest hcrlf hlf ih =>
    rw [Document.ofText, ← ih]
    · rfl
    · exact hcrlf
  | case5 c rest hcrlf hlf hcr ih =>
    rw [Document.ofText, ← ih]
    · cases hrest : ofText rest <;> simp [lines, prepend, Document.extendFirst, hlf, hcr]
    · exact hcrlf

/-- Characters in front of the first line come first in the text. -/
theorem text_prepend (start : Text) (rendering : Rendering) :
    (prepend start rendering).text = start ++ rendering.text := by
  cases rendering with
  | nil => by_cases hstart : start = [] <;> simp [prepend, hstart, EndedLine.text]
  | cons ended rest => simp [prepend, EndedLine.text]

/-- The rendering of a text writes the text. -/
theorem text_ofText (text : Text) : (ofText text).text = text := by
  fun_induction ofText text with
  | case1 => rfl
  | case2 rest ih => simp [EndedLine.text, LineEnd.text, ih]
  | case3 rest hcrlf ih => simp [EndedLine.text, LineEnd.text, ih]
  | case4 rest hcrlf hlf ih => simp [EndedLine.text, LineEnd.text, ih]
  | case5 c rest hcrlf hlf hcr ih => simp [text_prepend, ih]

/-- Characters that end no line may be put in front of a valid rendering. -/
theorem IsValid.prepend {start : Text} (h : rendering.IsValid) (hstart : IsUnbroken start) :
    (prepend start rendering).IsValid := by
  cases rendering with
  | nil =>
    by_cases hnil : start = []
    · simp [Rendering.prepend, hnil]
    · simp [Rendering.prepend, hnil, isValid_cons_iff, hstart]
  | cons ended rest =>
    rcases isValid_cons_iff.1 h with ⟨⟨hunbroken, hended, happart⟩, hrest⟩
    refine isValid_cons_iff.2 ⟨⟨?_, ?_, happart⟩, hrest⟩
    · simpa [IsUnbroken, hstart.1, hstart.2] using hunbroken
    · intro hnone
      exact ⟨(hended hnone).1, by simp [(hended hnone).2]⟩

/-- The rendering of a text is valid. -/
theorem isValid_ofText (text : Text) : (ofText text).IsValid := by
  fun_induction ofText text with
  | case1 => exact isValid_nil
  | case2 rest ih => simpa [isValid_cons_iff, IsUnbroken] using ih
  | case3 rest hcrlf ih => simpa [isValid_cons_iff, IsUnbroken] using ih
  | case4 rest hcrlf hlf ih =>
    refine isValid_cons_iff.2 ⟨⟨by simp [IsUnbroken], by simp, fun _ hhead => ?_⟩, ih⟩
    -- An empty line that ends in a line feed would have been taken with the carriage return.
    rcases List.head?_eq_some_iff.1 hhead with ⟨more, hmore⟩
    have hrest := text_ofText rest
    rw [hmore] at hrest
    exact hcrlf _ rfl hrest.symm
  | case5 c rest hcrlf hlf hcr ih =>
    exact ih.prepend ⟨by simpa using Ne.symm hcr, by simpa using Ne.symm hlf⟩

/-- Characters that end no line go in front of the first line of what follows. -/
theorem ofText_append {start : Text} (hstart : IsUnbroken start) (rest : Text) :
    ofText (start ++ rest) = prepend start (ofText rest) := by
  induction start with
  | nil => cases hrest : ofText rest <;> simp [prepend, hrest]
  | cons c start ih =>
    simp only [IsUnbroken, List.mem_cons, not_or] at hstart ih
    rcases hstart with ⟨⟨hcr, hcr'⟩, hlf, hlf'⟩
    rw [List.cons_append, ofText, if_neg (Ne.symm hlf), if_neg (Ne.symm hcr), ih ⟨hcr', hlf'⟩]
    · cases hrest : ofText rest with
      | nil => by_cases hnil : start = [] <;> simp [prepend, hnil]
      | cons ended more => simp [prepend]
    · intro _ hfirst
      exact absurd hfirst (Ne.symm hcr)

/-- A valid rendering begins with a line feed only if its first line is empty and ends in one. -/
theorem IsValid.head?_text (h : rendering.IsValid)
    (hhead : rendering.head? ≠ some ⟨[], some .lf⟩) : rendering.text.head? ≠ some '\n' := by
  cases rendering with
  | nil => simp
  | cons ended rest =>
    rcases isValid_cons_iff.1 h with ⟨⟨hunbroken, hended, -⟩, -⟩
    rcases ended with ⟨line, ending⟩
    cases line with
    | cons c line =>
      intro hfirst
      have hc : c = '\n' := by simpa [EndedLine.text] using hfirst
      exact hunbroken.2 (by simp [hc])
    | nil =>
      cases ending with
      | none => exact absurd rfl (hended rfl).2
      | some ending =>
        cases ending with
        | lf => simp at hhead
        | cr => simp [EndedLine.text, LineEnd.text]
        | crlf => simp [EndedLine.text, LineEnd.text]

/-- A terminator ends an empty line, unless it is a carriage return that belongs to a line feed. -/
theorem ofText_ending (ending : LineEnd) {rest : Text}
    (hrest : ending = .cr → rest.head? ≠ some '\n') :
    ofText (ending.text ++ rest) = ⟨[], some ending⟩ :: ofText rest := by
  cases ending with
  | lf => simp [LineEnd.text, ofText]
  | crlf => simp [LineEnd.text, ofText]
  | cr =>
    rw [LineEnd.text, List.singleton_append, ofText]
    · simp
    · intro more _ hmore
      exact hrest rfl (by simp [hmore])

/-- A valid rendering is the rendering of its text. -/
theorem ofText_text (h : rendering.IsValid) : ofText rendering.text = rendering := by
  induction rendering with
  | nil => rfl
  | cons ended rest ih =>
    rcases isValid_cons_iff.1 h with ⟨⟨hunbroken, hended, happart⟩, hrest⟩
    rcases ended with ⟨line, ending⟩
    cases ending with
    | none =>
      rcases hended rfl with ⟨rfl, hne⟩
      have hline := ofText_append hunbroken []
      dsimp only at hne
      simpa [EndedLine.text, ofText, prepend, hne] using hline
    | some ending =>
      have hnext : ending = .cr → (text rest).head? ≠ some '\n' := by
        intro hcr
        exact hrest.head?_text (happart (by rw [hcr]))
      rw [text_cons, EndedLine.text, List.append_assoc, ofText_append hunbroken]
      simp [ofText_ending ending hnext, ih hrest, prepend]

/-! ## Splitting -/

/-- Splitting gives back the lines with which a text was written. -/
theorem IsValid.lines_text (h : rendering.IsValid) :
    Document.ofText rendering.text = rendering.lines := by
  rw [← lines_ofText, ofText_text h]

/-- One and the same terminator throughout keeps a rendering valid. -/
theorem IsValid.withEnding (h : rendering.IsValid) (ending : LineEnd) :
    (rendering.withEnding ending).IsValid := by
  induction rendering with
  | nil => exact isValid_nil
  | cons ended rest ih =>
    rcases isValid_cons_iff.1 h with ⟨⟨hunbroken, hended, -⟩, hrest⟩
    refine isValid_cons_iff.2 ⟨⟨hunbroken, ?_, ?_⟩, ih hrest⟩
    · intro hnone
      rcases hended (by simpa using hnone) with ⟨rfl, hne⟩
      exact ⟨rfl, hne⟩
    · intro hcr hhead
      cases hlast : ended.ending with
      | none => simp [hlast] at hcr
      | some other =>
        have hsame : ending = .cr := by simpa [hlast] using hcr
        cases rest with
        | nil => simp at hhead
        | cons next more => simp [hsame] at hhead

/-- Changing characters that end no line, in a way that lets them end none, changes them inside
their lines. -/
theorem ofText_map {rename : Char → Char}
    (h : ∀ c, (rename c = '\r' ↔ c = '\r') ∧ (rename c = '\n' ↔ c = '\n')) (text : Text) :
    Document.ofText (text.map rename) = (Document.ofText text).map (List.map rename) := by
  have hcr : rename '\r' = '\r' := (h '\r').1.2 rfl
  have hlf : rename '\n' = '\n' := (h '\n').2.2 rfl
  have hpair (c : Char) (rest : Text) (hcrlf : ∀ more, c = '\r' → rest = '\n' :: more → False) :
      ∀ more, rename c = '\r' → rest.map rename = '\n' :: more → False := by
    intro more hc hrest
    rcases List.map_eq_cons_iff.1 hrest with ⟨next, more', rfl, hnext, -⟩
    exact hcrlf more' ((h c).1.1 hc) (by rw [(h next).2.1 hnext])
  fun_induction Document.ofText text with
  | case1 => rfl
  | case2 rest ih => simp [Document.ofText, hcr, hlf, ih]
  | case3 c rest hcrlf hbreak ih =>
    rw [List.map_cons, Document.ofText]
    · have hrenamed : (rename c == '\n' || rename c == '\r') = true := by
        simpa [(h c).1, (h c).2] using hbreak
      simp [hrenamed, ih]
    · exact hpair c rest hcrlf
  | case4 c rest hcrlf hbreak ih =>
    rw [List.map_cons, Document.ofText]
    · have hrenamed : (rename c == '\n' || rename c == '\r') = false := by
        simpa [(h c).1, (h c).2] using hbreak
      rw [hrenamed, ih]
      cases Document.ofText rest <;> simp [Document.extendFirst]
    · exact hpair c rest hcrlf

/--
Splitting a text is the inverse of writing lines with their terminators.  Every valid rendering is
split into its lines, and every text, the empty one included, has exactly one valid rendering.  So
no line holds a carriage return or a line feed, no other character ends a line, and the terminators
do not matter for the ranges of a document: with one of them throughout, the text has the ranges of
its lines.
-/
theorem splitting_inverts_rendering :
    (∀ rendering : Rendering, rendering.IsValid →
      Document.ofText rendering.text = rendering.lines) ∧
    (∀ text : Text, ∃! rendering : Rendering, rendering.IsValid ∧ rendering.text = text) ∧
    (∀ rendering : Rendering, rendering.IsValid → (rendering.text = [] ↔ rendering = [])) ∧
    (∀ text : Text, ∀ line ∈ Document.ofText text, '\r' ∉ line ∧ '\n' ∉ line) ∧
    (∀ (text : Text) (rename : Char → Char),
      (∀ c, (rename c = '\r' ↔ c = '\r') ∧ (rename c = '\n' ↔ c = '\n')) →
        Document.ofText (text.map rename) = (Document.ofText text).map (List.map rename)) ∧
    (∀ (classifier : Classifier) (rendering : Rendering), rendering.IsValid →
      ∀ ending : LineEnd,
        classifier.foldRanges (Document.ofText (rendering.withEnding ending).text) =
          classifier.foldRanges rendering.lines) := by
  refine ⟨fun rendering h => h.lines_text, ?_, ?_, ?_, fun text rename h => ofText_map h text, ?_⟩
  · intro text
    refine ⟨ofText text, ⟨isValid_ofText text, text_ofText text⟩, ?_⟩
    intro rendering hgiven
    rcases hgiven with ⟨hvalid, rfl⟩
    exact (ofText_text hvalid).symm
  · intro rendering hvalid
    constructor
    · intro hempty
      rw [← ofText_text hvalid, hempty]
      rfl
    · intro hnil
      rw [hnil]
      rfl
  · intro text line hline
    rw [← lines_ofText, lines, List.mem_map] at hline
    rcases hline with ⟨ended, hended, rfl⟩
    exact (isValid_ofText text).unbroken ended hended
  · intro classifier rendering hvalid ending
    have hlines : (rendering.withEnding ending).lines = rendering.lines := by
      simp [lines, withEnding]
    rw [(hvalid.withEnding ending).lines_text, hlines]

/-- A text in which all terminators meet, also a carriage return in front of another terminator. -/
theorem splitting_inverts_mixed_rendering :
    let rendering : Rendering := [⟨"if".toList, some .crlf⟩, ⟨[], some .cr⟩, ⟨[], some .crlf⟩,
      ⟨[], some .lf⟩, ⟨"\x0c".toList, some .cr⟩, ⟨"x".toList, none⟩]
    rendering.text = "if\r\n\r\r\n\n\x0c\rx".toList ∧
      Document.ofText rendering.text = rendering.lines := by
  refine ⟨by decide, splitting_inverts_rendering.1 _ ?_⟩
  exact ⟨by decide, by decide, by decide, by decide⟩

end Rendering
end BranchFold
