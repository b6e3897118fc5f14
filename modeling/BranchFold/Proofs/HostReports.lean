import BranchFold.Proofs.JsonReading
import BranchFold.Report.Record

/-!
# What hosts report

The hosts of the engine write what it finds under keys of their own, among much else.  This module
says what a report tells and reads it out of the value or the text that a host writes.  Reading the
text back changes real numbers only, and a report holds none.

Main definitions:

- {lit}`HostReport`: the entries and the number of lines that a host reports.
- {lit}`HostReport.ofDocument`: what the engine finds in a document.
- {lit}`Layout.report?`, {lit}`scanReport?`: the report in a structured value.
- {lit}`reportIn?`: the report in a text.

Main results:

- Theorem {lit}`Layout.report?_of_fields`: a value that holds entries is read as a report on them.
- Theorem {lit}`reportIn?_write`: a value that is written is read as the report in the value.
-/

namespace BranchFold

open Json (Value)

/-! ## Reports -/

/-- What is reported about one range. -/
structure Entry where
  first : Int
  last : Int
  rule : String
  category : String
  deriving DecidableEq, Repr

/-- What is reported about a range. -/
def FoldRange.entry (range : FoldRange) : Entry :=
  ⟨range.first, range.last, range.rule, range.category⟩

/-- What a host reports about a document. -/
structure HostReport where
  entries : List Entry
  lineCount : Int
  deriving DecidableEq, Repr

/-- What the engine finds in a document. -/
def HostReport.ofDocument (classifier : Classifier) (document : Document) : HostReport :=
  ⟨(classifier.foldRanges document).map (·.entry), document.length⟩

/-! ## Reports in structured values -/

namespace Json.Value

/-- The member of a value under a key, if the value is an object. -/
def field? (key : String) : Value → Option Value
  | object members => member? key members
  | _ => none

/-- The integer that a value is. -/
def asInt? : Value → Option Int
  | int n => some n
  | _ => none

/-- The text that a value is. -/
def asText? : Value → Option String
  | text s => some s
  | _ => none

/-- The items of a value, if it is an array. -/
def asArray? : Value → Option (List Value)
  | array items => some items
  | _ => none

end Json.Value

/-- The keys under which a host writes what it reports. -/
structure Layout where
  entries : String
  first : String
  last : String

namespace Layout

/-- The keys for ranges. -/
def ranges : Layout :=
  ⟨"ranges", "start", "end"⟩

/-- The keys for blocks. -/
def blocks : Layout :=
  ⟨"blocks", "start_line", "end_line"⟩

/-- The entry in a structured value. -/
def readEntry (layout : Layout) (value : Value) : Option Entry := do
  let first ← (value.field? layout.first).bind Value.asInt?
  let last ← (value.field? layout.last).bind Value.asInt?
  let rule ← (value.field? "rule").bind Value.asText?
  let category ← (value.field? "category").bind Value.asText?
  return ⟨first, last, rule, category⟩

/-- The report in a structured value. -/
def report? (layout : Layout) (value : Value) : Option HostReport := do
  let items ← (value.field? layout.entries).bind Value.asArray?
  let entries ← items.mapM layout.readEntry
  let lineCount ← (value.field? "line_count").bind Value.asInt?
  return ⟨entries, lineCount⟩

/-- Values that hold entries are read as those entries. -/
theorem mapM_readEntry {α : Type} {layout : Layout} {write : α → Value} {entry : α → Entry}
    (h : ∀ a, layout.readEntry (write a) = some (entry a)) (items : List α) :
    (items.map write).mapM layout.readEntry = some (items.map entry) := by
  rw [List.mapM_map]
  have hread : layout.readEntry ∘ write = fun a => pure (entry a) := funext h
  rw [hread, List.mapM_pure]
  rfl

/-- A value that holds entries and a number of lines is read as a report on them. -/
theorem report?_of_fields {α : Type} {layout : Layout} {value : Value} (write : α → Value)
    {entry : α → Entry} {items : List α} {lineCount : Int}
    (hentries : value.field? layout.entries = some (.array (items.map write)))
    (hcount : value.field? "line_count" = some (.int lineCount))
    (h : ∀ a, layout.readEntry (write a) = some (entry a)) :
    layout.report? value = some ⟨items.map entry, lineCount⟩ := by
  have hitems := mapM_readEntry h items
  rw [report?, hentries, hcount, Option.bind_some, Option.bind_some, Value.asArray?, Value.asInt?]
  simp only [Option.bind_eq_bind, Option.bind_some, hitems]
  rfl

/-- The value of a range holds its entry. -/
theorem readEntry_ofRange (range : FoldRange) :
    ranges.readEntry (RangeRecord.ofRange range).toValue = some range.entry := rfl

end Layout

/-- The report in the value that a scan of one file writes. -/
def scanReport? (value : Value) : Option HostReport :=
  match (value.field? "files").bind Value.asArray? with
  | some [file] => Layout.ranges.report? file
  | _ => none

/-! ## Reports in texts -/

/-- The report in a text, which is read as one structured value. -/
def reportIn? (read : Value → Option HostReport) (text : Text) : Option HostReport :=
  (Json.read {} text).toOption.bind read

namespace Json.Value

/-- What is read of a real number is a real number or no value. -/
theorem rereadReal_cases (x : Binary64) :
    (∃ y, rereadReal x = real y) ∨ rereadReal x = null := by
  cases x with
  | finite negative mantissa exponent =>
    rcases readNumber_toText negative mantissa exponent with ⟨y, hreal, -⟩
    exact Or.inl ⟨y, hreal⟩
  | infinite negative => exact Or.inr (rereadReal_of_null rfl)
  | undefined => exact Or.inr (rereadReal_of_null rfl)

/-- An integer is read back as itself, and nothing else as an integer. -/
@[simp]
theorem asInt?_reread (value : Value) : value.reread.asInt? = value.asInt? := by
  cases value with
  | real x =>
    rw [reread]
    rcases rereadReal_cases x with ⟨y, h⟩ | h <;> simp [h, asInt?]
  | _ => simp [reread, asInt?]

/-- A text is read back as itself, and nothing else as a text. -/
@[simp]
theorem asText?_reread (value : Value) : value.reread.asText? = value.asText? := by
  cases value with
  | real x =>
    rw [reread]
    rcases rereadReal_cases x with ⟨y, h⟩ | h <;> simp [h, asText?]
  | _ => simp [reread, asText?]

/-- The items of an array are read back one by one. -/
theorem asArray?_reread (value : Value) :
    value.reread.asArray? = value.asArray?.map (List.map reread) := by
  cases value with
  | real x =>
    rw [reread]
    rcases rereadReal_cases x with ⟨y, h⟩ | h <;> simp [h, asArray?]
  | array items => simp [reread, asArray?, rereadItems_eq_map]
  | _ => simp [reread, asArray?]

/-- Each member of an object is read back under its key. -/
theorem member?_rereadMembers (key : String) (members : List (String × Value)) :
    member? key (rereadMembers members) = (member? key members).map reread := by
  induction members with
  | nil => rfl
  | cons member rest ih =>
    rw [rereadMembers, member?, member?, ih]
    cases member? key rest with
    | some value => rfl
    | none => split <;> rfl

theorem field?_reread (key : String) (value : Value) :
    value.reread.field? key = (value.field? key).map reread := by
  cases value with
  | real x =>
    rw [reread]
    rcases rereadReal_cases x with ⟨y, h⟩ | h <;> simp [h, field?]
  | object members => simp [reread, field?, member?_rereadMembers]
  | _ => simp [reread, field?]

/-- The items under a key are read back one by one. -/
theorem bind_asArray?_reread (key : String) (value : Value) :
    (value.reread.field? key).bind asArray? =
      ((value.field? key).bind asArray?).map (List.map reread) := by
  rw [field?_reread]
  cases value.field? key with
  | none => rfl
  | some field => exact asArray?_reread field

end Json.Value

namespace Layout

/-- Reading a value back leaves its entry. -/
theorem readEntry_reread (layout : Layout) (value : Value) :
    layout.readEntry value.reread = layout.readEntry value := by
  simp [readEntry, Value.field?_reread, Option.bind_map, Function.comp_def]

/-- Reading a value back leaves the report in it. -/
theorem report?_reread (layout : Layout) (value : Value) :
    layout.report? value.reread = layout.report? value := by
  have hitems : ∀ items : List Value,
      (items.map Value.reread).mapM layout.readEntry = items.mapM layout.readEntry := by
    intro items
    rw [List.mapM_map]
    exact congrArg (items.mapM ·) (funext (readEntry_reread layout))
  have hcount : (value.reread.field? "line_count").bind Value.asInt? =
      (value.field? "line_count").bind Value.asInt? := by
    cases hfield : value.field? "line_count" <;> simp [Value.field?_reread, hfield]
  rw [report?, report?, Value.bind_asArray?_reread, hcount]
  cases (value.field? layout.entries).bind Value.asArray? with
  | none => rfl
  | some items => simp [hitems]

end Layout

/-- Reading a value back leaves the report of a scan in it. -/
theorem scanReport?_reread (value : Value) : scanReport? value.reread = scanReport? value := by
  rw [scanReport?, scanReport?, Value.bind_asArray?_reread]
  cases (value.field? "files").bind Value.asArray? with
  | none => rfl
  | some files =>
    match files with
    | [] => rfl
    | [file] => exact Layout.report?_reread .ranges file
    | _ :: _ :: _ => rfl

/-- The text of a written value holds the report in the value, if reading the value back leaves
it. -/
theorem reportIn?_write {read : Value → Option HostReport}
    (hread : ∀ value : Value, read value.reread = read value) (alphabet : Json.Alphabet)
    (value : Value) : reportIn? read (Json.write alphabet value ++ "\n").toList = read value := by
  rw [reportIn?, Json.read_write]
  exact hread value

end BranchFold
