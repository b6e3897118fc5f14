import BranchFold.Files.Path
import BranchFold.Text.Letter

/-!
# Languages

The judgement itself knows no languages.  They only decide which files a scan picks up and which
language names a request may carry.
-/

namespace BranchFold

/-- A language for whose files the program is run. -/
inductive Language where
  | javascript
  | typescript
  | c
  | cpp
  | csharp
  | java
  | python
  deriving DecidableEq, Repr

namespace Language

/-- The name of a language. -/
def name : Language → String
  | javascript => "javascript"
  | typescript => "typescript"
  | c => "c"
  | cpp => "cpp"
  | csharp => "csharp"
  | java => "java"
  | python => "python"

/-- The endings of the names of a language's files. -/
def extensions : Language → List String
  | javascript => [".js", ".mjs", ".cjs", ".jsx"]
  | typescript => [".ts", ".mts", ".cts", ".tsx"]
  | c => [".c", ".h"]
  | cpp => [".cc", ".cpp", ".cxx", ".hh", ".hpp", ".hxx"]
  | csharp => [".cs"]
  | java => [".java"]
  | python => [".py", ".pyi"]

/-- All languages, in the order in which they are listed to users. -/
def all : List Language :=
  [javascript, typescript, c, cpp, csharp, java, python]

/-- The language of that name, in any case. -/
def ofName? (name : String) : Option Language :=
  let wanted := Text.lower name.toList
  all.find? fun language => language.name.toList == wanted

/-- The language to which the ending of a path belongs, in any case. -/
def ofPath? (path : String) : Option Language :=
  let ending := Text.lower (Path.extension path.toList)
  all.find? fun language => language.extensions.any (·.toList == ending)

/-- Every language is listed. -/
theorem mem_all (language : Language) : language ∈ all := by
  cases language <;> decide

end Language
end BranchFold
