import EvoPlatform.Foundation.Lines

/-!
# Patching an env file

`evo register` writes the credentials of an application into its env file.  The
line that assigns a key is replaced by way of a regular expression, and the new
line is read as a replacement text, in which a dollar sign may start a pattern.
A line is added for a key that has none.
-/

namespace EvoPlatform
namespace Cli

open Lines

/-- A text as a file has it. -/
abbrev FileText := List Char

/-- The characters around which `^` and `$` match and at which `.` stops. -/
def isLineTerminator (char : Char) : Bool :=
  char = '\n' || char = '\r' || char.toNat = 0x2028 || char.toNat = 0x2029

/-- The characters of the names of environment variables.  None of them has a
meaning of its own in a regular expression. -/
def isKeyChar (char : Char) : Bool := char.isAlphanum || char = '_'

/-- What stands between a key and its value. -/
def sign : Char := '='

/-- A key and the value that it is to have. -/
structure EnvEntry where
  key : FileText
  value : FileText
  isName : key.all isKeyChar = true
  oneLine : Unbroken isLineTerminator value

/-- How a line that assigns a key begins. -/
def assigning (key : FileText) : FileText := key ++ [sign]

/-- The start of the lines that the regular expression of an entry finds. -/
def EnvEntry.start (entry : EnvEntry) : FileText := assigning entry.key

/-- `${key}=${value}`. -/
def EnvEntry.line (entry : EnvEntry) : FileText := entry.start ++ entry.value

/-- `Object.entries(entries)`. -/
structure EnvEntries where
  list : List EnvEntry
  distinct : list.Pairwise fun left right => left.key ≠ right.key

/-! ## Replacement patterns -/

def dollar : Char := '$'

def ampersand : Char := '&'

def graveAccent : Char := Char.ofNat 0x60

def apostrophe : Char := Char.ofNat 0x27

/-- What a pattern stands for: a dollar sign, what is found, or what comes before
it or after it. -/
def insertion (before found after : FileText) (char : Char) :
    Option FileText :=
  if char = dollar then some [dollar]
  else if char = ampersand then some found
  else if char = graveAccent then some before
  else if char = apostrophe then some after
  else none

/-- A replacement text with its patterns replaced. -/
def expand (insert : Char → Option FileText) : FileText → FileText
  | [] => []
  | [char] => [char]
  | first :: second :: rest =>
      if first = dollar then
        match insert second with
        | some text => text ++ expand insert rest
        | none => first :: expand insert (second :: rest)
      else first :: expand insert (second :: rest)

/-- The second characters of the patterns in a replacement text. -/
def patterns : FileText → List Char
  | [] => []
  | [_] => []
  | first :: second :: rest =>
      if first = dollar then
        if (insertion [] [] [] second).isSome then second :: patterns rest
        else patterns (second :: rest)
      else patterns (second :: rest)

/-! ## Patching -/

/-- `out.replace(/\n?$/, "\n")`. -/
def endLine (out : FileText) : FileText :=
  if out.getLast? = some '\n' then out else out ++ ['\n']

/-- What is done for one entry. -/
def patchEntry (out : FileText) (entry : EnvEntry) : FileText :=
  match find isLineTerminator entry.start out with
  | some place =>
      let before := out.take place
      let found := (out.drop place).takeWhile fun char => !isLineTerminator char
      let after := (out.drop place).dropWhile fun char => !isLineTerminator char
      before ++ (expand (insertion before found after) entry.line ++ after)
  | none => endLine out ++ (entry.line ++ ['\n'])

/-- `out.replace(/^\n/, "")`. -/
def dropNewline : FileText → FileText
  | [] => []
  | char :: rest => if char = '\n' then rest else char :: rest

/-- What is written to the file, if there is one or not. -/
def patchEnvFile (file : Option FileText) (entries : EnvEntries) : FileText :=
  dropNewline (entries.list.foldl patchEntry (file.getD []))

example :
    patchEnvFile none
        ⟨[⟨['A'], ['1'], rfl, rfl⟩, ⟨['B'], ['t', 'w', 'o'], rfl, rfl⟩],
          by decide⟩ =
      "A=1\nB=two\n".toList := by
  decide +kernel

example :
    patchEnvFile (some "A=old".toList)
        ⟨[⟨['A'], "x$$y$&".toList, rfl, rfl⟩], by decide⟩ =
      "A=x$yA=old".toList := by
  decide +kernel

/-! ## Reading -/

/-- The value that a line gives to a key. -/
def valueIn (key line : FileText) : Option FileText :=
  if (assigning key).isPrefixOf line then
    some (line.drop (assigning key).length)
  else none

/-- The value that a file gives to a key, of which the last assignment counts. -/
def readEnv (text key : FileText) : Option FileText :=
  ((lines isLineTerminator text).filterMap (valueIn key)).getLast?

/-- A line assigns none of the keys. -/
def isOther (entries : EnvEntries) (line : FileText) : Bool :=
  entries.list.all fun entry => !entry.start.isPrefixOf line

def otherLines (entries : EnvEntries) (text : FileText) : List FileText :=
  (lines isLineTerminator text).filter (isOther entries)

/-- A file is patched as it should be. -/
structure Patched (text : FileText) (entries : EnvEntries) : Prop where
  given : ∀ entry ∈ entries.list,
    readEnv (patchEnvFile (some text) entries) entry.key = some entry.value
  others : ∀ key, sign ∉ key → (∀ entry ∈ entries.list, entry.key ≠ key) →
    readEnv (patchEnvFile (some text) entries) key = readEnv text key
  kept : (otherLines entries text).Sublist
    (lines isLineTerminator (patchEnvFile (some text) entries))
  again : patchEnvFile (some (patchEnvFile (some text) entries)) entries =
    patchEnvFile (some text) entries

/-! ## When it is -/

/-- The lines that assign a key. -/
def assignments (key text : FileText) : List FileText :=
  starting isLineTerminator (assigning key) text

/-- The patterns in the value of an entry change nothing that is read later: there
are none, or the line that they are written to is not the last one that assigns
the key, and they stand for the same text when the file is patched again. -/
def Harmless (text : FileText) (entry : EnvEntry) : Prop :=
  patterns entry.value = [] ∨
    2 ≤ (assignments entry.key text).length ∧
      ∀ char ∈ patterns entry.value,
        char = dollar ∨ char = graveAccent ∧ entry.start <+: text

/-- An entry whose key is assigned at most once, or has the value already, and
whose patterns are harmless. -/
structure Settled (text : FileText) (entry : EnvEntry) : Prop where
  last : 2 ≤ (assignments entry.key text).length →
    (assignments entry.key text).getLast? = some entry.line
  harmless : Harmless text entry

/-- A file and entries with which it can be patched. -/
structure Patchable (text : FileText) (entries : EnvEntries) : Prop where
  starts : text.head? ≠ some '\n'
  settled : ∀ entry ∈ entries.list, Settled text entry

end Cli
end EvoPlatform
