import SnippetDetect.Json.Basic
import SnippetDetect.Text.Quoted

/-!
Writing JSON text.

The text is ASCII: every other character is escaped as its UTF-16 code units. On one line
items are set apart by a comma and a space; laid out, each stands on a line of its own,
one step further in than its container. Empty containers are never laid out.
-/

namespace SnippetDetect.Json

open SnippetDetect.Text (hex)

def escapeUnit (n : Nat) : List Char := ['\\', 'u'] ++ hex 4 n

/-- How a character stands between quotes. -/
def escapeChar (c : Char) : List Char :=
  let n := c.toNat
  if c = '"' ∨ c = '\\' then ['\\', c]
  else if c = '\n' then ['\\', 'n']
  else if c = '\r' then ['\\', 'r']
  else if c = '\t' then ['\\', 't']
  else if c = '\x08' then ['\\', 'b']
  else if c = '\x0c' then ['\\', 'f']
  else if 0x20 ≤ n ∧ n < 0x7F then [c]
  else if n < 0x10000 then escapeUnit n
  else
    escapeUnit (0xD800 + (n - 0x10000) / 0x400) ++ escapeUnit (0xDC00 + (n - 0x10000) % 0x400)

def quotedChars (s : String) : List Char :=
  '"' :: s.toList.flatMap escapeChar ++ ['"']

/-- The spelling of the numbers without digits. -/
def spelling : Binary64.Spelling := ⟨"NaN", "Infinity"⟩

/-- The break before an item at a depth, when items are laid out by steps of `step` spaces. -/
def lineBreak (step : Option Nat) (depth : Nat) : List Char :=
  match step with
  | none => []
  | some n => '\n' :: List.replicate (n * depth) ' '

/-- What stands between two items. -/
def separator (step : Option Nat) (depth : Nat) : List Char :=
  match step with
  | none => [',', ' ']
  | some _ => ',' :: lineBreak step depth

mutual

/-- The characters of a value that stands at a depth. -/
def write (step : Option Nat) (depth : Nat) : Json → List Char
  | .null => "null".toList
  | .bool b => (if b then "true" else "false").toList
  | .num n => (n.text spelling).toList
  | .str s => quotedChars s
  | .arr [] => ['[', ']']
  | .arr (item :: items) =>
      '[' :: lineBreak step (depth + 1) ++ write step (depth + 1) item ++
        writeItems step (depth + 1) items ++ lineBreak step depth ++ [']']
  | .obj [] => ['\x7b', '\x7d']
  | .obj ((name, value) :: members) =>
      '\x7b' :: lineBreak step (depth + 1) ++ quotedChars name ++ [':', ' '] ++
        write step (depth + 1) value ++ writeMembers step (depth + 1) members ++
        lineBreak step depth ++ ['\x7d']

/-- The items after the first one. -/
def writeItems (step : Option Nat) (depth : Nat) : List Json → List Char
  | [] => []
  | item :: items =>
      separator step depth ++ write step depth item ++ writeItems step depth items

/-- The members after the first one. -/
def writeMembers (step : Option Nat) (depth : Nat) : Members → List Char
  | [] => []
  | (name, value) :: members =>
      separator step depth ++ quotedChars name ++ [':', ' '] ++ write step depth value ++
        writeMembers step depth members

end

/-- The text of a value, on one line or laid out by steps of so many spaces. -/
def text (step : Option Nat) (value : Json) : String :=
  String.ofList (write step 0 value)

end SnippetDetect.Json
