import SnippetDetect.Text.Lines
import SnippetDetect.Text.Quoted
import SnippetDetect.Text.Search
import SnippetDetect.Text.Utf8

/-!
Files, as a value: what is found at each place below the root.

A path is read without doubled slashes, without steps to the place itself and without a
slash at its end, and is shown so in messages. Every place above a known one is a folder. There are
no links, and everything may be read.
-/

namespace SnippetDetect

open SnippetDetect.Text

/-- A path: the names from the root or from the place where relative paths start. -/
structure FilePath where
  /-- The slashes before the first name: none, one, or two alone. -/
  slashes : Nat
  names : List String
  deriving DecidableEq, Repr

namespace FilePath

def ofString (s : String) : FilePath :=
  let cs := s.toList
  let leading := (cs.takeWhile (· == '/')).length
  let names := (splitAt '/' cs).map String.ofList
  ⟨if leading = 2 then 2 else min leading 1, names.filter fun n => !n.isEmpty && n ≠ "."⟩

def text (p : FilePath) : String :=
  let names := "/".intercalate p.names
  if p.slashes = 0 ∧ p.names = [] then "."
  else String.ofList (List.replicate p.slashes '/') ++ names

end FilePath

/-- What is known of the files: the place where relative paths start, and the bytes of a file, or
none for a folder, at each place. -/
structure Files where
  base : List String
  entries : List (List String × Option (List Nat))

namespace Files

/-- Why a file cannot be read. -/
inductive Fault where
  | missing (path : String)
  | notAFolder (path : String)
  | isAFolder (path : String)
  | zeroByte
  deriving DecidableEq, Repr

def Fault.message : Fault → String
  | .missing path => "[Errno 2] No such file or directory: " ++ quoted path
  | .notAFolder path => "[Errno 20] Not a directory: " ++ quoted path
  | .isAFolder path => "[Errno 21] Is a directory: " ++ quoted path
  | .zeroByte => "embedded null byte"

/-- What stands at a place. -/
inductive Entry where
  | folder
  | file (bytes : List Nat)
  deriving DecidableEq, Repr

/-- What stands at a place given by its names from the root on. -/
def at? (fs : Files) (place : List String) : Option Entry :=
  match fs.entries.lookup place with
  | some (some bytes) => some (.file bytes)
  | some none => some .folder
  | none =>
      if place.isPrefixOf fs.base || fs.entries.any fun e => place.isPrefixOf e.1 then some .folder
      else none

/-- Go along the names from a place; the way must lead through folders. -/
def walk (fs : Files) (path : String) : (place : List String) → (names : List String) →
    Except Fault (List String)
  | place, [] => .ok place
  | place, name :: rest =>
      match fs.at? place with
      | none => .error (.missing path)
      | some (.file _) => .error (.notAFolder path)
      | some .folder =>
          fs.walk path (if name = ".." then place.dropLast else place ++ [name]) rest

/-- The place a path leads to. -/
def resolve (fs : Files) (path : FilePath) : Except Fault (List String) :=
  if path.names.any fun n => n.toList.contains '\x00' then .error .zeroByte
  else fs.walk path.text (if path.slashes = 0 then fs.base else []) path.names

def isFolder (fs : Files) (path : FilePath) : Bool :=
  match fs.resolve path with
  | .ok place => fs.at? place = some .folder
  | .error _ => false

/-- The bytes of a file. -/
def bytes (fs : Files) (path : FilePath) : Except Fault (List Nat) := do
  match fs.at? (← fs.resolve path) with
  | some (.file bytes) => .ok bytes
  | some .folder => .error (.isAFolder path.text)
  | none => .error (.missing path.text)

/-- The names in a folder, in the order of their characters. -/
def names (fs : Files) (path : FilePath) : List String :=
  match fs.resolve path with
  | .error _ => []
  | .ok place =>
      let known := fs.entries.map (·.1) ++ [fs.base]
      let inside := known.filterMap fun e =>
        if place.isPrefixOf e then e[place.length]? else none
      inside.eraseDups.mergeSort fun a b => !(b < a)

/-- The text of bytes, its line ends unified. -/
def decode (bytes : List Nat) : Except Utf8Error String :=
  (decodeUtf8 bytes).map fun s => String.ofList (unifyLineEnds s.toList)

end Files

end SnippetDetect
