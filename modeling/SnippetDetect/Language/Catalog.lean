import SnippetDetect.Files
import SnippetDetect.Json.Reader
import SnippetDetect.Language.Reader

/-!
Catalogs of languages from a folder.

The files whose names end in `.json` are read in the order of their names. A file holds
one definition or a list of them. A file that is no file or no JSON and an entry that is
no definition contribute nothing; a later definition takes the place of an earlier one of
the same name.
-/

namespace SnippetDetect

/-- Languages under their names, in the order in which these were first met. -/
abbrev Catalog := List (String × Language)

namespace Catalog

/-- Why a folder cannot be loaded. -/
inductive Fault where
  | noFolder (path : String)
  | encoding (error : Text.Utf8Error)
  | json (fault : Json.Fault)
  | definition (fault : Language.Fault)
  deriving DecidableEq, Repr

def Fault.message : Fault → String
  | .noFolder path => "Pattern directory not found: " ++ path
  | .encoding error => error.message
  | .json fault => fault.message
  | .definition fault => fault.message

/-- The catalog with a definition added, or put in the place of one of the same name. -/
def add (c : Catalog) (l : Language) : Catalog := setEntry l.name l c

def addAll (c : Catalog) (ls : List Language) : Catalog := ls.foldl add c

/-- The definitions among the entries. An entry that is none is left out, unless its block comments
have no items at all. -/
def definitions (entries : List Json) : Except Fault (List Language) :=
  entries.foldlM (fun read entry =>
    match Language.ofJson entry with
    | .ok language => .ok (read ++ [language])
    | .error (.noItems kind) => .error (.definition (.noItems kind))
    | .error _ => .ok read) []

/-- The definitions in a text, in which containers nest at most `depth` deep. -/
def ofText (depth : Nat) (text : String) : Except Fault (List Language) :=
  match Json.parse depth text with
  | .error (.malformed _ _) => .ok []
  | .error fault => .error (.json fault)
  | .ok (.arr entries) => definitions entries
  | .ok entry => definitions [entry]

/-- The definitions in a file. -/
def ofFile (depth : Nat) (fs : Files) (path : FilePath) : Except Fault (List Language) :=
  match fs.bytes path with
  | .error _ => .ok []
  | .ok bytes =>
      match Files.decode bytes with
      | .error error => .error (.encoding error)
      | .ok text => ofText depth text

/-- The path of a name in a folder. -/
def inside (folder : FilePath) (name : String) : FilePath :=
  { folder with names := folder.names ++ [name] }

/-- The names of the files that hold definitions. -/
def sources (fs : Files) (folder : FilePath) : List String :=
  (fs.names folder).filter (·.endsWith ".json")

/-- Load a folder. -/
def load (depth : Nat) (fs : Files) (folder : FilePath) : Except Fault Catalog :=
  if fs.isFolder folder then
    (sources fs folder).foldlM (fun c name => do
      return c.addAll (← ofFile depth fs (inside folder name))) []
  else .error (.noFolder folder.text)

/-- One catalog extended by the definitions of another. -/
def update (c others : Catalog) : Catalog :=
  others.foldl (fun c (name, l) => setEntry name l c) c

end Catalog

end SnippetDetect
