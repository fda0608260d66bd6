import SnippetDetect.Json.Basic
import SnippetDetect.Language.Basic
import SnippetDetect.Text.Blank
import SnippetDetect.Text.Casing

/-!
Languages from JSON.

A definition is an object with a name. Every list it has is a list of strings, its
comments are an object, and its block comments have two texts that are not empty. The
name is taken without blank ends and in lower case.
-/

namespace SnippetDetect.Language

open SnippetDetect.Text

/-- Why a value is no definition of a language. -/
inductive Fault where
  | notAnObject
  | noName
  | notStrings (language field : String)
  | commentsNotAnObject (language : String)
  | badBlock (language : String)
  /-- The block comments are a value of a kind that has no items. -/
  | noItems (kind : String)
  deriving DecidableEq, Repr

def Fault.message : Fault → String
  | .notAnObject => "Pattern definition must be an object"
  | .noName => "Pattern definition requires a non-empty 'name'"
  | .notStrings language field =>
      "Pattern '" ++ language ++ "': '" ++ field ++ "' must be a list of strings"
  | .commentsNotAnObject language => "Pattern '" ++ language ++ "': 'comments' must be an object"
  | .badBlock language =>
      "Pattern '" ++ language ++ "': block comments need 'start' and 'end' strings"
  | .noItems kind => "'" ++ kind ++ "' object is not iterable"

/-- The name of a definition: blank ends do not count and case does not matter. -/
def normalName (s : String) : String := lower (strip s)

/-- A list of strings that may be absent. -/
def stringField (members : Members) (field language : String) : Except Fault (List String) :=
  match valueOf? members field with
  | none => .ok []
  | some value =>
      match value.stringList? with
      | some strings => .ok strings
      | none => .error (.notStrings language field)

/-- The texts around a block comment, if both are there and neither is empty. -/
def blockOf? : Json → Option BlockComment
  | .obj members =>
      match valueOf? members "start", valueOf? members "end" with
      | some (.str opening), some (.str closing) =>
          if opening.isEmpty || closing.isEmpty then none else some ⟨opening, closing⟩
      | _, _ => none
  | _ => none

/-- The block comments of a value. A text and an object have items too, none of which is a pair of
texts. -/
def blocksOf (language : String) : Json → Except Fault (List BlockComment)
  | .arr items =>
      match items.mapM blockOf? with
      | some blocks => .ok blocks
      | none => .error (.badBlock language)
  | .str s => if s.isEmpty then .ok [] else .error (.badBlock language)
  | .obj members => if members.isEmpty then .ok [] else .error (.badBlock language)
  | value => .error (.noItems value.kindName)

/-- The comments of a definition. -/
def commentsOf (members : Members) (language : String) : Except Fault CommentStyle :=
  match (valueOf? members "comments").getD (.obj []) with
  | .obj comments => do
      let line ← stringField comments "line" language
      let block ← blocksOf language ((valueOf? comments "block").getD (.arr []))
      return ⟨line.filter (!·.isEmpty), block⟩
  | _ => .error (.commentsNotAnObject language)

/-- Read a definition. -/
def ofJson : Json → Except Fault Language
  | .obj members =>
      match valueOf? members "name" with
      | some (.str written) => do
          if isBlankText written then throw .noName
          let name := normalName written
          let keywords ← stringField members "keywords" name
          let patterns ← stringField members "patterns" name
          let imports ← stringField members "imports" name
          let builtins ← stringField members "builtins" name
          let extensions ← stringField members "extensions" name
          let operators ← stringField members "operators" name
          let comments ← commentsOf members name
          return { name, keywords, patterns, imports, builtins, comments, extensions, operators }
      | _ => .error .noName
  | _ => .error .notAnObject

end SnippetDetect.Language
