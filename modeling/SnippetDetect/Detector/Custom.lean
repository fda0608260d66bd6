import SnippetDetect.Fault
import SnippetDetect.Text.Casing

/-!
Detectors made by the user of the library.

Such a detector answers by any function of the snippet, its gate and its allow-list. It
may take payloads, some of whose names it refuses, and it may have an allow-list.
`Custom` counts how often it was asked and keeps the payloads it took.
-/

namespace SnippetDetect

open SnippetDetect.Text

/-- What becomes of the payloads a detector is given. -/
structure Payloads where
  /-- The names that no payload may have. -/
  refused : List String := []
  /-- The payloads taken so far, the latest last. -/
  taken : List Members := []

/-- What a detector can do beside detecting. -/
inductive Capability where
  | none
  | configurable (payloads : Payloads)
  /-- Takes payloads and has an allow-list. -/
  | selectable (payloads : Payloads) (allowed : List String)

structure Custom where
  kind : String
  languages : List String
  answer : (gate : Binary64) → (allowed : List String) → (code : Snippet) →
    Except Fault (Option Detection)
  capability : Capability := .none
  calls : Nat := 0

namespace Payloads

/-- Take a payload unless it has a refused name. -/
def take (p : Payloads) (payload : Members) : Except Fault Unit × Payloads :=
  match p.refused.find? fun name => (valueOf? payload name).isSome with
  | some name => (.error (.badPayload name), p)
  | none => (.ok (), { p with taken := p.taken ++ [payload] })

end Payloads

namespace Custom

def allowed (c : Custom) : List String :=
  match c.capability with
  | .selectable _ allowed => allowed
  | _ => []

/-- Answer for a snippet, and count the call. -/
def ask (c : Custom) (gate : Binary64) (code : Snippet) :
    Except Fault (Option Detection) × Custom :=
  (c.answer gate c.allowed code, { c with calls := c.calls + 1 })

/-- Allow these languages, whatever their case; without any, all are allowed. -/
def setAllowed (c : Custom) (languages : List String) : Custom :=
  match c.capability with
  | .selectable payloads _ => { c with capability := .selectable payloads (languages.map lower) }
  | _ => c

def allows (c : Custom) (language : String) : Bool :=
  c.allowed.isEmpty || c.allowed.contains (lower language)

/-- What a configurable detector says of itself. -/
def configuration? (c : Custom) : Option Members :=
  match c.capability with
  | .none => Option.none
  | .configurable payloads => some [("applied", .ofNat payloads.taken.length)]
  | .selectable _ allowed => some [("enabled_languages", .ofStrings allowed)]

/-- Give the detector a payload; one that takes none ignores it. -/
def configure (c : Custom) (payload : Members) : Except Fault Unit × Custom :=
  match c.capability with
  | .none => (.ok (), c)
  | .configurable payloads =>
      let (outcome, payloads) := payloads.take payload
      (outcome, { c with capability := .configurable payloads })
  | .selectable payloads allowed =>
      let (outcome, payloads) := payloads.take payload
      (outcome, { c with capability := .selectable payloads allowed })

/-- The payloads taken so far. -/
def taken (c : Custom) : List Members :=
  match c.capability with
  | .none => []
  | .configurable payloads | .selectable payloads _ => payloads.taken

end Custom

end SnippetDetect
