import SnippetDetect.Text.Quoted

/-!
Reading UTF-8.

Bytes that are no UTF-8 are refused with the first span at fault: a byte that starts
no character, the bytes up to one that does not continue the character begun, or a
character that the end of the data cuts short.
-/

namespace SnippetDetect.Text

/-- What is wrong with a span of bytes. -/
inductive Utf8Fault where
  | invalidStart
  | invalidContinuation
  | endOfData
  deriving DecidableEq, Repr

/-- The first bytes that are no UTF-8: `length` of them from `start`, the first being `byte`. -/
structure Utf8Error where
  fault : Utf8Fault
  start : Nat
  length : Nat
  byte : Nat
  deriving DecidableEq, Repr

def Utf8Fault.reason : Utf8Fault → String
  | .invalidStart => "invalid start byte"
  | .invalidContinuation => "invalid continuation byte"
  | .endOfData => "unexpected end of data"

def Utf8Error.message (e : Utf8Error) : String :=
  "'utf-8' codec can't decode " ++
    (if e.length = 1 then
      "byte 0x" ++ String.ofList (hex 2 e.byte) ++ " in position " ++ toString e.start
    else
      "bytes in position " ++ toString e.start ++ "-" ++ toString (e.start + e.length - 1)) ++
    ": " ++ e.fault.reason

/-- The bytes that may follow a first byte: how many, and the span of the second. -/
structure Utf8Lead where
  payload : Nat
  tails : Nat
  low : Nat := 0x80
  high : Nat := 0xBF

def utf8Lead? (b : Nat) : Option Utf8Lead :=
  if b < 0x80 then some { payload := b, tails := 0 }
  else if b < 0xC2 then none
  else if b < 0xE0 then some { payload := b - 0xC0, tails := 1 }
  else if b = 0xE0 then some { payload := 0, tails := 2, low := 0xA0 }
  else if b = 0xED then some { payload := 0xD, tails := 2, high := 0x9F }
  else if b < 0xF0 then some { payload := b - 0xE0, tails := 2 }
  else if b = 0xF0 then some { payload := 0, tails := 3, low := 0x90 }
  else if b < 0xF4 then some { payload := b - 0xF0, tails := 3 }
  else if b = 0xF4 then some { payload := 4, tails := 3, high := 0x8F }
  else none

/-- Read `tails` continuation bytes, the next one between `low` and `high`; on failure say how
many were read. -/
def utf8Tails (low high : Nat) : (tails code read : Nat) → List Nat →
    Except (Utf8Fault × Nat) (Nat × List Nat)
  | 0, code, _, bytes => .ok (code, bytes)
  | _ + 1, _, read, [] => .error (.endOfData, read)
  | tails + 1, code, read, b :: rest =>
      if low ≤ b ∧ b ≤ high then utf8Tails 0x80 0xBF tails (code * 64 + (b - 0x80)) (read + 1) rest
      else .error (.invalidContinuation, read)

/-- Read the characters of `bytes`, which begin at `start`. The fuel is at least the number of
bytes. -/
def decodeUtf8From : (fuel start : Nat) → List Nat → List Char → Except Utf8Error (List Char)
  | 0, _, _, read => .ok read.reverse
  | _ + 1, _, [], read => .ok read.reverse
  | fuel + 1, start, b :: rest, read =>
      match utf8Lead? b with
      | none => .error ⟨.invalidStart, start, 1, b⟩
      | some lead =>
          match utf8Tails lead.low lead.high lead.tails lead.payload 1 rest with
          | .error (fault, length) => .error ⟨fault, start, length, b⟩
          | .ok (code, rest) =>
              decodeUtf8From fuel (start + lead.tails + 1) rest (Char.ofNat code :: read)

def decodeUtf8 (bytes : List Nat) : Except Utf8Error String :=
  (decodeUtf8From bytes.length 0 bytes []).map String.ofList

end SnippetDetect.Text
