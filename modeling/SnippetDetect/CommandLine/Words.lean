import SnippetDetect.Text.Digit

/-!
Reading the words of a command line.

A command has options, which have names, and operands, which have places. A word that
starts with a dash names an option: in full, by the beginning of one long name, or as
single letters run together. A lone dash, a negative number that is no option and a word
with a space in it are operands, and so is every word after a double dash.

Operands are given to their places where they stand, as many places as can be filled at a
time; options may stand between them. Words nobody takes make a reading incomplete.
-/

namespace SnippetDetect.CommandLine

open SnippetDetect.Text

/-- How many words a place takes. -/
inductive Place where
  | one
  | atMostOne
  /-- One word and all that follow it, whatever they are. -/
  | rest
  deriving DecidableEq, Repr

/-- The parts of a command: its options under all their names, and the places of its operands. -/
structure Grammar (Part : Type) where
  names : List (String × Part)
  takesValue : Part → Bool
  places : List (Part × Place)

/-- A part of a command and the words it was given. -/
structure Use (Part : Type) where
  part : Part
  values : List String
  deriving DecidableEq, Repr

/-- A text that stands in the same word as the option it is for. -/
structure Attached where
  /-- Whether an equals sign comes before it. -/
  byEquals : Bool
  text : List Char
  deriving DecidableEq, Repr

/-- What a word is. -/
inductive WordKind (Part : Type) where
  | doubleDash
  | operand
  | option (part : Part) (isLong : Bool) (attached : Option Attached)
  | unknownOption

structure Word (Part : Type) where
  text : String
  kind : WordKind Part

namespace Word

variable {Part : Type}

def isOperand (w : Word Part) : Bool :=
  match w.kind with
  | .operand => true
  | _ => false

def isDoubleDash (w : Word Part) : Bool :=
  match w.kind with
  | .doubleDash => true
  | _ => false

end Word

/-- Whether the characters after a dash make a negative number: digits of any script around an
optional point, and a digit last. A line end may follow. -/
def isNumber (cs : List Char) : Bool :=
  let cs := if cs.getLast? = some '\n' then cs.dropLast else cs
  let isDigit := fun c => (digit? c).isSome
  match cs.dropWhile isDigit with
  | [] => cs ≠ []
  | '.' :: fraction => fraction ≠ [] && fraction.all isDigit
  | _ => false

namespace Grammar

variable {Part : Type} (g : Grammar Part)

/-! ### Words -/

/-- The options a word that starts with two dashes may mean: those with a name that begins so. -/
def longCandidates (written : List Char) (attached : Option Attached) : List (WordKind Part) :=
  (g.names.filter fun n => written.isPrefixOf n.1.toList).map fun n => .option n.2 true attached

/-- The options a word that starts with a single dash may mean. -/
def shortCandidates (word : String) (letter : Char) (others : List Char) :
    List (WordKind Part) :=
  g.names.filterMap fun n =>
    if n.1 = String.ofList ['-', letter] then some (.option n.2 false (some ⟨false, others⟩))
    else if word.toList.isPrefixOf n.1.toList then some (.option n.2 false none)
    else none

/-- What a word means that is no full name; none when it may mean several options. -/
def guessOption? (word : String) (letter : Char) (others written : List Char)
    (attached : Option Attached) : Option (WordKind Part) :=
  let candidates :=
    if letter = '-' then g.longCandidates written attached
    else g.shortCandidates word letter others
  match candidates with
  | [candidate] => some candidate
  | [] =>
      if isNumber (letter :: others) || word.toList.contains ' ' then some .operand
      else some .unknownOption
  | _ => none

/-- What a word before any double dash is; none when it may mean several options. -/
def classify? (word : String) : Option (WordKind Part) :=
  match word.toList with
  | '-' :: letter :: others =>
      match g.names.lookup word with
      | some part => some (.option part (letter = '-') none)
      | none =>
          let written := word.toList.takeWhile (· ≠ '=')
          match word.toList.dropWhile (· ≠ '=') with
          | _ :: value =>
              let attached := some ⟨true, value⟩
              match g.names.lookup (String.ofList written) with
              | some part => some (.option part (letter = '-') attached)
              | none => g.guessOption? word letter others written attached
          | [] => g.guessOption? word letter others written none
  | _ => some .operand

/-- The words of a command line; none when one may mean several options. -/
def words? : List String → Option (List (Word Part))
  | [] => some []
  | text :: rest =>
      if text = "--" then some (⟨text, .doubleDash⟩ :: rest.map (⟨·, .operand⟩))
      else do return ⟨text, ← g.classify? text⟩ :: (← words? rest)

/-! ### Options -/

/-- What a single word with options says. -/
structure Cluster (Part : Type) where
  uses : List (Use Part)
  /-- An option at the end that may take its value from the next word. -/
  last : Option Part
  /-- Whether every letter names an option. -/
  complete : Bool

/-- An option named by a letter, with the text that follows in the same word: its value, or further
letters. None when the text can be neither. -/
def letters? (part : Part) (byEquals : Bool) (text : List Char) : Option (Cluster Part) :=
  if g.takesValue part then some ⟨[⟨part, [String.ofList text]⟩], none, true⟩
  else
    match byEquals, text with
    | false, letter :: others =>
        if letter = '-' then none
        else
          match g.names.lookup (String.ofList ['-', letter]) with
          | none => some ⟨[⟨part, []⟩], none, false⟩
          | some next =>
              let cluster : Option (Cluster Part) :=
                if others.isEmpty then some ⟨[], some next, true⟩
                else if others.head? = some '=' then letters? next true (others.drop 1)
                else letters? next false others
              cluster.map fun c => { c with uses := ⟨part, []⟩ :: c.uses }
    | _, _ => none
termination_by text.length

/-- What a word that names an option says. -/
def cluster? (part : Part) (isLong : Bool) : Option Attached → Option (Cluster Part)
  | none => some ⟨[], some part, true⟩
  | some attached =>
      if !isLong then g.letters? part attached.byEquals attached.text
      else if g.takesValue part then
        some ⟨[⟨part, [String.ofList attached.text]⟩], none, true⟩
      else none

/-! ### Operands -/

/-- The words a place takes, and those behind them. -/
def take? (place : Place) (ws : List (Word Part)) :
    Option (List (Word Part) × List (Word Part)) :=
  let before := ws.takeWhile Word.isDoubleDash
  match place, ws.dropWhile Word.isDoubleDash with
  | .rest, w :: _ => if w.isOperand then some (ws, []) else none
  | .rest, [] | .one, [] => none
  | .atMostOne, [] => some (before, [])
  | place, w :: behind =>
      if w.isOperand then
        some (before ++ w :: behind.takeWhile Word.isDoubleDash,
          behind.dropWhile Word.isDoubleDash)
      else if place = .atMostOne then some (before, w :: behind)
      else none

/-- What a place was given. The first double dash does not count, except where all words are
taken. -/
def given (place : Place) (taken : List (Word Part)) : List String :=
  let texts := taken.map (·.text)
  if place = .rest then texts else texts.erase "--"

/-- What is left after places were filled. -/
structure Filled (Part : Type) where
  uses : List (Use Part)
  places : List (Part × Place)
  words : List (Word Part)

/-- Fill places from the first on, as far as they can be. -/
def fill : List (Part × Place) → List (Word Part) → Filled Part
  | [], ws => ⟨[], [], ws⟩
  | (part, place) :: places, ws =>
      match take? place ws with
      | none => ⟨[], (part, place) :: places, ws⟩
      | some (taken, behind) =>
          let f := fill places behind
          { f with uses := ⟨part, given place taken⟩ :: f.uses }

end Grammar

/-! ### Readings -/

/-- What a command line says: the parts in the order in which they were written, and whether
nothing is amiss behind them. -/
structure Reading (Part : Type) where
  uses : List (Use Part)
  complete : Bool

namespace Reading

variable {Part : Type}

/-- A command line that cannot be read from here on. -/
def broken : Reading Part := ⟨[], false⟩

def after (uses : List (Use Part)) (complete : Bool) (r : Reading Part) : Reading Part :=
  ⟨uses ++ r.uses, complete && r.complete⟩

end Reading

namespace Grammar

variable {Part : Type} (g : Grammar Part)

/-- Read words, with these places still to fill. -/
def readWords (places : List (Part × Place)) (ws : List (Word Part)) : Reading Part :=
  match ws with
  | [] => ⟨[], places.all fun p => p.2 = .atMostOne⟩
  | w :: rest =>
      match w.kind with
      | .unknownOption => (readWords places rest).after [] false
      | .option part isLong attached =>
          match g.cluster? part isLong attached with
          | none => .broken
          | some c =>
              match c.last with
              | none => (readWords places rest).after c.uses c.complete
              | some last =>
                  if g.takesValue last then
                    match rest with
                    | value :: rest =>
                        if value.isOperand then
                          (readWords places rest).after (c.uses ++ [⟨last, [value.text]⟩]) true
                        else .broken
                    | [] => .broken
                  else (readWords places rest).after (c.uses ++ [⟨last, []⟩]) true
      | .operand | .doubleDash =>
          let f := fill places (w :: rest)
          if f.words.length < (w :: rest).length then
            (readWords f.places f.words).after f.uses true
          else (readWords places rest).after [] false
termination_by ws.length
decreasing_by
  -- What filling leaves is shorter by the test; all other words are behind `w`.
  all_goals first
    | assumption
    | simp only [List.length_cons]; omega

/-- Read a command line. -/
def read (args : List String) : Reading Part :=
  match g.words? args with
  | some ws => g.readWords g.places ws
  | none => .broken

end Grammar

/-- Why a command line is not carried out. -/
inductive Stop where
  | helpWanted
  | misuse
  deriving DecidableEq, Repr

/-- Take the parts of a command one after another. -/
def Reading.interpret {Part State : Type} (r : Reading Part)
    (step : State → Use Part → Except Stop State) (start : State) : Except Stop State := do
  let state ← r.uses.foldlM step start
  if r.complete then return state else throw .misuse

end SnippetDetect.CommandLine
