import SnippetDetect.Number.Reader
import SnippetDetect.Regex.Basic
import SnippetDetect.Text.Identifier

/-!
Reading regular expressions.

An expression is read token by token, a token being a character or a backslash with the
character after it. Options hold from where they are set: at the start for the whole
expression, else for a group. What is no expression is refused; most refusals mean that
the text is malformed, and three are told apart because they concern the size of a number
or options that contradict each other. A character stands for itself or is given by its number;
there are no escapes that give its name. The steps that every expression is read by have lemmas
beside them that tell their outcome from the tokens ahead.
-/

namespace SnippetDetect.Regex

open SnippetDetect.Text

/-- Why a text is no regular expression. -/
inductive Refusal where
  | malformed
  /-- A number of repetitions past the largest one. -/
  | repetitionTooLarge
  | conflictingOptions
  /-- A number of repetitions written with too many digits. -/
  | tooManyDigits (count : Nat)
  deriving DecidableEq, Repr

/-! ### Tokens -/

inductive Token where
  | plain (c : Char)
  | escaped (c : Char)
  /-- A backslash that ends the text. -/
  | dangling
  deriving DecidableEq, Repr

def tokens : List Char → List Token
  | [] => []
  | ['\\'] => [.dangling]
  | '\\' :: c :: rest => .escaped c :: tokens rest
  | c :: rest => .plain c :: tokens rest

/-- The characters a token was made of. -/
def Token.chars : Token → List Char
  | .plain c => [c]
  | .escaped c => ['\\', c]
  | .dangling => ['\\']

/-! ### Options -/

structure Options where
  ignoreCase : Bool := false
  multiline : Bool := false
  dotAll : Bool := false
  verbose : Bool := false
  asciiOnly : Bool := false
  unicode : Bool := false
  plainOnly : Bool := false
  deriving DecidableEq, Repr

namespace Options

/-- The option a letter stands for. -/
def ofLetter? : Char → Option Options
  | 'i' => some { ignoreCase := true }
  | 'm' => some { multiline := true }
  | 's' => some { dotAll := true }
  | 'x' => some { verbose := true }
  | 'a' => some { asciiOnly := true }
  | 'u' => some { unicode := true }
  | 't' => some { plainOnly := true }
  | _ => none

def plus (a b : Options) : Options where
  ignoreCase := a.ignoreCase || b.ignoreCase
  multiline := a.multiline || b.multiline
  dotAll := a.dotAll || b.dotAll
  verbose := a.verbose || b.verbose
  asciiOnly := a.asciiOnly || b.asciiOnly
  unicode := a.unicode || b.unicode
  plainOnly := a.plainOnly || b.plainOnly

def minus (a b : Options) : Options where
  ignoreCase := a.ignoreCase && !b.ignoreCase
  multiline := a.multiline && !b.multiline
  dotAll := a.dotAll && !b.dotAll
  verbose := a.verbose && !b.verbose
  asciiOnly := a.asciiOnly && !b.asciiOnly
  unicode := a.unicode && !b.unicode
  plainOnly := a.plainOnly && !b.plainOnly

/-- The options two sets share. -/
def common (a b : Options) : Options := a.minus (a.minus b)

/-- Whether the classes of characters are settled, one way or the other. -/
def settlesClasses (o : Options) : Bool := o.asciiOnly || o.unicode

/-- The options inside a group that turns some on and some off. -/
def within (outer added removed : Options) : Options :=
  let base :=
    if added.settlesClasses then { outer with asciiOnly := false, unicode := false } else outer
  (base.plus added).minus removed

def folding (o : Options) : Folding :=
  if o.ignoreCase then (if o.asciiOnly then .ascii else .unicode) else .exact

end Options

/-! ### The state of reading -/

/-- The tokens ahead and what is known from those already read. -/
structure Progress where
  ahead : List Token
  /-- The options of the whole expression. -/
  options : Options
  /-- The widths of the groups by number; a group that is still open has none. -/
  groups : Array (Option Width)
  names : List (String × Nat)
  /-- In text looked at backwards, the number of groups before it. -/
  groupsBefore : Option Nat
  /-- The groups that conditions ask for by number. -/
  asked : List Nat
  repetition : Bool
  /-- Whether some text looked at backwards has no fixed width. -/
  variableBehind : Bool

abbrev Reader := StateT Progress (Except Refusal)

def refuseAs {α : Type} (r : Refusal) : Reader α := throw r

def refuse {α : Type} : Reader α := refuseAs .malformed

section Steps

variable {α β : Type} {p q : Progress} {first : Reader α} {a : α}

theorem bind_eq {next : α → Reader β} (reads : first p = .ok (a, q)) :
    (first >>= next) p = next a q := by
  change (first p).bind (fun made => next made.1 made.2) = _
  rw [reads]
  rfl

theorem discard_eq (reads : first p = .ok (a, q)) : discard first p = .ok ((), q) := by
  change (first p).bind (fun made => Except.ok ((), made.2)) = _
  rw [reads]
  rfl

theorem get_eq (p : Progress) : (get : Reader Progress) p = .ok (p, p) := rfl

end Steps

/-- The next token, which is left in place. -/
def peek : Reader (Option Token) := do return (← get).ahead.head?

theorem peek_eq (p : Progress) : peek p = .ok (p.ahead.head?, p) := rfl

/-- Refuse an expression that ends in a lone backslash, as soon as that is the next token. -/
def checkDangling : Reader Unit := do
  if (← peek) = some .dangling then refuse

theorem checkDangling_eq {p : Progress} (goesOn : p.ahead.head? ≠ some .dangling) :
    checkDangling p = .ok ((), p) := by
  rw [checkDangling, bind_eq (peek_eq p), if_neg goesOn]
  rfl

/-- Take the next token. -/
def take : Reader (Option Token) := do
  let head ← peek
  modify fun p => { p with ahead := p.ahead.tail }
  checkDangling
  return head

theorem take_eq {p : Progress} {t : Token} {rest : List Token} (ahead : p.ahead = t :: rest)
    (goesOn : rest.head? ≠ some .dangling) : take p = .ok (some t, { p with ahead := rest }) := by
  have moves : (modify fun p : Progress => { p with ahead := p.ahead.tail } : Reader Unit) p =
      .ok ((), { p with ahead := rest }) := by
    change Except.ok ((), { p with ahead := p.ahead.tail }) = _
    rw [ahead, List.tail_cons]
  rw [take, bind_eq (peek_eq p), bind_eq moves, bind_eq (checkDangling_eq goesOn), ahead]
  rfl

/-- Take the next token if it is this character. -/
def takeIf (c : Char) : Reader Bool := do
  if (← peek) = some (.plain c) then
    discard take
    return true
  else return false

theorem takeIf_eq_false {p : Progress} {c : Char} (other : p.ahead.head? ≠ some (.plain c)) :
    takeIf c p = .ok (false, p) := by
  rw [takeIf, bind_eq (peek_eq p), if_neg other]
  rfl

/-- Take the next token, which must be this character. -/
def expect (c : Char) : Reader Unit := do
  if !(← takeIf c) then refuse

/-- Take plain characters of a class while they last, at most `limit`. -/
def takeWhile (inClass : Char → Bool) : (limit : Nat) → Reader (List Char)
  | 0 => return []
  | limit + 1 => do
      match ← peek with
      | some (.plain c) =>
          if inClass c then
            discard take
            return c :: (← takeWhile inClass limit)
          else return []
      | _ => return []

/-- Take all tokens up to a closing character, which is taken too. -/
def takeUntil (close : Char) : (fuel : Nat) → Reader (List Char)
  | 0 => refuse
  | fuel + 1 => do
      match ← take with
      | none => refuse
      | some t => if t = .plain close then return [] else return t.chars ++ (← takeUntil close fuel)

/-- A name in front of its closing character. -/
def takeName (close : Char) : Reader (List Char) := do
  let name ← takeUntil close ((← get).ahead.length + 1)
  if name = [] then refuse
  return name

def checkIdentifier (name : List Char) : Reader Unit := do
  if !isIdentifier name then refuse

/-! ### Groups -/

/-- Begin a group, perhaps one with a name, and give its number. -/
def openGroup (name : Option (List Char)) : Reader Nat := do
  let p ← get
  let index := p.groups.size
  match name with
  | none => set { p with groups := p.groups.push none }
  | some cs =>
      let key := String.ofList cs
      if (p.names.lookup key).isSome then refuse
      set { p with groups := p.groups.push none, names := (key, index) :: p.names }
  return index

def groupWidths (p : Progress) (index : Nat) : Width := ((p.groups.getD index none)).getD ⟨0, 0⟩

def closeGroup (index : Nat) (body : Node) : Reader Unit :=
  modify fun p => { p with groups := p.groups.setIfInBounds index (some (body.width (groupWidths p))) }

def isClosed (p : Progress) (index : Nat) : Bool := (p.groups.getD index none).isSome

/-- Text looked at backwards may only refer to groups that were closed before it. -/
def checkBackwards (index : Nat) : Reader Unit := do
  let p ← get
  match p.groupsBefore with
  | none => return
  | some n => if !isClosed p index || n ≤ index then refuse

def referTo (index : Nat) : Reader Unit := do
  if !isClosed (← get) index then refuse
  checkBackwards index

/-! ### Escapes -/

def isHex (c : Char) : Bool := c.isDigit || ('a' ≤ c && c ≤ 'f') || ('A' ≤ c && c ≤ 'F')

def isOctal (c : Char) : Bool := '0' ≤ c && c ≤ '7'

def hexValue (c : Char) : Nat :=
  if c.isDigit then c.toNat - 0x30
  else if c.toNat < 0x60 then c.toNat - 0x37
  else c.toNat - 0x57

def valueIn (base : Nat) (cs : List Char) : Nat := cs.foldl (fun n c => n * base + hexValue c) 0

/-- The character of a fixed number of hexadecimal digits. -/
def readHex (count : Nat) : Reader Nat := do
  let ds ← takeWhile isHex count
  let code := valueIn 16 ds
  if ds.length ≠ count ∨ 0x110000 ≤ code then refuse
  return code

/-- The letters that stand for a control character. -/
def controlEscape? : Char → Option Nat
  | 'a' => some 0x07
  | 'f' => some 0x0C
  | 'n' => some 0x0A
  | 'r' => some 0x0D
  | 't' => some 0x09
  | 'v' => some 0x0B
  | '\\' => some 0x5C
  | _ => none

def categoryEscape? : Char → Option (Category × Bool)
  | 'd' => some (.digit, false)
  | 'D' => some (.digit, true)
  | 's' => some (.space, false)
  | 'S' => some (.space, true)
  | 'w' => some (.word, false)
  | 'W' => some (.word, true)
  | _ => none

/-- An escape that spells a code point, or any character that is no letter and no digit. -/
def readCode (c : Char) : Reader Nat := do
  if c = 'x' then readHex 2
  else if c = 'u' then readHex 4
  else if c = 'U' then readHex 8
  else if c.isAlphanum then refuse
  else return c.toNat

/-- An escape inside a set. -/
def readSetEscape (o : Options) (c : Char) : Reader SetItem := do
  match categoryEscape? c, controlEscape? c with
  | some (kind, inverted), _ => return .category kind inverted o.asciiOnly
  | _, some code => return .one code
  | _, _ =>
      if c = 'b' then return .one 0x08
      else if isOctal c then
        let code := valueIn 8 (c :: (← takeWhile isOctal 2))
        if 0o377 < code then refuse
        return .one code
      else return .one (← readCode c)

def letter (o : Options) (code : Nat) : Node := .char (.letter o.folding false code)

def anchorEscape? (o : Options) : Char → Option Anchor
  | 'A' => some .textStart
  | 'Z' => some .textEnd
  | 'b' => some (.boundary o.asciiOnly)
  | 'B' => some (.noBoundary o.asciiOnly)
  | _ => none

/-- A reference to a group by number. -/
def readGroupNumber (o : Options) (index : Nat) : Reader Node := do
  referTo index
  return .again o.folding index

/-- An escape that begins with a digit other than zero: three octal digits are a character, one
or two digits the number of a group. -/
def readNumberEscape (o : Options) (first : Char) : Reader Node := do
  match ← takeWhile Char.isDigit 1 with
  | [second] =>
      let third ← if isOctal first && isOctal second then takeWhile isOctal 1 else pure []
      if third = [] then readGroupNumber o (valueIn 10 [first, second])
      else
        let code := valueIn 8 (first :: second :: third)
        if 0o377 < code then refuse
        return letter o code
  | _ => readGroupNumber o (valueIn 10 [first])

/-- An escape outside a set. -/
def readEscape (o : Options) (c : Char) : Reader Node := do
  match categoryEscape? c, controlEscape? c with
  | some (kind, inverted), _ =>
      return .char (.set .exact false [.category kind inverted o.asciiOnly])
  | _, some code => return letter o code
  | _, _ =>
      if c = '0' then return letter o (valueIn 8 (← takeWhile isOctal 2))
      else if c.isDigit then readNumberEscape o c
      else return letter o (← readCode c)

/-! ### Sets -/

/-- One member of a set, which may be the start of a range. -/
def readMember (o : Options) : Token → Reader SetItem
  | .escaped c => readSetEscape o c
  | .plain c => return .one c.toNat
  | .dangling => refuse

/-- The members of a set up to its closing bracket, which may itself be the first of them. -/
def readMembersOfSet (o : Options) : (fuel : Nat) → (read : List SetItem) → Reader (List SetItem)
  | 0, _ => refuse
  | fuel + 1, read => do
      match ← take with
      | none => refuse
      | some t =>
          if t = .plain ']' ∧ read ≠ [] then return read.reverse
          let low ← readMember o t
          if ← takeIf '-' then
            match ← take with
            | none => refuse
            | some t =>
                if t = .plain ']' then return (.one '-'.toNat :: low :: read).reverse
                let high ← readMember o t
                match low, high with
                | .one first, .one last =>
                    if last < first then refuse
                    readMembersOfSet o fuel (.range first last :: read)
                | _, _ => refuse
          else readMembersOfSet o fuel (low :: read)

/-- A set whose opening bracket was taken. -/
def readSet (o : Options) : Reader Node := do
  let inverted ← takeIf '^'
  let items ← readMembersOfSet o ((← get).ahead.length + 1) []
  match items.eraseDups with
  | [.one code] => return .char (.letter o.folding inverted code)
  | items => return .char (.set o.folding inverted items)

/-! ### Repetition -/

/-- The first number of repetitions that is too large. -/
def repetitionLimit : Nat := 4294967295

def readCount (ds : List Char) : Reader Nat := do
  if Number.maxDigits < ds.length then refuseAs (.tooManyDigits ds.length)
  let n := valueIn 10 ds
  if repetitionLimit ≤ n then refuseAs .repetitionTooLarge
  return n

/-- The bounds between braces, the first of which was taken; `none` when these are no bounds. -/
def readBounds : Reader (Option (Nat × Option Nat)) := do
  let start ← get
  let size := start.ahead.length
  if (← peek) = some (.plain '\x7d') then return none
  let low ← takeWhile Char.isDigit size
  let comma ← takeIf ','
  let high ← if comma then takeWhile Char.isDigit size else pure low
  if !(← takeIf '\x7d') then
    set start
    return none
  let least ← if low = [] then pure 0 else readCount low
  let most ← if high = [] then pure none else some <$> readCount high
  if most.any (· < least) then refuse
  return some (least, most)

/-- The bounds that a character asks for, if it asks for repetition. -/
def readQuantifier (c : Char) : Reader (Option (Nat × Option Nat)) :=
  match c with
  | '?' => return some (0, some 1)
  | '*' => return some (0, none)
  | '+' => return some (1, none)
  | '\x7b' => readBounds
  | _ => return none

def readGreed : Reader Greed := do
  if ← takeIf '?' then return .lazy
  else if ← takeIf '+' then return .possessive
  else return .greedy

/-! ### Sequences and groups -/

/-- What a part of a sequence says about repeating it. -/
inductive Role where
  | plain
  | anchor
  | repeated
  deriving DecidableEq, Repr

structure Piece where
  node : Node
  role : Role := .plain

/-- Repeat the last piece; there must be one, and it may be no anchor and not repeated yet. -/
def repeatLast (least : Nat) (most : Option Nat) (pieces : List Piece) : Reader (List Piece) := do
  match pieces with
  | ⟨node, .plain⟩ :: before =>
      let greed ← readGreed
      modify fun p => { p with repetition := true }
      return ⟨.repeated greed least most node, .repeated⟩ :: before
  | _ => refuse

/-- Where a sequence stands: in the whole expression its options are those of the expression. -/
structure Context where
  nested : Bool
  /-- Whether nothing of the expression stands before. -/
  atStart : Bool
  options : Options

/-- The options inside a sequence. -/
def Context.current (ctx : Context) : Reader Options := do
  if ctx.nested then return ctx.options else return (← get).options

/-- The options that hold in a sequence. -/
def Context.optionsAt (ctx : Context) (p : Progress) : Options :=
  if ctx.nested then ctx.options else p.options

theorem current_eq (ctx : Context) (p : Progress) : ctx.current p = .ok (ctx.optionsAt p, p) := by
  rw [Context.current, Context.optionsAt]
  cases ctx.nested <;> rfl

/-- What the letters after an opening question mark ask for. -/
inductive OptionGroup where
  | overall (added : Options)
  | scoped (added removed : Options)

/-- The options to add, from the first letter on, and the character after the letters. -/
def readAdded : (fuel : Nat) → (added : Options) → (c : Char) → Reader (Options × Char)
  | 0, _, _ => refuse
  | fuel + 1, added, c => do
      match Options.ofLetter? c with
      | none => refuse
      | some o =>
          let added := added.plus o
          if o.settlesClasses ∧ added.asciiOnly ∧ added.unicode then refuse
          match ← take with
          | some (.plain next) =>
              if next = ')' ∨ next = '-' ∨ next = ':' then return (added, next)
              else readAdded fuel added next
          | _ => refuse

/-- The options to remove, up to the colon. -/
def readRemoved : (fuel : Nat) → (removed : Options) → Reader Options
  | 0, _ => refuse
  | fuel + 1, removed => do
      match ← take with
      | some (.plain c) =>
          match Options.ofLetter? c with
          | none => refuse
          | some o =>
              if o.settlesClasses then refuse
              let removed := removed.plus o
              if (← takeIf ':') then return removed else readRemoved fuel removed
      | _ => refuse

def readOptions (c : Char) : Reader OptionGroup := do
  let size := (← get).ahead.length
  let (added, close) ← if c = '-' then pure ({}, c) else readAdded (size + 1) {} c
  if close = ')' then return .overall added
  if added.plainOnly then refuse
  let removed ← if close = '-' then readRemoved (size + 1) {} else pure {}
  if removed.plainOnly ∨ added.common removed ≠ {} then refuse
  return .scoped added removed

/-- The number of a group that a condition names. -/
def readCondition : Reader Nat := do
  let name ← takeName ')'
  let p ← get
  let index ←
    if isIdentifier name then
      match p.names.lookup (String.ofList name) with
      | some index => pure index
      | none => refuse
    else
      match Number.readInt (String.ofList name) with
      | .ok (.ofNat (n + 1)) =>
          if 1073741823 ≤ n + 1 then refuse
          set { p with asked := (n + 1) :: p.asked }
          pure (n + 1)
      | _ => refuse
  checkBackwards index
  return index

/-- Skip the tokens of a comment up to its closing parenthesis. -/
def skipComment : (fuel : Nat) → Reader Unit
  | 0 => refuse
  | fuel + 1 => do
      match ← take with
      | none => refuse
      | some t => if t = .plain ')' then return else skipComment fuel

/-- Skip the tokens of a line. -/
def skipLine : (fuel : Nat) → Reader Unit
  | 0 => return
  | fuel + 1 => do
      match ← take with
      | none => return
      | some t => if t = .plain '\n' then return else skipLine fuel

/-- The space that does not count in a verbose expression. -/
def isFiller (c : Char) : Bool := c = ' ' ∨ (0x09 ≤ c.toNat ∧ c.toNat ≤ 0x0D)

/-- Look at text before the place: it has a fixed width and refers to earlier groups only. -/
def readBackwards (body : Reader Node) (negated : Bool) : Reader Node := do
  let outer := (← get).groupsBefore
  if outer = none then modify fun p => { p with groupsBefore := some p.groups.size }
  let node ← body
  if outer = none then modify fun p => { p with groupsBefore := none }
  let p ← get
  let width := node.width (groupWidths p)
  if width.least ≠ width.most ∨ repetitionLimit < width.least then
    set { p with variableBehind := true }
  return .behind negated width.least node

mutual

/-- Alternatives up to a closing parenthesis or the end. -/
def readAlternatives : (fuel : Nat) → Context → Reader Node
  | 0, _ => refuse
  | fuel + 1, ctx => do
      let first ← readSequence fuel ctx []
      if ← takeIf '|' then
        return .alt first (← readAlternatives fuel { ctx with atStart := false })
      else return first

/-- A row of pieces; those `read` are in reverse. -/
def readSequence : (fuel : Nat) → Context → (read : List Piece) → Reader Node
  | 0, _, _ => refuse
  | fuel + 1, ctx, read => do
      let o ← ctx.current
      match ← peek with
      | none | some (.plain '|') | some (.plain ')') => return .ofList (read.reverse.map (·.node))
      | some t =>
          discard take
          match t with
          | .dangling => refuse
          | .escaped c =>
              match anchorEscape? o c with
              | some a => readSequence fuel ctx (⟨.anchor a, .anchor⟩ :: read)
              | none => readSequence fuel ctx (⟨← readEscape o c, .plain⟩ :: read)
          | .plain c =>
              if o.verbose ∧ isFiller c then readSequence fuel ctx read
              else if o.verbose ∧ c = '#' then
                skipLine ((← get).ahead.length + 1)
                readSequence fuel ctx read
              else if c = '[' then readSequence fuel ctx (⟨← readSet o, .plain⟩ :: read)
              else if c = '.' then
                readSequence fuel ctx (⟨.char (if o.dotAll then .any else .notNewline), .plain⟩ :: read)
              else if c = '^' then
                let a := if o.multiline then .lineStart else .textStart
                readSequence fuel ctx (⟨.anchor a, .anchor⟩ :: read)
              else if c = '$' then
                let a := if o.multiline then .lineEnd else .finalLineEnd
                readSequence fuel ctx (⟨.anchor a, .anchor⟩ :: read)
              else if c = '(' then
                match ← readGroup fuel ctx o (read = []) with
                | some node => readSequence fuel ctx (⟨node, .plain⟩ :: read)
                | none => readSequence fuel ctx read
              else
                match ← readQuantifier c with
                | some (least, most) =>
                    readSequence fuel ctx (← repeatLast least most read)
                | none => readSequence fuel ctx (⟨letter o c.toNat, .plain⟩ :: read)

/-- What an opening parenthesis begins; nothing for a comment and for options of the whole
expression. -/
def readGroup : (fuel : Nat) → Context → Options → (noneRead : Bool) → Reader (Option Node)
  | 0, _, _, _ => refuse
  | fuel + 1, ctx, o, noneRead => do
      let body := fun (inner : Options) => readBody fuel inner
      if !(← takeIf '?') then
        let index ← openGroup none
        let node ← body o
        closeGroup index node
        return some (.group index node)
      match ← take with
      | some (.plain ':') => return some (← body o)
      | some (.plain '>') => return some (.atomic (← body o))
      | some (.plain '#') =>
          skipComment ((← get).ahead.length + 1)
          return none
      | some (.plain '=') => return some (.ahead false (← body o))
      | some (.plain '!') => return some (.ahead true (← body o))
      | some (.plain '<') =>
          match ← take with
          | some (.plain '=') => return some (← readBackwards (body o) false)
          | some (.plain '!') => return some (← readBackwards (body o) true)
          | _ => refuse
      | some (.plain '(') =>
          let index ← readCondition
          let inner : Context := ⟨true, false, o⟩
          let yes ← readSequence fuel inner []
          let no ← if ← takeIf '|' then readSequence fuel inner [] else pure .empty
          expect ')'
          return some (.conditional index yes no)
      | some (.plain 'P') =>
          if ← takeIf '<' then
            let name ← takeName '>'
            checkIdentifier name
            let index ← openGroup (some name)
            let node ← body o
            closeGroup index node
            return some (.group index node)
          else if ← takeIf '=' then
            let name ← takeName ')'
            checkIdentifier name
            match (← get).names.lookup (String.ofList name) with
            | some index =>
                referTo index
                return some (.again o.folding index)
            | none => refuse
          else refuse
      | some (.plain c) =>
          match ← readOptions c with
          | .overall added =>
              if ctx.nested ∨ !ctx.atStart ∨ !noneRead then refuse
              modify fun p => { p with options := p.options.plus added }
              return none
          | .scoped added removed => return some (← body (o.within added removed))
      | _ => refuse

/-- The alternatives inside a group, up to its closing parenthesis. -/
def readBody : (fuel : Nat) → Options → Reader Node
  | 0, _ => refuse
  | fuel + 1, inner => do
      let node ← readAlternatives fuel ⟨true, false, inner⟩
      expect ')'
      return node

end

/-- At the end a sequence is made of its pieces. -/
theorem readSequence_end (fuel : Nat) (ctx : Context) (read : List Piece) {p : Progress}
    (ended : p.ahead = []) :
    readSequence (fuel + 1) ctx read p = .ok (.ofList (read.reverse.map (·.node)), p) := by
  rw [readSequence, bind_eq (current_eq ctx p), bind_eq (peek_eq p), ended]
  rfl

/-- What must hold of a whole expression after it was read. -/
def checkWhole : Reader Unit := do
  let p ← get
  if p.options.asciiOnly ∧ p.options.unicode then refuseAs .conflictingOptions
  if p.ahead ≠ [] then refuse
  if p.asked.any (p.groups.size ≤ ·) then refuse
  if p.variableBehind ∨ (p.options.plainOnly ∧ p.repetition) then refuse

/-- Every level of nesting takes four steps and at least one token. -/
def readWhole : Reader Node := do
  checkDangling
  let node ← readAlternatives (4 * (← get).ahead.length + 4) ⟨false, true, {}⟩
  checkWhole
  return node

/-- Read a regular expression under the given options. -/
def parse (options : Options) (source : String) : Except Refusal Regex := do
  let start : Progress := {
    ahead := tokens source.toList, options, groups := #[none], names := [], groupsBefore := none,
    asked := [], repetition := false, variableBehind := false }
  let (node, p) ← readWhole.run start
  return ⟨node, p.groups.size - 1⟩

end SnippetDetect.Regex
