import SnippetDetect.Regex.Basic

/-!
Matching.

A node is a step: from a spot in the text it goes on, through a continuation, to each spot
it can reach, and takes the first one from which the rest succeeds. The order in which
spots are tried is that of the expression: the first alternative first, a greedy
repetition the longest way first.

A repetition that is optional does not begin at the spot where the one before it began,
so it matches nothing at most once in a row, and no loop goes on for longer than the text.
-/

namespace SnippetDetect.Regex

open SnippetDetect.Text

/-- Where each group last began and ended, two places a group. -/
abbrev Marks := Array (Option Nat)

/-- The text that a group matched: from its start to its end, which are in this order. -/
def Marks.span? (marks : Marks) (index : Nat) : Option (Nat × Nat) :=
  match marks.getD (2 * index) none, marks.getD (2 * index + 1) none with
  | some first, some last => if first ≤ last then some (first, last) else none
  | _, _ => none

/-- A place in the text together with the groups matched so far. -/
structure Spot where
  pos : Nat
  marks : Marks

/-- What is matched from a spot on, if it is. -/
abbrev Rest := Spot → Option Spot

/-- The first success of two. -/
def orElse (first : Option Spot) (second : Unit → Option Spot) : Option Spot :=
  match first with
  | some s => some s
  | none => second ()

/-! ### Anchors -/

/-- Whether a word character stands at a place; outside the text there is none. -/
def wordAt (text : Array Point) (asciiOnly : Bool) (pos : Nat) : Bool :=
  match text[pos]? with
  | some p => Category.word.contains asciiOnly p
  | none => false

/-- Whether a word begins or ends at a place. -/
def wordEdge (text : Array Point) (asciiOnly : Bool) (pos : Nat) : Bool :=
  (0 < pos && wordAt text asciiOnly (pos - 1)) != wordAt text asciiOnly pos

/-- Whether a place is the one an anchor asks for. In a text without characters no place is at a
word boundary and none is away from one. -/
def Anchor.holds (text : Array Point) (pos : Nat) : Anchor → Bool
  | .textStart => pos = 0
  | .textEnd => pos = text.size
  | .finalLineEnd => pos = text.size || (pos + 1 = text.size && text[pos]? = some (.char '\n'))
  | .lineStart => pos = 0 || text[pos - 1]? = some (.char '\n')
  | .lineEnd => pos = text.size || text[pos]? = some (.char '\n')
  | .boundary asciiOnly => 0 < text.size && wordEdge text asciiOnly pos
  | .noBoundary asciiOnly => 0 < text.size && !wordEdge text asciiOnly pos

/-! ### Repetition of one code point -/

/-- How many code points in a row pass a test, at most `limit`. -/
def runLength (text : Array Point) (test : CharTest) : (limit pos : Nat) → Nat
  | 0, _ => 0
  | limit + 1, pos =>
      match text[pos]? with
      | some p => if test.accepts p then runLength text test limit (pos + 1) + 1 else 0
      | none => 0

/-- Try the numbers from one down to the least. -/
def tryDown (goOn : Nat → Option Spot) (least : Nat) : Nat → Option Spot
  | 0 => if least = 0 then goOn 0 else none
  | n + 1 =>
      if n + 1 < least then none
      else orElse (goOn (n + 1)) fun _ => tryDown goOn least n

/-- Try the numbers from one up, `more` of them after the first. -/
def tryUp (goOn : Nat → Option Spot) : (more n : Nat) → Option Spot
  | 0, n => goOn n
  | more + 1, n => orElse (goOn n) fun _ => tryUp goOn more (n + 1)

def runStep (text : Array Point) (greed : Greed) (min : Nat) (max : Option Nat) (test : CharTest)
    (rest : Rest) (s : Spot) : Option Spot :=
  let ahead := text.size - s.pos
  let length := runLength text test (max.elim ahead (Min.min ahead)) s.pos
  let goOn := fun n => rest { s with pos := s.pos + n }
  if length < min then none
  else match greed with
    | .greedy => tryDown goOn min length
    | .lazy => tryUp goOn (length - min) min
    | .possessive => goOn length

/-! ### Repetition -/

/-- Whether one more repetition may follow `count` of them, the last of which began at `last`. -/
def mayRepeat (max : Option Nat) (count : Nat) (last : Option Nat) (s : Spot) : Bool :=
  (match max with
    | some n => count < n
    | none => true) && last ≠ some s.pos

/-- As many repetitions as possible first. -/
def greedyLoop (body : Rest → Rest) (min : Nat) (max : Option Nat) (rest : Rest) :
    (fuel count : Nat) → (last : Option Nat) → Rest
  | 0, _, _, _ => none
  | fuel + 1, count, last, s =>
      if count < min then body (greedyLoop body min max rest fuel (count + 1) last) s
      else if mayRepeat max count last s then
        orElse (body (greedyLoop body min max rest fuel (count + 1) (some s.pos)) s) fun _ => rest s
      else rest s

/-- As few repetitions as possible first. -/
def lazyLoop (body : Rest → Rest) (min : Nat) (max : Option Nat) (rest : Rest) :
    (fuel count : Nat) → (last : Option Nat) → Rest
  | 0, _, _, _ => none
  | fuel + 1, count, last, s =>
      if count < min then body (lazyLoop body min max rest fuel (count + 1) last) s
      else orElse (rest s) fun _ =>
        if mayRepeat max count last s then
          body (lazyLoop body min max rest fuel (count + 1) (some s.pos)) s
        else none

/-- As many repetitions as there are, each matched the first way only. -/
def possessiveLoop (once : Rest) (min : Nat) (max : Option Nat) :
    (fuel count : Nat) → (last : Option Nat) → Rest
  | 0, _, _, _ => none
  | fuel + 1, count, last, s =>
      if count < min then (once s).bind (possessiveLoop once min max fuel (count + 1) last)
      else if mayRepeat max count last s then
        match once s with
        | some t => possessiveLoop once min max fuel (count + 1) (some s.pos) t
        | none => some s
      else some s

/-- The required repetitions, one for each code point left, one that matches nothing and the end. -/
def loopFuel (text : Array Point) (min : Nat) (s : Spot) : Nat := min + (text.size - s.pos) + 2

/-! ### Nodes -/

/-- Whether the text at a place repeats the one from `first` on, for so many code points. -/
def repeats (text : Array Point) (folding : Folding) : (length first pos : Nat) → Bool
  | 0, _, _ => true
  | length + 1, first, pos =>
      match text[first]?, text[pos]? with
      | some a, some b =>
          folding.lower a.toNat == folding.lower b.toNat &&
            repeats text folding length (first + 1) (pos + 1)
      | _, _ => false

def Node.step (text : Array Point) : Node → (rest : Rest) → Rest
  | .empty, rest => rest
  | .char test, rest => fun s =>
      match text[s.pos]? with
      | some p => if test.accepts p then rest { s with pos := s.pos + 1 } else none
      | none => none
  | .anchor place, rest => fun s => if place.holds text s.pos then rest s else none
  | .seq a b, rest => a.step text (b.step text rest)
  | .alt a b, rest => fun s => orElse (a.step text rest s) fun _ => b.step text rest s
  | .group index body, rest => fun s =>
      body.step text
        (fun t => rest { t with marks := t.marks.setIfInBounds (2 * index + 1) (some t.pos) })
        { s with marks := s.marks.setIfInBounds (2 * index) (some s.pos) }
  | .again folding index, rest => fun s =>
      match s.marks.span? index with
      | some (first, last) =>
          if repeats text folding (last - first) first s.pos then
            rest { s with pos := s.pos + (last - first) }
          else none
      | none => none
  | .conditional index yes no, rest => fun s =>
      match s.marks.span? index with
      | some _ => yes.step text rest s
      | none => no.step text rest s
  | .ahead negated body, rest => fun s =>
      match body.step text some s, negated with
      | some t, false => rest { t with pos := s.pos }
      | none, true => rest s
      | _, _ => none
  | .behind negated width body, rest => fun s =>
      let found :=
        if width ≤ s.pos then body.step text some { s with pos := s.pos - width } else none
      match found, negated with
      | some t, false => rest { t with pos := s.pos }
      | none, true => rest s
      | _, _ => none
  | .atomic body, rest => fun s => (body.step text some s).bind rest
  | .run greed min max test, rest => runStep text greed min max test rest
  | .loop greed min max body, rest => fun s =>
      let fuel := loopFuel text min s
      match greed with
      | .greedy => greedyLoop (body.step text) min max rest fuel 0 none s
      | .lazy => lazyLoop (body.step text) min max rest fuel 0 none s
      | .possessive => (possessiveLoop (body.step text some) min max fuel 0 none s).bind rest

/-- Where a match that begins at a place ends. -/
def matchEnd? (r : Regex) (text : Array Point) (start : Nat) : Option Nat :=
  (r.node.step text some ⟨start, Array.replicate (2 * r.groups + 2) none⟩).map (·.pos)

/-- Whether the expression matches somewhere. -/
def occursIn (r : Regex) (text : Array Point) : Bool :=
  (List.range (text.size + 1)).any fun start => (r.matchEnd? text start).isSome

end SnippetDetect.Regex
