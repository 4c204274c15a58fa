import DataShape.Pattern.Tree
import DataShape.Text.CharacterClass
import DataShape.Text.LetterCase

/-! Matching: what a pattern matches from a place of a text on. A match goes on with what comes after
it, so an alternative is tried again when what follows fails. -/

namespace DataShape.Pattern

/-- The characters of a class. Outside full text only ASCII characters belong to one. -/
def Category.contains (unicode : Bool) (category : Category) (c : Nat) : Bool :=
  match category with
  | .digit => if unicode then CodePoint.isDecimal c else 0x30 ≤ c && c ≤ 0x39
  | .blank => if unicode then CodePoint.isBlank c else c == 0x20 || (0x9 ≤ c && c ≤ 0xd)
  | .word => if unicode then CodePoint.isWord c else c < 0x80 && CodePoint.isWord c

/-- The last code point of the basic plane. -/
def basicPlaneEnd : Nat := 0xffff

/-- Letter case as a part of a pattern sees it. -/
structure CaseRule where
  lower : Nat → Nat
  isCased : Nat → Bool
  /-- The code points that have this lower case. -/
  raised : Nat → List Nat
  /-- The lower-case code points that are read as this one, itself first. -/
  companions : Nat → List Nat
  /-- Some code point of a range has another case. -/
  casedWithin : Nat → Nat → Bool

namespace CaseRule

/-- The first code point from `first` on that a row covers is at most `last`. -/
def rowMeets (row : CaseRow) (first last : Nat) : Bool :=
  let start := if first ≤ row.first then row.first
    else row.first + (first - row.first + row.step - 1) / row.step * row.step
  start ≤ row.last && start ≤ last

def full : CaseRule where
  lower := LetterCase.lower
  isCased := LetterCase.isCased
  raised := LetterCase.raised
  companions := LetterCase.companions
  casedWithin first last :=
    LetterCase.lowerRows.any (rowMeets · first last) || LetterCase.upperRows.any (rowMeets · first last)

def ascii : CaseRule where
  lower := LetterCase.lowerAscii
  isCased := LetterCase.isCasedAscii
  raised := LetterCase.raisedAscii
  companions c := [c]
  casedWithin first last := (first ≤ 0x5a && 0x41 ≤ last) || (first ≤ 0x7a && 0x61 ≤ last)

def sameLetter (rule : CaseRule) (code c : Nat) : Bool :=
  if rule.isCased code then (rule.companions (rule.lower code)).contains (rule.lower c) else code == c

/-- An item of a set has another case. Of what lies beyond the basic plane this is always assumed. -/
def casedItem (rule : CaseRule) : SetItem → Bool
  | .one code => rule.isCased code || basicPlaneEnd < rule.lower code
  | .range first last => rule.casedWithin first (min last basicPlaneEnd) || basicPlaneEnd < last
  | .category _ _ => false

/-- A lower-case code point belongs to an item. In the basic plane every code point of the item is read
in lower case; beyond it a single one is read as it is, and a range by both cases. -/
def itemContains (rule : CaseRule) (unicode : Bool) (c : Nat) : SetItem → Bool
  | .one code =>
    if rule.lower code ≤ basicPlaneEnd then (rule.companions (rule.lower code)).contains c else code == c
  | .range first last =>
    (rule.companions c).any (fun d => (rule.raised d).any fun e =>
      first ≤ e && e ≤ last && e ≤ basicPlaneEnd)
    || (basicPlaneEnd < last && ((first ≤ c && c ≤ last)
      || (first ≤ LetterCase.upper c && LetterCase.upper c ≤ last)))
  | .category kind negated => kind.contains unicode c != negated

end CaseRule

namespace Flags

def caseRule? (flags : Flags) : Option CaseRule :=
  if flags.ignoreCase then some (if flags.unicode then .full else .ascii) else none

end Flags

namespace SetItem

def contains (unicode : Bool) (c : Nat) : SetItem → Bool
  | .one code => code == c
  | .range first last => first ≤ c && c ≤ last
  | .category kind negated => kind.contains unicode c != negated

end SetItem

def itemsContain (flags : Flags) (items : List SetItem) (c : Nat) : Bool :=
  match flags.caseRule? with
  | some rule =>
    if items.any rule.casedItem then items.any (rule.itemContains flags.unicode (rule.lower c))
    else items.any (·.contains flags.unicode c)
  | none => items.any (·.contains flags.unicode c)

def codeMatches (flags : Flags) (code c : Nat) : Bool :=
  match flags.caseRule? with
  | some rule => rule.sameLetter code c
  | none => code == c

/-- A place of the text, and where groups have started and ended, the last first. -/
structure Place where
  position : Nat
  starts : List (Nat × Nat) := []
  ends : List (Nat × Nat) := []
deriving Repr

/-- Goes on from a place; `none` if no match comes of it. -/
abbrev Continuation := Place → Option Place

namespace Place

def group? (p : Place) (index : Nat) : Option (Nat × Nat) :=
  match p.starts.lookup index, p.ends.lookup index with
  | some start, some stop => if start ≤ stop then some (start, stop) else none
  | _, _ => none

def advance (p : Place) (n : Nat) : Place := { p with position := p.position + n }

end Place

def repeatsPart (flags : Flags) (text : Array Char) (start stop position : Nat) : Bool :=
  (List.range (stop - start)).all fun i =>
    match text[start + i]?, text[position + i]? with
    | some a, some b => match flags.caseRule? with
      | some rule => rule.lower a.toNat == rule.lower b.toNat
      | none => a == b
    | _, _ => false

def wordAt (flags : Flags) (text : Array Char) (position : Nat) : Bool :=
  match text[position]? with
  | some c => Category.word.contains flags.unicode c.toNat
  | none => false

/-- The place is a place of this kind. An empty text has no word boundaries, nor places that are none. -/
def Anchor.holds (flags : Flags) (text : Array Char) (position : Nat) : Anchor → Bool
  | .lineStart => position == 0 || (flags.multiLine && text[position - 1]? == some '\n')
  | .lineEnd => position == text.size
      || (text[position]? == some '\n' && (flags.multiLine || position + 1 == text.size))
  | .textStart => position == 0
  | .textEnd => position == text.size
  | .boundary => text.size != 0
      && (position != 0 && wordAt flags text (position - 1)) != wordAt flags text position
  | .noBoundary => text.size != 0
      && (position != 0 && wordAt flags text (position - 1)) == wordAt flags text position

def oneCharacter (text : Array Char) (test : Nat → Bool) (k : Continuation) : Continuation := fun p =>
  match text[p.position]? with
  | some c => if test c.toNat then k (p.advance 1) else none
  | none => none

/-- Another turn of a repeat is allowed: there are not too many, and the last optional one did not begin
here. -/
def mayRepeat (most : Option Nat) (count : Nat) (last : Option Nat) (p : Place) : Bool :=
  most.all (count < ·) && last != some p.position

/-- Turns of a repeat, as many as possible first. The first argument bounds the number of turns. -/
def greedily (turn : Continuation → Continuation) (least : Nat) (most : Option Nat) (k : Continuation) :
    Nat → Nat → Option Nat → Continuation
  | 0, _, _ => k
  | turns + 1, count, last => fun p =>
    if count < least then turn (greedily turn least most k turns (count + 1) last) p
    else if mayRepeat most count last p then
      match turn (greedily turn least most k turns (count + 1) (some p.position)) p with
      | some found => some found
      | none => k p
    else k p

/-- Turns of a repeat, as few as possible first. The first argument bounds the number of turns. -/
def reluctantly (turn : Continuation → Continuation) (least : Nat) (most : Option Nat) (k : Continuation) :
    Nat → Nat → Option Nat → Continuation
  | 0, _, _ => k
  | turns + 1, count, last => fun p =>
    if count < least then turn (reluctantly turn least most k turns (count + 1) last) p
    else match k p with
      | some found => some found
      | none =>
        if mayRepeat most count last p then
          turn (reluctantly turn least most k turns (count + 1) (some p.position)) p
        else none

/-- Turns of a repeat, as many as possible and none given back. The first argument bounds their number. -/
def possessively (turn : Continuation) (least : Nat) (most : Option Nat) :
    Nat → Nat → Option Nat → Continuation
  | 0, _, _ => some
  | turns + 1, count, last => fun p =>
    if count < least then
      match turn p with
      | some q => possessively turn least most turns (count + 1) last q
      | none => none
    else if mayRepeat most count last p then
      match turn p with
      | some q => possessively turn least most turns (count + 1) (some p.position) q
      | none => some p
    else some p

/-- Every optional turn but the last moves on in the text, so this many turns are enough. -/
def turnBound (text : Array Char) (least : Nat) : Nat := least + text.size + 2

/-- Matches a part of a pattern, going on with `k`. `groups` are the widths of the groups. -/
def Node.run (groups : List (Nat × Width)) (text : Array Char) :
    Flags → Node → Continuation → Continuation
  | _, .empty, k => k
  | flags, .one code, k => oneCharacter text (codeMatches flags code) k
  | flags, .notOne code, k => oneCharacter text (fun c => !codeMatches flags code c) k
  | flags, .anyOne, k => oneCharacter text (fun c => flags.dotAll || c != 0xa) k
  | flags, .set negated items, k => oneCharacter text (fun c => itemsContain flags items c != negated) k
  | flags, .anchor place, k => fun p => if place.holds flags text p.position then k p else none
  | flags, .backreference index, k => fun p =>
    match p.group? index with
    | some (start, stop) =>
      if repeatsPart flags text start stop p.position then k (p.advance (stop - start)) else none
    | none => none
  | flags, .sequence a b, k => a.run groups text flags (b.run groups text flags k)
  | flags, .either a b, k => fun p =>
    match a.run groups text flags k p with
    | some found => some found
    | none => b.run groups text flags k p
  | flags, .group index body, k => fun p =>
    let leave : Continuation := fun q => k { q with ends := (index, q.position) :: q.ends }
    body.run groups text flags leave { p with starts := (index, p.position) :: p.starts }
  | flags, .flagged on off body, k => body.run groups text (flags.adjust on off) k
  | flags, .atomic body, k => fun p => (body.run groups text flags some p).bind k
  | flags, .repeated mode least most body, k => fun p =>
    match mode with
    | .greedy => greedily (body.run groups text flags) least most k (turnBound text least) 0 none p
    | .reluctant => reluctantly (body.run groups text flags) least most k (turnBound text least) 0 none p
    | .possessive =>
      (possessively (body.run groups text flags some) least most (turnBound text least) 0 none p).bind k
  | flags, .look behind negated body, k => fun p =>
    let back := if behind then (body.width groups).least else 0
    let found := if p.position < back then none
      else body.run groups text flags some { p with position := p.position - back }
    match found with
    | some q => if negated then none else k { q with position := p.position }
    | none => if negated then k p else none
  | flags, .conditional index yes no, k => fun p =>
    match p.group? index with
    | some _ => yes.run groups text flags k p
    | none => no.run groups text flags k p

end DataShape.Pattern
