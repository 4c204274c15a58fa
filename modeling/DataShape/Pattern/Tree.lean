/-! Search patterns as trees: what one place of a pattern matches, and how places are combined. Code
points are natural numbers, since a pattern can name one that no text holds. -/

namespace DataShape.Pattern

structure Flags where
  ignoreCase : Bool := false
  multiLine : Bool := false
  dotAll : Bool := false
  verbose : Bool := false
  ascii : Bool := false
  unicode : Bool := false
  template : Bool := false
deriving DecidableEq, Repr

namespace Flags

def empty : Flags := {}

def union (a b : Flags) : Flags :=
  { ignoreCase := a.ignoreCase || b.ignoreCase, multiLine := a.multiLine || b.multiLine
    dotAll := a.dotAll || b.dotAll, verbose := a.verbose || b.verbose, ascii := a.ascii || b.ascii
    unicode := a.unicode || b.unicode, template := a.template || b.template }

def without (a b : Flags) : Flags :=
  { ignoreCase := a.ignoreCase && !b.ignoreCase, multiLine := a.multiLine && !b.multiLine
    dotAll := a.dotAll && !b.dotAll, verbose := a.verbose && !b.verbose
    ascii := a.ascii && !b.ascii, unicode := a.unicode && !b.unicode
    template := a.template && !b.template }

def meets (a b : Flags) : Bool := a.without b != a

def adjust (flags on off : Flags) : Flags :=
  let base := if on.ascii || on.unicode then { flags with ascii := false, unicode := false } else flags
  (base.union on).without off

/-- The flag that a letter stands for. `L` is a letter of its own, for a flag that texts do not have. -/
def ofLetter? (c : Char) : Option Flags :=
  match c with
  | 'i' => some { ignoreCase := true }
  | 'm' => some { multiLine := true }
  | 's' => some { dotAll := true }
  | 'x' => some { verbose := true }
  | 'a' => some { ascii := true }
  | 'u' => some { unicode := true }
  | 't' => some { template := true }
  | 'L' => some {}
  | _ => none

end Flags

inductive Category where
  | digit
  | blank
  | word
deriving DecidableEq, Repr

inductive SetItem where
  | one (code : Nat)
  | range (first last : Nat)
  | category (category : Category) (negated : Bool)
deriving DecidableEq, Repr

inductive Anchor where
  | lineStart
  | lineEnd
  | textStart
  | textEnd
  | boundary
  | noBoundary
deriving DecidableEq, Repr

/-- How many turns a repeat prefers, and whether it gives turns back. -/
inductive RepeatMode where
  | greedy
  | reluctant
  | possessive
deriving DecidableEq, Repr

inductive Node where
  | empty
  | one (code : Nat)
  | notOne (code : Nat)
  | anyOne
  | set (negated : Bool) (items : List SetItem)
  | anchor (place : Anchor)
  | backreference (group : Nat)
  | sequence (first second : Node)
  | either (first second : Node)
  | group (index : Nat) (body : Node)
  | flagged (on off : Flags) (body : Node)
  /-- A part that is not matched in another way once it has matched. -/
  | atomic (body : Node)
  | repeated (mode : RepeatMode) (least : Nat) (most : Option Nat) (body : Node)
  /-- A look at the text behind or ahead. -/
  | look (behind negated : Bool) (body : Node)
  /-- One part if a group has matched, another if not. -/
  | conditional (group : Nat) (yes no : Node)
deriving Repr

namespace Node

def isAnchor : Node → Bool
  | .anchor _ => true
  | _ => false

def isRepeated : Node → Bool
  | .repeated _ _ _ _ => true
  | _ => false

def ofSequence : List Node → Node
  | [] => .empty
  | [item] => item
  | item :: items => .sequence item (ofSequence items)

def ofBranches : List Node → Node
  | [] => .empty
  | [item] => item
  | item :: items => .either item (ofBranches items)

end Node

/-- The fewest and the most characters that a part of a pattern takes up. -/
structure Width where
  least : Nat
  most : Nat
deriving DecidableEq, Repr

/-- Counts of characters are not told apart from here on. -/
def Width.ceiling : Nat := 0x10000000000000000

def Width.add (a b : Width) : Width :=
  ⟨min (a.least + b.least) ceiling, min (a.most + b.most) ceiling⟩

def Node.width (groups : List (Nat × Width)) : Node → Width
  | .empty | .anchor _ | .look _ _ _ => ⟨0, 0⟩
  | .one _ | .notOne _ | .anyOne | .set _ _ => ⟨1, 1⟩
  | .backreference index => (groups.lookup index).getD ⟨0, 0⟩
  | .sequence a b => (a.width groups).add (b.width groups)
  | .either a b =>
    let (a, b) := (a.width groups, b.width groups)
    ⟨min a.least b.least, max a.most b.most⟩
  | .group _ body | .flagged _ _ body | .atomic body => body.width groups
  | .repeated _ least most body =>
    let w := body.width groups
    let longest := match most with
      | some most => w.most * most
      | none => if w.most = 0 then 0 else Width.ceiling
    ⟨min (w.least * least) Width.ceiling, min longest Width.ceiling⟩
  | .conditional _ yes no =>
    let (a, b) := (yes.width groups, no.width groups)
    ⟨min a.least b.least, max a.most b.most⟩

end DataShape.Pattern
