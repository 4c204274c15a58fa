import DataShape.Pattern.Match
import DataShape.Pattern.Reader

/-! Patterns that are ready for use, and the search for a match anywhere in a text. -/

namespace DataShape.Pattern

def RepeatMode.quantifier : RepeatMode → String
  | .greedy => "MAX_REPEAT"
  | .reluctant => "MIN_REPEAT"
  | .possessive => "POSSESSIVE_REPEAT"

/-- A look behind looks back less than this. -/
def lookBehindLimit : Nat := 0x100000000

/-- What a pattern that can be read holds that cannot be matched: repeats in a template, and looks
behind without a fixed width. -/
def Node.unusable? (groups : List (Nat × Width)) (template : Bool) : Node → Option Reason
  | .sequence a b | .either a b | .conditional _ a b =>
    match a.unusable? groups template with
    | some reason => some reason
    | none => b.unusable? groups template
  | .group _ body | .flagged _ _ body | .atomic body => body.unusable? groups template
  | .repeated mode _ _ body =>
    if template then some (.repeatInTemplate mode.quantifier) else body.unusable? groups template
  | .look behind _ body =>
    let w := body.width groups
    if behind && lookBehindLimit ≤ w.least then some .longLookBehind
    else if behind && w.least != w.most then some .variableLookBehind
    else body.unusable? groups template
  | _ => none

structure Compiled where
  flags : Flags
  groups : List (Nat × Width)
  root : Node
deriving Repr

def compile (pattern : String) : Except Fault Compiled := do
  let cs := pattern.toList
  let (tokens, dangling) := tokensFrom 0 cs
  let source : Source := ⟨cs.length, dangling⟩
  if dangling && tokens.isEmpty then throw (source.fault [] .danglingEscape 0)
  let (st, unbalanced) ← readAll source (tokens.length + 1) {} tokens
  if st.flags.ascii && st.flags.unicode then throw .conflictingFlags
  if let some position := unbalanced then throw (.malformed ⟨.unbalancedGroup, some position⟩)
  if let some (index, position) := st.conditions.find? fun c => st.groups.count ≤ c.1 then
    throw (.malformed ⟨.invalidGroup index, some position⟩)
  let flags := { st.flags with unicode := !st.flags.ascii }
  let root := st.body
  match root.unusable? st.groups.widths flags.template with
  | some reason => throw (.malformed ⟨reason, none⟩)
  | none => return { flags, groups := st.groups.widths, root }

def Compiled.matchesAt (pattern : Compiled) (text : Array Char) (position : Nat) : Bool :=
  (pattern.root.run pattern.groups text pattern.flags some { position }).isSome

def Compiled.search (pattern : Compiled) (text : String) : Bool :=
  let cs := text.toList.toArray
  (List.range (cs.size + 1)).any (pattern.matchesAt cs)

end DataShape.Pattern
