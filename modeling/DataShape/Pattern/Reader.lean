import DataShape.Pattern.Opening

/-! Reading a pattern: token by token, with a stack of the groups that are open. -/

namespace DataShape.Pattern

/-- What a group on the stack becomes when it is closed. -/
inductive Pending where
  | capture (index : Nat)
  | plain (on off : Flags)
  | atomic
  /-- `outermost` if no other look behind is open around it. -/
  | look (behind negated outermost : Bool)
  | condition (group : Nat)
  /-- The part for the case that the group has matched is done. -/
  | alternative (group : Nat) (yes : Node)
deriving Repr

/-- An open group, and what had been read around it. -/
structure Frame where
  pending : Pending
  /-- The position of its parenthesis. -/
  start : Nat
  items : List Node
  branches : List Node
  verbose : Bool
deriving Repr

/-- What has been read of a pattern. Items and branches are those of the innermost open group, the last
first. -/
structure State where
  flags : Flags := {}
  groups : Groups := {}
  /-- The groups that conditions ask for by number, and where. -/
  conditions : List (Nat × Nat) := []
  frames : List Frame := []
  items : List Node := []
  branches : List Node := []
  verbose : Bool := false
deriving Repr

namespace State

def push (st : State) (item : Node) : State := { st with items := item :: st.items }

def branch (st : State) : Node := .ofSequence st.items.reverse

def body (st : State) : Node := .ofBranches (st.branches.reverse ++ [st.branch])

def enter (st : State) (pending : Pending) (start : Nat) (verbose : Bool) : State :=
  { st with
    frames := ⟨pending, start, st.items, st.branches, st.verbose⟩ :: st.frames
    items := [], branches := [], verbose }

def capture (source : Source) (st : State) (name : Option (List Char)) (start : Nat) (rest : List Token) :
    Except Fault State := do
  let index := st.groups.count
  let names ← match name with
    | none => pure st.groups.names
    | some name =>
      let key := String.ofList name
      match st.groups.names.lookup key with
      | some earlier =>
        throw (source.faultBack rest (.repeatedGroupName name index earlier) (name.length + 1))
      | none => pure ((key, index) :: st.groups.names)
  let groups := { st.groups with count := index + 1, names }
  return { st with groups }.enter (.capture index) start st.verbose

def openGroup (source : Source) (st : State) (start : Nat) (rest : List Token) :
    Except Fault (State × List Token) := do
  let (opening, rest) ← readOpening source st.groups start rest
  match opening with
  | .capture name => return (← st.capture source name start rest, rest)
  | .plain on off => return (st.enter (.plain on off) start ((st.verbose || on.verbose) && !off.verbose), rest)
  | .atomic => return (st.enter .atomic start st.verbose, rest)
  | .look behind negated =>
    let outermost := behind && st.groups.lookBehindFrom.isNone
    let groups := if outermost then { st.groups with lookBehindFrom := some st.groups.count } else st.groups
    return ({ st with groups }.enter (.look behind negated outermost) start st.verbose, rest)
  | .condition group position =>
    let conditions := match position with
      | some position => st.conditions ++ [(group, position)]
      | none => st.conditions
    return ({ st with conditions }.enter (.condition group) start st.verbose, rest)
  | .backreference group => return (st.push (.backreference group), rest)
  | .comment => return (st, rest)
  | .flags on =>
    if !st.frames.isEmpty || !st.branches.isEmpty || !st.items.isEmpty then
      throw (source.fault rest .flagsNotFirst start)
    let flags := st.flags.union on
    return ({ st with flags, verbose := flags.verbose }, rest)

def close (st : State) (frame : Frame) (frames : List Frame) : State :=
  let body := st.body
  let outer := { st with
    frames, items := frame.items, branches := frame.branches, verbose := frame.verbose }
  match frame.pending with
  | .capture index =>
    let widths := (index, body.width st.groups.widths) :: st.groups.widths
    { outer with groups := { st.groups with widths } }.push (.group index body)
  | .plain on off => outer.push (.flagged on off body)
  | .atomic => outer.push (.atomic body)
  | .look behind negated outermost =>
    let groups := if outermost then { st.groups with lookBehindFrom := none } else st.groups
    { outer with groups }.push (.look behind negated body)
  | .condition group => outer.push (.conditional group body .empty)
  | .alternative group yes => outer.push (.conditional group yes body)

def bar (source : Source) (st : State) (t : Token) (rest : List Token) : Except Fault State :=
  match st.frames with
  | [] => .ok { st with branches := st.branch :: st.branches, items := [], verbose := st.flags.verbose }
  | frame :: frames =>
    match frame.pending with
    | .condition group =>
      .ok { st with
        frames := { frame with pending := .alternative group st.branch } :: frames, items := [] }
    | .alternative _ _ => .error (source.fault (t :: rest) .tooManyBranches t.start)
    | _ => .ok { st with branches := st.branch :: st.branches, items := [] }

end State

/-- The largest repeat count, and one. -/
def repeatLimit : Nat := 4294967295

def repeatCount (source : Source) (digits : List Char) (rest : List Token) : Except Fault Nat :=
  let tooMany : Fault :=
    if source.dangling && rest.isEmpty then source.fault rest .danglingEscape 0
    else if digitLimit < digits.length then .tooManyDigits digits.length
    else .repetitionTooLarge
  if digitLimit < digits.length then .error tooMany
  else
    let n := readDecimal digits
    if repeatLimit ≤ n then .error tooMany else .ok n

/-- The bounds that a quantifier gives, and what follows it; `none` for a brace that is no quantifier. -/
def readBounds (source : Source) (t : Token) (rest : List Token) :
    Except Fault (Option (Nat × Option Nat × List Token)) := do
  if t.is '?' then return some (0, some 1, rest)
  if t.is '*' then return some (0, none, rest)
  if t.is '+' then return some (1, none, rest)
  if (follow? '\x7d' rest).isSome then return none
  let (low, after) := Source.takeWhile Char.isDigit rest.length rest
  let (high, after) := match follow? ',' after with
    | some after => Source.takeWhile Char.isDigit after.length after
    | none => (low, after)
  match follow? '\x7d' after with
  | none =>
    -- everything up to the end has been looked at
    if after.isEmpty && source.dangling then throw (source.fault [] .danglingEscape 0)
    return none
  | some after =>
    let least ← if low.isEmpty then pure 0 else repeatCount source low after
    let most ← if high.isEmpty then pure none else some <$> repeatCount source high after
    if most.any (· < least) then
      throw (source.fault after .minimumAboveMaximum (source.position rest))
    return some (least, most, after)

def readRepeat (source : Source) (st : State) (t : Token) (rest : List Token) :
    Except Fault (State × List Token) := do
  match ← readBounds source t rest with
  | none => return (st.push (.one t.char.toNat), rest)
  | some (least, most, after) =>
    match st.items with
    | [] => throw (source.fault after .nothingToRepeat t.start)
    | item :: items =>
      if item.isAnchor then throw (source.fault after .nothingToRepeat t.start)
      if item.isRepeated then throw (source.fault after .repeatedTwice t.start)
      let (mode, after) := match follow? '?' after, follow? '+' after with
        | some after, _ => (RepeatMode.reluctant, after)
        | none, some after => (.possessive, after)
        | none, none => (.greedy, after)
      return ({ st with items := .repeated mode least most item :: items }, after)

def isPatternBlank (c : Char) : Bool :=
  c == ' ' || c == '\t' || c == '\n' || c == '\r' || c == '\x0b' || c == '\x0c'

/-- Reads what starts at the token `t`, which is neither a bar nor a closing parenthesis. -/
def readItem (source : Source) (st : State) (t : Token) (rest : List Token) :
    Except Fault (State × List Token) := do
  if rest.isEmpty && source.dangling then throw (source.fault [] .danglingEscape 0)
  if t.escaped then
    let (item, rest) ← readEscape source st.groups t rest
    return (st.push item, rest)
  if st.verbose && isPatternBlank t.char then return (st, rest)
  if st.verbose && t.char = '#' then
    return (st, (rest.dropWhile fun u => !u.is '\n').drop 1)
  match t.char with
  | '[' =>
    let (item, rest) ← readSet source t rest
    return (st.push item, rest)
  | '?' | '*' | '+' | '\x7b' => readRepeat source st t rest
  | '.' => return (st.push .anyOne, rest)
  | '^' => return (st.push (.anchor .lineStart), rest)
  | '$' => return (st.push (.anchor .lineEnd), rest)
  | '(' => st.openGroup source t.start rest
  | c => return (st.push (.one c.toNat), rest)

/-- Reads the whole pattern. The answer is the final state, and the position of a parenthesis that
closes nothing. Every turn reads a token, so as many turns as there are tokens are enough. -/
def readAll (source : Source) : Nat → State → List Token → Except Fault (State × Option Nat)
  | 0, st, _ => .ok (st, none)
  | _ + 1, st, [] =>
    match st.frames with
    | [] => .ok (st, none)
    | frame :: _ => .error (source.fault [] .unterminatedGroup frame.start)
  | turns + 1, st, t :: rest => do
    if t.is ')' then
      match st.frames with
      | [] => return (st, some t.start)
      | frame :: frames =>
        if rest.isEmpty && source.dangling then throw (source.fault [] .danglingEscape 0)
        readAll source turns (st.close frame frames) rest
    else
      let (st, rest) ← if t.is '|' then (·, rest) <$> st.bar source t rest else readItem source st t rest
      if rest.isEmpty && source.dangling then throw (source.fault [] .danglingEscape 0)
      readAll source turns st rest

end DataShape.Pattern
