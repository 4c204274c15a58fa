import DataShape.Pattern.CharacterSet

/-! What follows an opening parenthesis: the kind of group that it opens, or something that stands in
parentheses but is no group. -/

namespace DataShape.Pattern

inductive Opening where
  | capture (name : Option (List Char))
  | plain (on off : Flags)
  | atomic
  | look (behind negated : Bool)
  /-- The part for the case that a group has matched follows. A group given by number may be a later
  one, so its place in the pattern is kept. -/
  | condition (group : Nat) (position : Option Nat)
  | backreference (group : Nat)
  | comment
  | flags (on : Flags)
deriving Repr

/-- Numbers of groups are below this. -/
def groupLimit : Nat := 1073741823

def need (source : Source) (reason : Reason) : List Token → Except Fault (Token × List Token)
  | [] => .error (source.faultBack [] reason 0)
  | t :: ts => .ok (t, ts)

/-- A flag letter; another character is a fault, for a letter an unknown flag. -/
def flagOf (source : Source) (t : Token) (rest : List Token) (otherwise : Reason) : Except Fault Flags :=
  match if t.escaped then none else Flags.ofLetter? t.char with
  | some flag => .ok flag
  | none =>
    let unknown := !t.escaped && CodePoint.isLetter t.char.toNat
    .error (source.faultBack rest (if unknown then .unknownFlag else otherwise) t.text.length)

/-- Flags turned on, up to a closing parenthesis, a minus sign or a colon. Every turn reads a token. -/
def readFlagsOn (source : Source) :
    Nat → Flags → Token → List Token → Except Fault (Flags × Char × List Token)
  | 0, _, _, rest => .error (source.faultBack rest .missingFlagEnd 0)
  | turns + 1, on, t, rest => do
    let flag ← flagOf source t rest .missingFlagEnd
    if t.char = 'L' then throw (source.faultBack rest .localeFlag 0)
    let on := on.union flag
    if (flag.ascii || flag.unicode) && on.ascii && on.unicode then
      throw (source.faultBack rest .incompatibleFlags 0)
    let (t, rest) ← need source .missingFlagEnd rest
    if t.is ')' || t.is '-' || t.is ':' then return (on, t.char, rest)
    readFlagsOn source turns on t rest

/-- Flags turned off, up to a colon. Every turn reads a token. -/
def readFlagsOff (source : Source) :
    Nat → Flags → Token → Reason → List Token → Except Fault (Flags × List Token)
  | 0, _, _, _, rest => .error (source.faultBack rest .missingColon 0)
  | turns + 1, off, t, otherwise, rest => do
    let flag ← flagOf source t rest otherwise
    if flag.ascii || flag.unicode || t.char = 'L' then throw (source.faultBack rest .typeFlagOff 0)
    let off := off.union flag
    let (t, rest) ← need source .missingColon rest
    if t.is ':' then return (off, rest)
    readFlagsOff source turns off t .missingColon rest

def readFlags (source : Source) (t : Token) (rest : List Token) : Except Fault (Opening × List Token) := do
  let (on, closing, rest) ←
    if t.is '-' then pure (Flags.empty, '-', rest)
    else readFlagsOn source (rest.length + 1) .empty t rest
  if closing = ')' then return (.flags on, rest)
  if on.template then throw (source.faultBack rest .globalFlagOn 1)
  let (off, rest) ←
    if closing = '-' then do
      let (t, rest) ← need source .missingFlag rest
      readFlagsOff source (rest.length + 1) .empty t .missingFlag rest
    else pure (Flags.empty, rest)
  if off.template then throw (source.faultBack rest .globalFlagOff 1)
  if on.meets off then throw (source.faultBack rest .flagOnAndOff 1)
  return (.plain on off, rest)

def readGroupName (source : Source) (terminator : Char) (rest : List Token) :
    Except Fault (List Char × List Token) := do
  let (name, rest) ← source.takeUntil terminator "group name" [] rest
  if !isName name then throw (source.faultBack rest (.badGroupName name) (name.length + 1))
  return (name, rest)

def readNamedReference (source : Source) (groups : Groups) (rest : List Token) :
    Except Fault (Opening × List Token) := do
  let (name, rest) ← readGroupName source ')' rest
  match groups.names.lookup (String.ofList name) with
  | none => throw (source.faultBack rest (.unknownGroupName name) (name.length + 1))
  | some index =>
    if !groups.isClosed index then throw (source.faultBack rest .openGroup (name.length + 1))
    match groups.lookBehindFault? index with
    | some reason => throw (source.faultBack rest reason 0)
    | none => return (.backreference index, rest)

/-- The group of a condition, by name or by number. A number may be that of a later group. -/
def readCondition (source : Source) (groups : Groups) (rest : List Token) :
    Except Fault (Opening × List Token) := do
  let (name, rest) ← source.takeUntil ')' "group name" [] rest
  let fault (reason : Reason) := source.faultBack rest reason (name.length + 1)
  let (index, position) ←
    if isName name then
      match groups.names.lookup (String.ofList name) with
      | some index => pure (index, none)
      | none => throw (fault (.unknownGroupName name))
    else match readInteger? name with
      | some (.ofNat 0) => throw (fault .badGroupNumber)
      | some (.ofNat index) =>
        if groupLimit ≤ index then throw (fault (.invalidGroup index))
        pure (index, some (source.position rest - (name.length + 1)))
      | _ => throw (fault (.badGroupName name))
  match groups.lookBehindFault? index with
  | some reason => throw (source.faultBack rest reason 0)
  | none => return (.condition index position, rest)

def readOpening (source : Source) (groups : Groups) (start : Nat) (rest : List Token) :
    Except Fault (Opening × List Token) :=
  match follow? '?' rest with
  | none => .ok (.capture none, rest)
  | some rest => do
    let (t, rest) ← need source .endOfPattern rest
    if t.is 'P' then
      match follow? '<' rest, follow? '=' rest with
      | some rest, _ =>
        let (name, rest) ← readGroupName source '>' rest
        return (.capture (some name), rest)
      | none, some rest => readNamedReference source groups rest
      | none, none =>
        let (u, rest) ← need source .endOfPattern rest
        throw (source.faultBack rest (.unknownExtension ('P' :: u.text)) (u.text.length + 2))
    else if t.is ':' then return (.plain .empty .empty, rest)
    else if t.is '#' then
      match rest.dropWhile (fun u => !u.is ')') with
      | [] => throw (source.fault [] .unterminatedComment start)
      | _ :: rest => return (.comment, rest)
    else if t.is '=' then return (.look false false, rest)
    else if t.is '!' then return (.look false true, rest)
    else if t.is '<' then
      let (u, rest) ← need source .endOfPattern rest
      if u.is '=' then return (.look true false, rest)
      else if u.is '!' then return (.look true true, rest)
      else throw (source.faultBack rest (.unknownExtension ('<' :: u.text)) (u.text.length + 2))
    else if t.is '(' then readCondition source groups rest
    else if t.is '>' then return (.atomic, rest)
    else if t.is '-' || (!t.escaped && (Flags.ofLetter? t.char).isSome) then readFlags source t rest
    else throw (source.faultBack rest (.unknownExtension t.text) (t.text.length + 1))

end DataShape.Pattern
