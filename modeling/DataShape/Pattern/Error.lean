import DataShape.Text.Quoted

/-! Why a pattern cannot be used, and where in the pattern the fault lies. -/

namespace DataShape.Pattern

inductive Reason where
  | danglingEscape
  | badEscape (escape : List Char)
  | incompleteEscape (escape : List Char)
  | octalOutOfRange (escape : List Char)
  | missingBrace
  | unknownCharacterName (name : List Char)
  | missingName (what : String)
  | unterminatedName (terminator : Char)
  | badGroupName (name : List Char)
  | unknownGroupName (name : List Char)
  | repeatedGroupName (name : List Char) (index earlier : Nat)
  | badGroupNumber
  | invalidGroup (index : Nat)
  | openGroup
  | groupInSameLookBehind
  | unterminatedSet
  | badRange (first last : List Char)
  | nothingToRepeat
  | repeatedTwice
  | minimumAboveMaximum
  | endOfPattern
  | unknownExtension (text : List Char)
  | unterminatedComment
  | unterminatedGroup
  | unbalancedGroup
  | tooManyBranches
  | flagsNotFirst
  | localeFlag
  | incompatibleFlags
  | unknownFlag
  | missingFlagEnd
  | missingFlag
  | missingColon
  | globalFlagOn
  | globalFlagOff
  | typeFlagOff
  | flagOnAndOff
  | variableLookBehind
  | longLookBehind
  | repeatInTemplate (quantifier : String)
deriving DecidableEq, Repr

def shownName (name : List Char) : String := quoted (String.ofList name)

def Reason.message : Reason → String
  | .danglingEscape => "bad escape (end of pattern)"
  | .badEscape escape => "bad escape " ++ String.ofList escape
  | .incompleteEscape escape => "incomplete escape " ++ String.ofList escape
  | .octalOutOfRange escape =>
      "octal escape value " ++ String.ofList escape ++ " outside of range 0-0o377"
  | .missingBrace => "missing \x7b"
  | .unknownCharacterName name => "undefined character name " ++ shownName name
  | .missingName what => "missing " ++ what
  | .unterminatedName terminator =>
      "missing " ++ String.ofList [terminator] ++ ", unterminated name"
  | .badGroupName name => "bad character in group name " ++ shownName name
  | .unknownGroupName name => "unknown group name " ++ shownName name
  | .repeatedGroupName name index earlier => "redefinition of group name " ++ shownName name
      ++ " as group " ++ natText index ++ "; was group " ++ natText earlier
  | .badGroupNumber => "bad group number"
  | .invalidGroup index => "invalid group reference " ++ natText index
  | .openGroup => "cannot refer to an open group"
  | .groupInSameLookBehind => "cannot refer to group defined in the same lookbehind subpattern"
  | .unterminatedSet => "unterminated character set"
  | .badRange first last =>
      "bad character range " ++ String.ofList first ++ "-" ++ String.ofList last
  | .nothingToRepeat => "nothing to repeat"
  | .repeatedTwice => "multiple repeat"
  | .minimumAboveMaximum => "min repeat greater than max repeat"
  | .endOfPattern => "unexpected end of pattern"
  | .unknownExtension text => "unknown extension ?" ++ String.ofList text
  | .unterminatedComment => "missing ), unterminated comment"
  | .unterminatedGroup => "missing ), unterminated subpattern"
  | .unbalancedGroup => "unbalanced parenthesis"
  | .tooManyBranches => "conditional backref with more than two branches"
  | .flagsNotFirst => "global flags not at the start of the expression"
  | .localeFlag => "bad inline flags: cannot use \x27L\x27 flag with a str pattern"
  | .incompatibleFlags =>
      "bad inline flags: flags \x27a\x27, \x27u\x27 and \x27L\x27 are incompatible"
  | .unknownFlag => "unknown flag"
  | .missingFlagEnd => "missing -, : or )"
  | .missingFlag => "missing flag"
  | .missingColon => "missing :"
  | .globalFlagOn => "bad inline flags: cannot turn on global flag"
  | .globalFlagOff => "bad inline flags: cannot turn off global flag"
  | .typeFlagOff => "bad inline flags: cannot turn off flags \x27a\x27, \x27u\x27 and \x27L\x27"
  | .flagOnAndOff => "bad inline flags: flag turned on and off"
  | .variableLookBehind => "look-behind requires fixed-width pattern"
  | .longLookBehind => "looks too much behind"
  | .repeatInTemplate quantifier => "internal: unsupported template operator " ++ quantifier

/-- A fault, and the number of characters of the pattern before it where it has a place. -/
structure Error where
  reason : Reason
  position : Option Nat
deriving DecidableEq, Repr

/-- The text of a fault in a pattern. Of a pattern of several lines it names line and column too. -/
def Error.message (pattern : String) (e : Error) : String :=
  match e.position with
  | none => e.reason.message
  | some position =>
    let cs := pattern.toList
    let before := cs.take position
    let base := e.reason.message ++ " at position " ++ natText position
    if cs.contains '\n' then
      let column := (before.reverse.takeWhile (· != '\n')).length + 1
      base ++ " (line " ++ natText (before.count '\n' + 1) ++ ", column " ++ natText column ++ ")"
    else base

inductive Fault where
  | malformed (e : Error)
  /-- A repeat count beyond every bound. -/
  | repetitionTooLarge
  | conflictingFlags
  /-- A repeat count with more digits than are read. -/
  | tooManyDigits (count : Nat)
deriving DecidableEq, Repr

end DataShape.Pattern
