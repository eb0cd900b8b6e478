import TicketRouting.Pattern.Regex
import TicketRouting.Text.Basic
/-!
The modes of a pattern, which its flags switch on and off, and what they mean for sets of
characters. A pattern must not match within a character, so where characters are bytes, sets hold
ASCII only and cannot be turned round.
-/
namespace TicketRouting.Pattern

open Unicode (CodeSet)

structure Flags where
  caseless : Bool := true
  multiLine : Bool := false
  dotAll : Bool := false
  swapGreed : Bool := false
  unicode : Bool := true
  returnEndsLine : Bool := false
  /-- White space and comments in the pattern do not count. -/
  spaced : Bool := false
deriving DecidableEq

namespace Flags

def set? (flags : Flags) (value : Bool) : Char → Option Flags
  | 'i' => some { flags with caseless := value }
  | 'm' => some { flags with multiLine := value }
  | 's' => some { flags with dotAll := value }
  | 'U' => some { flags with swapGreed := value }
  | 'u' => some { flags with unicode := value }
  | 'R' => some { flags with returnEndsLine := value }
  | 'x' => some { flags with spaced := value }
  | _ => none

def asciiCaseClosure (set : CodeSet) : CodeSet :=
  CodeSet.ofRanges (set.ranges.toList ++ ((List.range 26).flatMap fun letter =>
    if set.contains (0x41 + letter) || set.contains (0x61 + letter) then
      [(0x41 + letter, 0x41 + letter), (0x61 + letter, 0x61 + letter)]
    else []))

def fold (flags : Flags) (set : CodeSet) : CodeSet :=
  if !flags.caseless then set
  else if flags.unicode then set.closedUnderCase
  else asciiCaseClosure set

def turned? (flags : Flags) (negated : Bool) (set : CodeSet) : Option CodeSet :=
  if !negated then some set
  else if flags.unicode then some set.complement
  else none

def foldAndTurn? (flags : Flags) (negated : Bool) (set : CodeSet) : Option CodeSet :=
  flags.turned? negated (flags.fold set)

def digits (flags : Flags) : CodeSet :=
  if flags.unicode then Unicode.decimalDigits else CodeSet.ofText "30-39"

def spaces (flags : Flags) : CodeSet :=
  if flags.unicode then Unicode.whiteSpace else CodeSet.ofText "9-d 20"

def wordCharacters (flags : Flags) : CodeSet :=
  if flags.unicode then Unicode.wordCharacters else asciiWord

def dot? (flags : Flags) : Option CodeSet :=
  if !flags.unicode then none
  else if flags.dotAll then some CodeSet.all
  else if flags.returnEndsLine then some (CodeSet.all.diff (CodeSet.ofText "a d"))
  else some (CodeSet.all.diff (CodeSet.single 0xA))

def lineStart (flags : Flags) : Place :=
  if !flags.multiLine then .textStart
  else if flags.returnEndsLine then .returnLineStart
  else .lineStart

def lineEnd (flags : Flags) : Place :=
  if !flags.multiLine then .textEnd
  else if flags.returnEndsLine then .returnLineEnd
  else .lineEnd

def word (flags : Flags) (test : WordTest) : Place := .word test (!flags.unicode)

def skipFrom (inComment : Bool) : List Char → List Char
  | [] => []
  | c :: rest =>
    if inComment then skipFrom (c != '\n') rest
    else if Text.isBlank c then skipFrom false rest
    else if c == '#' then skipFrom true rest
    else c :: rest

def skip (flags : Flags) (text : List Char) : List Char :=
  if flags.spaced then skipFrom false text else text

def runFrom (flags : Flags) (keep : Char → Bool) (inComment : Bool) (done : List Char) :
    List Char → List Char × List Char
  | [] => (done.reverse, [])
  | c :: rest =>
    if inComment then runFrom flags keep (c != '\n') done rest
    else if flags.spaced && Text.isBlank c then runFrom flags keep false done rest
    else if flags.spaced && c == '#' then runFrom flags keep true done rest
    else if keep c then runFrom flags keep false (c :: done) rest
    else (done.reverse, c :: rest)

def run (flags : Flags) (keep : Char → Bool) (text : List Char) : List Char × List Char :=
  runFrom flags keep false [] text

end Flags

end TicketRouting.Pattern
