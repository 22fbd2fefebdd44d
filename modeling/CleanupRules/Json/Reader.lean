import CleanupRules.Text.Bytes

/-!
Reading JSON from its front. A reader takes what it wants and leaves the rest; it stops at the first
fault. Values that nobody asks for are skipped at any depth.
-/

namespace CleanupRules.Json

/-- What can be wrong with a JSON text. -/
inductive Fault
  /-- The text ends too early. -/
  | truncated
  /-- The text is not JSON. -/
  | malformed
  /-- The text is JSON of another shape than asked for. -/
  | mismatched
  deriving DecidableEq, Repr

/-- Takes a value off the front of a text. -/
abbrev Reader (α : Type) := List Char → Except Fault (α × List Char)

def skipBlanks (text : List Char) : List Char :=
  text.dropWhile fun c => c = ' ' || c = '\n' || c = '\t' || c = '\r'

/-- Takes one character, which must be the expected one. -/
def expect (expected : Char) (text : List Char) : Except Fault (List Char) :=
  match text with
  | [] => .error .truncated
  | c :: rest => if c = expected then .ok rest else .error .malformed

def expectWord : List Char → List Char → Except Fault (List Char)
  | [], text => .ok text
  | c :: word, text => (expect c text).bind (expectWord word)

/-! ### Strings -/

def hexValue? (c : Char) : Option Nat :=
  if c.isDigit then some (c.toNat - '0'.toNat)
  else if 'a' ≤ c ∧ c ≤ 'f' then some (c.toNat - 'a'.toNat + 10)
  else if 'A' ≤ c ∧ c ≤ 'F' then some (c.toNat - 'A'.toNat + 10)
  else none

/-- The character that a backslash and a letter stand for. -/
def escaped? : Char → Option Char
  | '"' => some '"'
  | '\\' => some '\\'
  | '/' => some '/'
  | 'b' => some '\x08'
  | 'f' => some '\x0c'
  | 'n' => some '\n'
  | 'r' => some '\r'
  | 't' => some '\t'
  | _ => none

def isHighSurrogate (unit : Nat) : Bool :=
  0xD800 ≤ unit && unit ≤ 0xDBFF

def isLowSurrogate (unit : Nat) : Bool :=
  0xDC00 ≤ unit && unit ≤ 0xDFFF

/-- The code point that two surrogates stand for. -/
def combineSurrogates (high low : Nat) : Nat :=
  0x10000 + (high - 0xD800) * 0x400 + (low - 0xDC00)

/-- Where a reader stands inside a string. -/
inductive StringState
  | plain
  /-- Behind a backslash. -/
  | escape
  /-- Within the four digits of a code unit, behind a first surrogate or none. -/
  | digits (high : Option Nat) (count value : Nat)
  /-- Behind a first surrogate, before the backslash of the second one. -/
  | between (high : Nat)
  /-- Behind the backslash that follows a first surrogate. -/
  | betweenEscape (high : Nat)

/-- Whether fewer bytes are left than the digits of a code unit take. -/
def tooShortForUnit (text : List Char) : Bool :=
  Text.byteLength (text.take 4) < 4

/-- What follows a complete code unit: a character, or the wait for a second surrogate. -/
def unitOutcome (strict : Bool) (high : Option Nat) (unit : Nat) :
    Except Fault (Option Char × StringState) :=
  if !strict then .ok (some '\uFFFD', .plain)
  else
    match high with
    | some first =>
        if isLowSurrogate unit then .ok (some (Char.ofNat (combineSurrogates first unit)), .plain)
        else .error .malformed
    | none =>
        if isLowSurrogate unit then .error .malformed
        else if isHighSurrogate unit then .ok (none, .between unit)
        else .ok (some (Char.ofNat unit), .plain)

/-- Puts a character, if there is one, in front of a string that was read. -/
def prepend (c : Option Char) (read : Except Fault (List Char × List Char)) :
    Except Fault (List Char × List Char) :=
  read.map fun (value, rest) => (c.toList ++ value, rest)

/-- Reads the rest of a string up to its closing quote. A strict reader accepts surrogates in pairs
only; another one takes each code unit by itself and reads it as the replacement character. -/
def readStringFrom (strict : Bool) : StringState → Reader (List Char)
  | _, [] => .error .truncated
  | .plain, c :: rest =>
      if c = '"' then .ok ([], rest)
      else if c = '\\' then readStringFrom strict .escape rest
      else if c.toNat < 32 then .error .malformed
      else prepend (some c) (readStringFrom strict .plain rest)
  | .escape, c :: rest =>
      if c = 'u' then
        if tooShortForUnit rest then .error .truncated
        else readStringFrom strict (.digits none 0 0) rest
      else
        match escaped? c with
        | none => .error .malformed
        | some d => prepend (some d) (readStringFrom strict .plain rest)
  | .digits high count value, c :: rest =>
      match hexValue? c with
      | none => .error .malformed
      | some digit =>
          if count < 3 then
            readStringFrom strict (.digits high (count + 1) (16 * value + digit)) rest
          else
            match unitOutcome strict high (16 * value + digit) with
            | .error fault => .error fault
            | .ok (d, state) => prepend d (readStringFrom strict state rest)
  | .between high, c :: rest =>
      if c = '\\' then readStringFrom strict (.betweenEscape high) rest else .error .malformed
  | .betweenEscape high, c :: rest =>
      if c = 'u' then
        if tooShortForUnit rest then .error .truncated
        else readStringFrom strict (.digits (some high) 0 0) rest
      else .error .malformed

def readString : Reader (List Char) :=
  readStringFrom true .plain

def skipString (text : List Char) : Except Fault (List Char) :=
  (readStringFrom false .plain text).map Prod.snd

/-! ### Numbers that are skipped -/

def startsWithDigit (text : List Char) : Bool :=
  text.head?.any Char.isDigit

def dropDigits (text : List Char) : List Char :=
  text.dropWhile Char.isDigit

def skipDigits (text : List Char) : Except Fault (List Char) :=
  if startsWithDigit text then .ok (dropDigits text) else .error .malformed

def dropSign : List Char → List Char
  | '+' :: rest => rest
  | '-' :: rest => rest
  | text => text

def skipExponent : List Char → Except Fault (List Char)
  | [] => .ok []
  | c :: rest => if c = 'e' || c = 'E' then skipDigits (dropSign rest) else .ok (c :: rest)

def skipFraction : List Char → Except Fault (List Char)
  | '.' :: rest => (skipDigits rest).bind skipExponent
  | text => skipExponent text

def skipUnsigned : List Char → Except Fault (List Char)
  | '0' :: rest => if startsWithDigit rest then .error .malformed else skipFraction rest
  | text => (skipDigits text).bind skipFraction

/-! ### Values that are skipped -/

mutual

/-- Skips one value and the blanks before it; `fuel` bounds the characters that it takes. -/
def skipValueWithin : Nat → List Char → Except Fault (List Char)
  | 0, _ => .error .truncated
  | fuel + 1, text =>
      match skipBlanks text with
      | [] => .error .truncated
      | c :: rest =>
          if c = 'n' then expectWord ['u', 'l', 'l'] rest
          else if c = 't' then expectWord ['r', 'u', 'e'] rest
          else if c = 'f' then expectWord ['a', 'l', 's', 'e'] rest
          else if c = '-' then skipUnsigned rest
          else if c.isDigit then skipUnsigned (c :: rest)
          else if c = '"' then skipString rest
          else if c = '[' then
            match skipBlanks rest with
            | [] => .error .truncated
            | ']' :: rest => .ok rest
            | text => (skipValueWithin fuel text).bind (skipItemsWithin fuel)
          else if c = '{' then
            match skipBlanks rest with
            | [] => .error .truncated
            | '}' :: rest => .ok rest
            | text => (skipMemberWithin fuel text).bind (skipMembersWithin fuel)
          else .error .malformed

/-- Skips the items behind the first one, up to the closing bracket. -/
def skipItemsWithin : Nat → List Char → Except Fault (List Char)
  | 0, _ => .error .truncated
  | fuel + 1, text =>
      match skipBlanks text with
      | [] => .error .truncated
      | ']' :: rest => .ok rest
      | ',' :: rest => (skipValueWithin fuel rest).bind (skipItemsWithin fuel)
      | _ => .error .malformed

/-- Skips the members behind the first one, up to the closing brace. -/
def skipMembersWithin : Nat → List Char → Except Fault (List Char)
  | 0, _ => .error .truncated
  | fuel + 1, text =>
      match skipBlanks text with
      | [] => .error .truncated
      | '}' :: rest => .ok rest
      | ',' :: rest => (skipMemberWithin fuel rest).bind (skipMembersWithin fuel)
      | _ => .error .malformed

/-- Skips a key, a colon and a value. -/
def skipMemberWithin : Nat → List Char → Except Fault (List Char)
  | 0, _ => .error .truncated
  | fuel + 1, text => do
      let afterQuote ← expect '"' (skipBlanks text)
      let afterKey ← skipString afterQuote
      let afterColon ← expect ':' (skipBlanks afterKey)
      skipValueWithin fuel afterColon

end

def skipValue (text : List Char) : Except Fault (List Char) :=
  skipValueWithin (2 * text.length + 2) text

/-! ### Values of another shape than asked for -/

/-- Adds digits to a significand as long as it fits 64 bits; also says how many were added. -/
def addDigits (significand : Nat) : List Char → Nat × Nat
  | [] => (significand, 0)
  | c :: rest =>
      let next := 10 * significand + (c.toNat - '0'.toNat)
      if next < 2 ^ 64 then
        let (sum, count) := addDigits next rest
        (sum, count + 1)
      else (significand, 0)

/-- Is `significand * 10 ^ exponent` beyond the largest number of double precision? -/
def isOutOfRange (significand : Nat) (exponent : Int) : Bool :=
  significand ≠ 0 && (exponent > 308 ||
    exponent ≥ 0 && (Float.ofNat significand * Float.ofScientific 1 false exponent.toNat).isInf)

/-- The fault where a number stands whose value is `significand * 10 ^ exponent`. -/
def numberFault (significand : Nat) (exponent : Int) : Fault :=
  if isOutOfRange significand exponent then .malformed else .mismatched

def exponentFault (significand : Nat) (exponent : Int) (text : List Char) : Fault :=
  let negative := text.head? == some '-'
  match dropSign text with
  | [] => .truncated
  | c :: rest =>
      if !c.isDigit then .malformed
      else
        let digits := (c :: rest).takeWhile Char.isDigit
        let value := digits.foldl (fun n d => 10 * n + (d.toNat - '0'.toNat)) 0
        if negative then numberFault significand (exponent - value)
        else numberFault significand (exponent + value)

def digitsFault (significand : Nat) (exponent : Int) : List Char → Fault
  | [] => numberFault significand exponent
  | c :: rest =>
      if c = 'e' || c = 'E' then exponentFault significand exponent rest
      else numberFault significand exponent

def fractionFault (significand : Nat) (exponent : Int) : List Char → Fault
  | '.' :: [] => .truncated
  | '.' :: c :: rest =>
      if !c.isDigit then .malformed
      else
        let (sum, count) := addDigits significand ((c :: rest).takeWhile Char.isDigit)
        digitsFault sum (exponent - count) (dropDigits (c :: rest))
  | text => digitsFault significand exponent text

/-- The fault where a number stands, without its sign. -/
def unsignedFault : List Char → Fault
  | [] => .truncated
  | '0' :: rest => if startsWithDigit rest then .malformed else fractionFault 0 0 rest
  | c :: rest =>
      if !c.isDigit then .malformed
      else
        let digits := (c :: rest).takeWhile Char.isDigit
        let (sum, count) := addDigits 0 digits
        fractionFault sum (digits.length - count) (dropDigits (c :: rest))

/-- The fault where a value of another shape than asked for begins: what is wrong within the value
comes before its shape, for all but arrays and objects, which are not looked into. -/
def unexpectedFault (text : List Char) : Fault :=
  let after := fun read : Except Fault (List Char) =>
    match read with
    | .error fault => fault
    | .ok _ => .mismatched
  match text with
  | [] => .truncated
  | c :: rest =>
      if c = 'n' then after (expectWord ['u', 'l', 'l'] rest)
      else if c = 't' then after (expectWord ['r', 'u', 'e'] rest)
      else if c = 'f' then after (expectWord ['a', 'l', 's', 'e'] rest)
      else if c = '-' then unsignedFault rest
      else if c.isDigit then unsignedFault (c :: rest)
      else if c = '"' then after ((readString rest).map Prod.snd)
      else if c = '[' || c = '{' then .mismatched
      else .malformed

/-! ### Values that are asked for -/

def readText (text : List Char) : Except Fault (List Char × List Char) :=
  match skipBlanks text with
  | '"' :: rest => readString rest
  | text => .error (unexpectedFault text)

def readNull (text : List Char) : Except Fault (List Char) :=
  match skipBlanks text with
  | 'n' :: rest => expectWord ['u', 'l', 'l'] rest
  | text => .error (unexpectedFault text)

def readColon (text : List Char) : Except Fault (List Char) :=
  expect ':' (skipBlanks text)

end CleanupRules.Json
