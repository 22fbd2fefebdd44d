/-!
Command lines: options with one or two dashes, and plain arguments. A grammar says which there are;
scanning a command line against it fills a record of settings.

The value of an option is read only when the option is complete, that is when the next option or
plain argument is seen or the line ends. An option that is not known is reported at once, so it
hides a value before it that cannot be read.
-/

namespace CleanupRules.CommandLine

inductive UsageError
  /-- Arguments are missing, too many or unknown. -/
  | misuse
  /-- A value of an option cannot be read. -/
  | invalidValue (value option reason : List Char)
  deriving DecidableEq

/-- The explanation of an error; a misuse has none. -/
def UsageError.message : UsageError → List Char
  | .misuse => []
  | .invalidValue value option reason =>
      "error: invalid value '".toList ++ value ++ "' for '".toList ++ option ++ "': ".toList ++
        reason

/-- What an option does to the settings. -/
inductive Effect (σ : Type)
  | flag (set : σ → σ)
  /-- The option takes a value, which is shown as `placeholder`, and may come several times if it
  `repeats`. Reading the value may fail for a reason. -/
  | value (placeholder : List Char) (repeats : Bool)
      (read : List Char → Except (List Char) (σ → σ))

structure Opt (σ : Type) where
  /-- The name behind two dashes. -/
  long : List Char
  /-- The letter behind one dash. -/
  short : Option Char
  required : Bool
  effect : Effect σ

structure Grammar (σ : Type) where
  options : List (Opt σ)
  /-- How many plain arguments there must be. -/
  least : Nat
  /-- How many plain arguments there may be, unless any number. -/
  most : Option Nat

/-- How far a command line has been scanned. -/
structure Scan (σ : Type) where
  settings : σ
  /-- The long names of the options that are complete. -/
  seen : List (List Char) := []
  /-- The option that is not complete yet, with its value if that has come. -/
  pending : Option (Opt σ × Option (List Char)) := none
  /-- The plain arguments, the last one first. -/
  plain : List (List Char) := []

namespace Scan

variable {σ : Type}

/-- Completes an option with its value. -/
def complete (scan : Scan σ) (option : Opt σ) (value : List Char) : Except UsageError (Scan σ) :=
  match option.effect with
  | .flag _ => .error .misuse
  | .value placeholder repeats read =>
      if !repeats && scan.seen.contains option.long then .error .misuse
      else
        match read value with
        | .error reason =>
            .error (.invalidValue value
              (['-', '-'] ++ option.long ++ " <".toList ++ placeholder ++ ['>']) reason)
        | .ok update =>
            .ok { scan with settings := update scan.settings, seen := option.long :: scan.seen }

/-- Completes the pending option, if there is one. -/
def settle (scan : Scan σ) : Except UsageError (Scan σ) :=
  match scan.pending with
  | none => .ok scan
  | some (_, none) => .error .misuse
  | some (option, some value) => complete { scan with pending := none } option value

def takeFlag (scan : Scan σ) (option : Opt σ) (set : σ → σ) : Except UsageError (Scan σ) := do
  let scan ← scan.settle
  if scan.seen.contains option.long then .error .misuse
  else
    .ok { scan with settings := set scan.settings, seen := option.long :: scan.seen }

/-- Takes an option that has a value; the value may be attached or come as the next argument. -/
def takeOption (scan : Scan σ) (option : Opt σ) (attached : Option (List Char)) :
    Except UsageError (Scan σ) := do
  let scan ← scan.settle
  match attached with
  | some value => scan.complete option value
  | none => .ok { scan with pending := some (option, none) }

/-- Takes an argument behind two dashes, with what is attached behind `=`. -/
def takeLong (grammar : Grammar σ) (scan : Scan σ) (name : List Char)
    (attached : Option (List Char)) : Except UsageError (Scan σ) :=
  match grammar.options.find? fun option => option.long = name with
  | none => .error .misuse
  | some option =>
      match option.effect, attached with
      | .flag set, none => scan.takeFlag option set
      | .flag _, some _ => .error .misuse
      | .value .., attached => scan.takeOption option attached

/-- Takes the letters behind one dash. The letters of flags may stand together; behind the letter of
an option with a value, all that follows is the value, less a `=` in front. -/
def takeShort (grammar : Grammar σ) (scan : Scan σ) : List Char → Except UsageError (Scan σ)
  | [] => .ok scan
  | letter :: rest =>
      match grammar.options.find? fun option => option.short = some letter with
      | none => .error .misuse
      | some option =>
          match option.effect with
          | .flag set => do takeShort grammar (← scan.takeFlag option set) rest
          | .value .. =>
              match rest with
              | [] => scan.takeOption option none
              | '=' :: value => scan.takeOption option (some value)
              | value => scan.takeOption option (some value)

def takePlain (grammar : Grammar σ) (scan : Scan σ) (argument : List Char) :
    Except UsageError (Scan σ) :=
  if grammar.most.any (· ≤ scan.plain.length) then .error .misuse
  else do
    let scan ← scan.settle
    .ok { scan with plain := argument :: scan.plain }

/-- Takes an argument that is no option: the value that an option waits for, or a plain one. -/
def takeOther (grammar : Grammar σ) (scan : Scan σ) (argument : List Char) :
    Except UsageError (Scan σ) :=
  match scan.pending with
  | some (option, none) => .ok { scan with pending := some (option, some argument) }
  | _ => scan.takePlain grammar argument

/-- Takes the arguments in their order. Behind `--` all arguments are plain; a single dash is plain
anywhere. -/
def takeAll (grammar : Grammar σ) (plainOnly : Bool) (scan : Scan σ) :
    List (List Char) → Except UsageError (Scan σ)
  | [] => .ok scan
  | argument :: arguments => do
      if plainOnly then
        takeAll grammar true (← scan.takePlain grammar argument) arguments
      else
        match argument with
        | ['-', '-'] => takeAll grammar true scan arguments
        | '-' :: '-' :: body =>
            let name := body.takeWhile (· ≠ '=')
            let attached := (body.dropWhile (· ≠ '=')).tail?
            takeAll grammar false (← scan.takeLong grammar name attached) arguments
        | '-' :: letter :: letters =>
            takeAll grammar false (← scan.takeShort grammar (letter :: letters)) arguments
        | argument => takeAll grammar false (← scan.takeOther grammar argument) arguments

end Scan

/-- Scans a command line. Gives the settings and the plain arguments in their order. -/
def Grammar.scan {σ : Type} (grammar : Grammar σ) (settings : σ) (arguments : List (List Char)) :
    Except UsageError (σ × List (List Char)) := do
  let scan ← Scan.takeAll grammar false { settings := settings } arguments
  let scan ← scan.settle
  let complete := grammar.options.all fun option =>
    !option.required || scan.seen.contains option.long
  if complete && grammar.least ≤ scan.plain.length then .ok (scan.settings, scan.plain.reverse)
  else .error .misuse

end CleanupRules.CommandLine
