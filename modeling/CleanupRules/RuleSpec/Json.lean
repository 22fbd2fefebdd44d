import CleanupRules.Json.Reader
import CleanupRules.RuleSpec.Basic

/-!
Rules with their types as JSON: an object with the fields `rule` and `cleanup_type`, others being
skipped, or an array of the two.
-/

namespace CleanupRules.RuleSpec

open Json

/-- A cleanup type by its name in small letters. -/
def cleanupOfName (name : List Char) : Except Fault Cleanup :=
  match Cleanup.ofName? name with
  | some cleanup => .ok cleanup
  | none => .error .mismatched

/-- Reads a cleanup type by its name, behind the opening quote. -/
def readCleanupName : Reader Cleanup := fun text => do
  let (name, rest) ← readString text
  let cleanup ← cleanupOfName name
  pure (cleanup, rest)

/-- Reads a cleanup type: its name, or an object with the name as key of `null`. -/
def readCleanup : Reader Cleanup := fun text =>
  match skipBlanks text with
  | [] => .error .truncated
  | '"' :: rest => readCleanupName rest
  | '{' :: rest => do
      let rest ← expect '"' (skipBlanks rest)
      let (cleanup, rest) ← readCleanupName rest
      let rest ← readColon rest
      let rest ← readNull rest
      let rest ← expect '}' (skipBlanks rest)
      pure (cleanup, rest)
  | _ => .error .malformed

def readArray : Reader RuleSpec := fun text => do
  let (rule, rest) ←
    match skipBlanks text with
    | [] => .error .truncated
    | ']' :: _ => .error .mismatched
    | text => readText text
  let (cleanup, rest) ←
    match skipBlanks rest with
    | [] => .error .truncated
    | ']' :: _ => .error .mismatched
    | ',' :: rest =>
        match skipBlanks rest with
        | [] => .error .truncated
        | ']' :: _ => .error .malformed
        | text => readCleanup text
    | _ => .error .malformed
  let rest ← expect ']' (skipBlanks rest)
  pure (⟨rule, cleanup⟩, rest)

structure Fields where
  rule : Option (List Char) := none
  cleanup : Option Cleanup := none

/-- Both fields must be there. -/
def ofFields (fields : Fields) : Except Fault RuleSpec :=
  match fields.rule, fields.cleanup with
  | some rule, some cleanup => .ok ⟨rule, cleanup⟩
  | _, _ => .error .mismatched

/-- Reads a field behind the opening quote of its key. No field may come twice. -/
def readField (fields : Fields) : Reader Fields := fun text => do
  let (key, rest) ← readString text
  if key = "rule".toList then
    if fields.rule.isSome then .error .mismatched
    else
      let (rule, rest) ← readText (← readColon rest)
      pure ({ fields with rule := some rule }, rest)
  else if key = "cleanup_type".toList then
    if fields.cleanup.isSome then .error .mismatched
    else
      let (cleanup, rest) ← readCleanup (← readColon rest)
      pure ({ fields with cleanup := some cleanup }, rest)
  else
    let rest ← skipValue (← readColon rest)
    pure (fields, rest)

/-- Reads fields behind the first one, up to the closing brace; `fuel` bounds their number. -/
def readFieldsWithin : Nat → Fields → Reader Fields
  | 0, _, _ => .error .truncated
  | fuel + 1, fields, text =>
      match skipBlanks text with
      | [] => .error .truncated
      | '}' :: rest => .ok (fields, rest)
      | ',' :: rest => do
          let rest ← expect '"' (skipBlanks rest)
          let (fields, rest) ← readField fields rest
          readFieldsWithin fuel fields rest
      | _ => .error .malformed

def readObject : Reader RuleSpec := fun text => do
  let (fields, rest) ←
    match skipBlanks text with
    | [] => .error .truncated
    | '}' :: rest => pure ({}, rest)
    | '"' :: rest => do
        let (fields, rest) ← readField {} rest
        readFieldsWithin (rest.length + 1) fields rest
    | _ => .error .malformed
  let spec ← ofFields fields
  pure (spec, rest)

/-- Reads a whole JSON text, behind which only blanks may stand. -/
def ofJson (text : List Char) : Except Fault RuleSpec := do
  let (spec, rest) ←
    match skipBlanks text with
    | '{' :: rest => readObject rest
    | '[' :: rest => readArray rest
    | text => .error (unexpectedFault text)
  if (skipBlanks rest).isEmpty then pure spec else .error .malformed

end CleanupRules.RuleSpec
