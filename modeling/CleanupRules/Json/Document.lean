/-!
JSON documents and their indented written form.
-/

namespace CleanupRules.Json

inductive Document
  | null
  | number (value : Nat)
  | text (value : List Char)
  | array (items : List Document)
  /-- Fields in the order in which they are written. -/
  | object (fields : List (List Char × Document))

/-- A character as it stands in a JSON string. Only what must be escaped is. -/
def escapeChar (c : Char) : List Char :=
  if c = '"' ∨ c = '\\' then ['\\', c]
  else if c = '\x08' then ['\\', 'b']
  else if c = '\t' then ['\\', 't']
  else if c = '\n' then ['\\', 'n']
  else if c = '\x0c' then ['\\', 'f']
  else if c = '\r' then ['\\', 'r']
  else if c.toNat < 32 then
    ['\\', 'u', '0', '0', Nat.digitChar (c.toNat / 16), Nat.digitChar (c.toNat % 16)]
  else [c]

def quoteString (value : List Char) : List Char :=
  '"' :: value.flatMap escapeChar ++ ['"']

/-- A line break and the indentation of the next line. -/
def lineBreak (depth : Nat) : List Char :=
  '\n' :: List.replicate (2 * depth) ' '

mutual

/-- The written form of a document inside `depth` others: each item on its own line. -/
def Document.write (depth : Nat) : Document → List Char
  | .null => ['n', 'u', 'l', 'l']
  | .number value => Nat.toDigits 10 value
  | .text value => quoteString value
  | .array [] => ['[', ']']
  | .array (item :: items) =>
      '[' :: lineBreak (depth + 1) ++ item.write (depth + 1) ++
        writeItems (depth + 1) items ++ lineBreak depth ++ [']']
  | .object [] => ['{', '}']
  | .object (field :: fields) =>
      '{' :: lineBreak (depth + 1) ++ writeField (depth + 1) field ++
        writeFields (depth + 1) fields ++ lineBreak depth ++ ['}']

def writeItems (depth : Nat) : List Document → List Char
  | [] => []
  | item :: items => ',' :: lineBreak depth ++ item.write depth ++ writeItems depth items

def writeField (depth : Nat) : List Char × Document → List Char
  | (name, value) => quoteString name ++ [':', ' '] ++ value.write depth

def writeFields (depth : Nat) : List (List Char × Document) → List Char
  | [] => []
  | field :: fields =>
      ',' :: lineBreak depth ++ writeField depth field ++ writeFields depth fields

end

def Document.render (document : Document) : List Char :=
  document.write 0

end CleanupRules.Json
