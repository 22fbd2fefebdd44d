import CleanupRules.Host.Basic

/-!
Hosts that are addresses and not names: a text in brackets, or four numbers with dots between.
-/

namespace CleanupRules.Host

/-- The value of a text of decimal digits. -/
def decimalValue (digits : List Char) : Nat :=
  digits.foldl (fun value c => 10 * value + (c.toNat - '0'.toNat)) 0

/-- One number of a dotted address: one to three digits, no zero in front of another digit, and at
most 255. -/
def isOctet (label : Label) : Bool :=
  label.all Char.isDigit &&
    match label with
    | [] => false
    | [_] => true
    | '0' :: _ => false
    | _ => label.length ≤ 3 && decimalValue label ≤ 255

def isDottedAddress (host : Host) : Bool :=
  let labels := Label.split host
  labels.length = 4 && labels.all isOctet

def isBracketed (host : Host) : Bool :=
  host.head? == some '[' && host.getLast? == some ']'

/-- Is the host an address, so that it has no parent domain? -/
def isAddress (host : Host) : Bool :=
  isBracketed host || isDottedAddress host

end CleanupRules.Host
