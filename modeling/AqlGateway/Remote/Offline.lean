import AqlGateway.Remote.Client

/-!
# Dialing without a network

On a host that has no network every dial fails at once. Which reason it fails for depends on the
address: it is checked and split into host and port before anything is sent.

* `Offline.refusal` — the reason for which the dial of an address fails;
* `Offline.link` — a client's side of such a network.
-/

namespace AqlGateway.Remote.Offline

/-- A text cut at the last occurrence of a character. -/
def splitLast? (separator : Char) (s : List Char) : Option (List Char × List Char) :=
  match Text.breakAt? [separator] s.reverse with
  | some (behind, _ :: before) => some (before.reverse, behind.reverse)
  | _ => none

/-- Digits with an optional plus sign in front. -/
def unsignedDigits? (s : List Char) : Option (List Char) :=
  let digits := match s with
    | '+' :: rest => rest
    | s => s
  if digits.isEmpty || !digits.all Char.isDigit then none else some digits

def isPort (s : List Char) : Bool :=
  match unsignedDigits? s with
  | some digits => digits.foldl (fun n c => n * 10 + (c.toNat - '0'.toNat)) 0 < 65536
  | none => false

/-- The reason for which the dial of a host fails. -/
def unreachable (host : List Char) : String :=
  if '\x00' ∈ host then "file name contained an unexpected NUL byte"
  else if ':' ∈ host then "Cannot assign requested address (os error 99)"
  else "Network is unreachable (os error 101)"

/-- The reason for which the dial of an address fails. -/
def refusal (address : String) : String :=
  match splitLast? ':' address.toList with
  | none => "invalid socket address"
  | some (host, port) => if isPort port then unreachable host else "invalid port value"

/-- A client's side of a network on which the address at hand is never reached. -/
def link (address : String) : Link := { dialing := fun _ => .refuse (refusal address) }

end AqlGateway.Remote.Offline
