import Dispatch.Host.Basic

/-!
# Addresses

An address begins with a scheme and may go on with the host and port to connect to. What
stands behind them is free text. Breaks and tabs count nowhere, and neither do blanks and
control characters at the ends.

## Main definitions

* `Url`: a scheme, a host and a port.
* `Url.ofText?`: the address that a text denotes.
-/
namespace Dispatch

/-- Where an address leads. -/
structure Url where
  scheme : String
  host : Option Host
  port : Option Nat
  deriving DecidableEq, Repr

namespace Url

/-- How the text behind a scheme is read. -/
inductive Kind where
  /-- As a file, perhaps of another host. -/
  | file
  /-- As a place on a host, which has to be there. -/
  | remote
  /-- As the scheme pleases. -/
  | other
  deriving DecidableEq, Repr

/-- The kind of a scheme. -/
def Kind.ofScheme (scheme : String) : Kind :=
  if scheme = "file" then .file
  else if ["http", "https", "ws", "wss", "ftp"].contains scheme then .remote
  else .other

/-- The characters of a text that count. -/
def significant (text : String) : List Char :=
  (Text.trimmed (· ≤ ' ') text.toList).filter fun c => c ≠ '\t' ∧ c ≠ '\n' ∧ c ≠ '\r'

/-- Whether a scheme may hold a character. -/
def isSchemeChar (c : Char) : Bool := c.isAlphanum || c = '+' || c = '-' || c = '.'

/-- Cuts a text into its scheme, in lower case, and what stands behind the colon. -/
def scheme? (cs : List Char) : Option (String × List Char) := do
  guard (cs.head?.any Char.isAlpha)
  match cs.dropWhile isSchemeChar with
  | ':' :: rest => some (String.ofList ((cs.takeWhile isSchemeChar).map Char.toLower), rest)
  | _ => none

/-- Whether a character ends the host, with the port and the user. A backslash does so only
where the host has to be there. -/
def endsAuthority (kind : Kind) (c : Char) : Bool :=
  c = '/' || c = '?' || c = '#' || (c = '\\' && kind ≠ .other)

/-- Cuts at the last `@`: the user, if there is one, and the rest. -/
def cutUser (cs : List Char) : Option (List Char) × List Char :=
  let rest := (cs.reverse.takeWhile (· ≠ '@')).reverse
  if rest.length = cs.length then (none, cs)
  else (some (cs.take (cs.length - rest.length - 1)), rest)

/-- Cuts at the first colon that is not in square brackets. -/
def cutHost (inBrackets : Bool) : List Char → List Char × List Char
  | [] => ([], [])
  | c :: rest =>
    if c = ':' ∧ !inBrackets then ([], c :: rest)
    else
      let (host, after) := cutHost (c = '[' || (inBrackets && c ≠ ']')) rest
      (c :: host, after)

/-- The port in what stands behind the host: a colon and digits, which may be none. A
backslash ends it. -/
def port? : List Char → Option (Option Nat)
  | ':' :: cs =>
    let digits := cs.takeWhile (· ≠ '\\')
    let port := Digits.value 10 digits
    if !digits.all Digits.isDecimal || 65535 < port then none
    else some (if digits.isEmpty then none else some port)
  | _ => some none

/-- Whether a user leaves something to tell the host. A lone colon does not. -/
def isPresent (user : List Char) : Bool := !user.isEmpty && user ≠ [':']

/-- The host and the port at the front of a text. -/
def authority? (kind : Kind) (cs : List Char) : Option (Option Host × Option Nat) := do
  let text := cs.takeWhile (!endsAuthority kind ·)
  let (user, place) := cutUser text
  -- An empty user asks for a host, unless the text ends with it.
  guard (!(user = some [] && place.isEmpty && text.length < cs.length))
  let (host, after) := cutHost false place
  let port ← port? after
  if kind = .remote then
    guard (!host.isEmpty)
    some (some (← Host.ofText? host), port)
  else if host.isEmpty then
    guard (after.isEmpty && !user.any isPresent)
    some (none, none)
  else some (some (← Host.verbatim? host), port)

/-- Whether a text is the letter of a drive with its colon. -/
def isDrive : List Char → Bool
  | [letter, mark] => letter.isAlpha && (mark = ':' || mark = '|')
  | _ => false

/-- The host at the front of a text that leads to a file. None is needed, and the host that
asks is none. -/
def fileHost? (cs : List Char) : Option (Option Host) :=
  let text := cs.takeWhile (!endsAuthority .file ·)
  if text.isEmpty || isDrive text then some none
  else (Host.ofText? text).map fun host =>
    if host = .name ["localhost"] then none else some host

/-- Whether a character leads to a host. -/
def isSlash (c : Char) : Bool := c = '/' || c = '\\'

/-- The address that a text denotes. -/
def ofText? (text : String) : Option Url := do
  let (scheme, rest) ← scheme? (significant text)
  match Kind.ofScheme scheme with
  | .remote =>
    let (host, port) ← authority? .remote (rest.dropWhile isSlash)
    some ⟨scheme, host, port⟩
  | .file =>
    if (rest.take 2).length = 2 ∧ (rest.take 2).all isSlash then
      some ⟨scheme, ← fileHost? (rest.drop 2), none⟩
    else some ⟨scheme, none, none⟩
  | .other =>
    if rest.take 2 = ['/', '/'] then
      let (host, port) ← authority? .other (rest.drop 2)
      some ⟨scheme, host, port⟩
    else some ⟨scheme, none, none⟩

end Url

end Dispatch
