import AwsCredentials.Text.Ascii

/-!
# Addresses

An address names the scheme, the host and the path of a request. `Address.parse?` reads one from a
text such as `https://host:8443/path?query#fragment`; the query and the fragment are checked and
dropped. A scheme other than the two usual ones is kept as it is written.
-/

namespace AwsCredentials

/-- Where a request goes to. -/
structure Address where
  scheme : String
  /-- The host with what may stand around it: a user before it and a port after it. -/
  host : String
  path : String
  deriving DecidableEq, Repr, Inhabited

namespace Address

/-- The scheme and the host. -/
def origin (a : Address) : String := a.scheme ++ "://" ++ a.host

/-- The longest address, in bytes. -/
def maxLength : Nat := 65534

/-- The longest scheme, in characters. -/
def maxSchemeLength : Nat := 64

/-- Whether a character may stand in a scheme. -/
def isSchemeChar (c : Char) : Bool :=
  c.isAlphanum || "+-.~".toList.contains c

/-- The scheme of an address and what follows the two slashes after it. -/
def takeScheme? (cs : List Char) : Option (String × List Char) := do
  let (scheme, rest) ← Text.cut? ':' cs
  let rest ← Text.dropStart? ['/', '/'] rest
  let name := String.ofList scheme
  if scheme.isEmpty || !scheme.all isSchemeChar || maxSchemeLength < scheme.length then none
  else if ["http", "https"].contains (Text.asciiLower name) then
    return (Text.asciiLower name, rest)
  else return (name, rest)

/-- What has been seen of a host. -/
structure HostScan where
  /-- The colons after the last at sign and after the closing bracket. -/
  colons : Nat := 0
  opened : Bool := false
  closed : Bool := false
  /-- Whether a percent sign stands after the last at sign and after the closing bracket. -/
  percent : Bool := false
  /-- Whether the last character was an at sign. -/
  bare : Bool := true
  deriving DecidableEq, Repr

namespace HostScan

/-- The most colons that an address in brackets has. -/
def maxColons : Nat := 8

/-- One more character of a host. -/
def step (s : HostScan) (c : Char) : Option HostScan :=
  let s := { s with bare := false }
  match c with
  | ':' => if maxColons ≤ s.colons then none else some { s with colons := s.colons + 1 }
  | '[' => if s.percent || s.opened then none else some { s with opened := true }
  | ']' =>
    if !s.opened || s.closed then none
    else some { s with closed := true, colons := 0, percent := false }
  | '@' => some { s with colons := 0, percent := false, bare := true }
  | '%' => some { s with percent := true }
  | c => if c.isAlphanum || "!$&'()*+,-.;=_~".toList.contains c then some s else none

/-- Whether a host may end here: its brackets are closed, and it has at most one port. -/
def isWhole (s : HostScan) : Bool :=
  s.opened == s.closed && s.colons ≤ 1 && !s.percent && !s.bare

end HostScan

/-- Whether the characters are a host. -/
def isHost (cs : List Char) : Bool :=
  (cs.foldlM HostScan.step {}).any HostScan.isWhole

/-- Whether a character ends the host of an address. -/
def endsHost (c : Char) : Bool := c == '/' || c == '?' || c == '#'

/-- Whether a character may stand in a path. -/
def isPathChar (c : Char) : Bool :=
  0x21 ≤ c.toNat && !"#<>?`".toList.contains c

/-- Whether a character may stand in a query. -/
def isQueryChar (c : Char) : Bool :=
  0x21 ≤ c.toNat && !"\"#<>".toList.contains c

/-- The path of an address, the rest of which is checked. -/
def takePath? (cs : List Char) : Option String :=
  let path := cs.takeWhile fun c => c != '?' && c != '#'
  let query := (cs.dropWhile fun c => c != '?' && c != '#').takeWhile (· != '#')
  if path.all isPathChar && query.all isQueryChar then
    some (if path.isEmpty then "/" else String.ofList path)
  else none

/-- Reads an address, which must name a scheme and a host. -/
def parse? (s : String) : Option Address := do
  if maxLength < s.utf8ByteSize then none
  let (scheme, rest) ← takeScheme? s.toList
  let host := rest.takeWhile fun c => !endsHost c
  if !isHost host then none
  let path ← takePath? (rest.dropWhile fun c => !endsHost c)
  return ⟨scheme, String.ofList host, path⟩

/-- The path of a request to the root below an address. -/
def rootPath (a : Address) : String :=
  if a.path.toList.getLast? = some '/' then a.path else a.path ++ "/"

end Address

end AwsCredentials
