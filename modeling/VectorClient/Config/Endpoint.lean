import VectorClient.Config.Settings

/-!
# Endpoints

The url of a server: a path of a local socket behind `unix:`, or an address of the general form
`scheme://authority/path?query`, of which an authority or a path may also stand alone.
-/

namespace VectorClient

namespace Endpoint

/-! ### Parts of an address -/

def isSchemeChar (c : Char) : Bool := c.isAlphanum || c ∈ ['+', '-', '.', '~']

def isAuthorityChar (c : Char) : Bool :=
  c.isAlphanum || c ∈ ['!', '$', '&', '\x27', '(', ')', '*', '+', ',', '-', '.', ';', '=', '_', '~']

def endsAuthority (c : Char) : Bool := c = '/' || c = '?' || c = '#'

/-- Characters beyond ASCII stand in paths and queries as they are. -/
def isPathChar (c : Char) : Bool :=
  c ∈ ['!', '"', '=', '\x7b', '|', '\x7d', '~'] || '$' ≤ c && c ≤ ';' || '@' ≤ c && c ≤ '_' ||
    'a' ≤ c && c ≤ 'z' || '\x7f' < c

def isQueryChar (c : Char) : Bool :=
  c = '!' || '$' ≤ c && c ≤ ';' || c = '=' || '?' ≤ c && c ≤ '~' || '\x7f' < c

def maxSchemeLength : Nat := 64

/-- The longest address, in bytes. -/
def maxLength : Nat := 65534

/-- What has been seen of an authority. Colons and percent signs count from the last at sign or
closing bracket on. -/
structure Seen where
  colons : Nat := 0
  opened : Bool := false
  closed : Bool := false
  percent : Bool := false
deriving DecidableEq, Repr

def maxColons : Nat := 8

def Seen.add (s : Seen) (c : Char) : Option Seen :=
  if c = ':' then if maxColons ≤ s.colons then none else some { s with colons := s.colons + 1 }
  else if c = '[' then if s.percent || s.opened then none else some { s with opened := true }
  else if c = ']' then
    if !s.opened || s.closed then none
    else some { s with closed := true, colons := 0, percent := false }
  else if c = '@' then some { s with colons := 0, percent := false }
  else if c = '%' then some { s with percent := true }
  else if isAuthorityChar c then some s
  else none

/-- At most one colon, paired brackets, a host behind an at sign, and no percent sign in the host. -/
def isAuthority (cs : List Char) : Bool :=
  match cs.foldlM Seen.add {} with
  | none => false
  | some s => s.opened == s.closed && s.colons ≤ 1 && cs.getLast? ≠ some '@' && !s.percent

/-- A path, then perhaps a query behind a question mark, then anything behind a number sign. -/
def isPathAndQuery (cs : List Char) : Bool :=
  match cs.dropWhile isPathChar with
  | [] => true
  | '#' :: _ => true
  | '?' :: rest =>
    match rest.dropWhile isQueryChar with
    | [] => true
    | '#' :: _ => true
    | _ => false
  | _ => false

/-- What follows `scheme://`, and the length of the scheme. -/
def afterScheme? (cs : List Char) : Option (Nat × List Char) :=
  match cs.dropWhile isSchemeChar with
  | ':' :: '/' :: '/' :: rest => some ((cs.takeWhile isSchemeChar).length, rest)
  | _ => none

/-- An authority that stands alone, or a scheme with an authority and what follows it. -/
def isAddress (cs : List Char) : Bool :=
  match afterScheme? cs with
  | none => isAuthority cs
  | some (length, rest) =>
    let authority := rest.takeWhile (!endsAuthority ·)
    length ≤ maxSchemeLength && isAuthority authority && !authority.isEmpty &&
      isPathAndQuery (rest.dropWhile (!endsAuthority ·))

def isValidUrl (url : String) : Bool :=
  let cs := url.toList
  if "unix:".toList.isPrefixOf cs then true
  else if maxLength < url.utf8ByteSize then false
  else match cs with
    | [] => false
    | '/' :: _ => isPathAndQuery cs
    | _ => isAddress cs

end Endpoint

/-- The version that a connection with these settings reports; the url is checked first. -/
def Settings.connect (s : Settings) : Except Error Version := do
  if !Endpoint.isValidUrl s.url then throw (.config (.url s.url))
  let caps ← s.capabilities
  return caps.version

end VectorClient
