import WordPairs.Web.Url.Basic

/-!
# Targets of requests

Not every URL can be the target of a request. One with a host is read again as a scheme, an
authority and a path, and its authority may hold fewer characters than a URL allows. One without a
host is taken for an authority altogether. In a path or query a target may hold what a URL may.
-/

namespace WordPairs.Web

/-- Whether an authority may hold a character as it is. -/
def isAuthorityChar (char : Char) : Bool :=
  char.isAlphanum || "!$&'()*+,-.;=_~".toList.contains char

/-- What is known of an authority when some of it is read. -/
structure Authority where
  /-- The number of colons that may separate a host from its port. -/
  colons : Nat
  /-- Whether a percent sign stands where a host may hold none. -/
  percent : Bool
  /-- Whether a bracket was opened. -/
  opened : Bool
  /-- Whether a bracket was closed. -/
  closed : Bool
  /-- Whether an at sign was read last. -/
  behindAt : Bool

namespace Authority

/-- The number of colons from which on no more are read: an address of eight numbers has seven, and
one stands before its port. -/
def colonLimit : Nat := 8

/-- Before anything is read. -/
def start : Authority := ⟨0, false, false, false, false⟩

/-- Reads one character. What stands before an at sign is no host, and what stands in brackets is no
port, so that colons and percent signs there do not count. -/
def read (authority : Authority) (char : Char) : Option Authority :=
  let next := { authority with behindAt := false }
  if char = ':' then
    if authority.colons < colonLimit then some { next with colons := authority.colons + 1 }
    else none
  else if char = '[' then
    if authority.percent || authority.opened then none else some { next with opened := true }
  else if char = ']' then
    if !authority.opened || authority.closed then none
    else some { next with closed := true, colons := 0, percent := false }
  else if char = '@' then some { authority with behindAt := true, colons := 0, percent := false }
  else if char = '%' then some { next with percent := true }
  else if isAuthorityChar char then some next
  else none

/-- Whether an authority may end here. -/
def isWhole (authority : Authority) : Bool :=
  authority.opened == authority.closed && authority.colons ≤ 1 && !authority.behindAt &&
    !authority.percent

end Authority

/-- Whether a text can be the authority of a target. -/
def isAuthority (text : List Char) : Bool := (text.foldlM Authority.read .start).any (·.isWhole)

namespace Url

/-- The number of bytes from which on a URL cannot be sent. -/
def sizeLimit : Nat := 65535

/-- The greatest number of characters of a scheme before a host. -/
def schemeLimit : Nat := 64

/-- Whether the URL can be the target of a request. -/
def isSendable (url : Url) : Bool :=
  let named := match url.authority? with
    | some authority =>
      url.scheme.length ≤ schemeLimit && !authority.isEmpty && isAuthority authority
    | none => isAuthority url.text.toList
  named && url.text.utf8ByteSize < sizeLimit

end Url

end WordPairs.Web
