import WordPairs.Web.Host

/-!
# URLs

A URL has a scheme, a place and what to ask for there, and is written in one form.
-/

namespace WordPairs.Web

/-- What comes after the host of a URL. -/
inductive UrlPath where
  /-- A text without structure. -/
  | opaquePath (text : List Char)
  /-- Segments, each written after a slash. -/
  | segments (list : List (List Char))
  deriving DecidableEq

/-- Who asks, in percent encoding. -/
structure Credentials where
  /-- A name, which may be empty. -/
  user : List Char
  /-- A password, which is not empty. -/
  password : Option (List Char)
  deriving DecidableEq

/-- A URL in its parts, each as it is written. -/
structure Url where
  /-- The scheme, in lower case. -/
  scheme : List Char
  /-- What stands before the host. -/
  credentials : Option Credentials
  /-- The host, if the URL names one; it may be empty. -/
  host : Option (List Char)
  /-- The port, if it is not the one that the scheme implies. -/
  port : Option Nat
  /-- The path. -/
  path : UrlPath
  /-- The query, without the question mark. -/
  query : Option (List Char)
  /-- The fragment, without the hash. -/
  fragment : Option (List Char)
  deriving DecidableEq

/-- The port that a scheme implies. The schemes that have one are the special schemes, together
with that of files. -/
def defaultPort? (scheme : List Char) : Option Nat :=
  match String.ofList scheme with
  | "http" => some 80
  | "https" => some 443
  | "ws" => some 80
  | "wss" => some 443
  | "ftp" => some 21
  | _ => none

/-- The scheme of files. -/
def fileScheme : List Char := ['f', 'i', 'l', 'e']

/-- Whether the URLs of a scheme have the form of web addresses. -/
def isSpecial (scheme : List Char) : Bool := (defaultPort? scheme).isSome || scheme == fileScheme

namespace Credentials

/-- Credentials as they stand before a host. -/
def text (credentials : Credentials) : List Char :=
  let password := match credentials.password with
    | some password => ':' :: password
    | none => []
  credentials.user ++ password ++ ['@']

/-- Whether a text in percent encoding stands for characters throughout. -/
def isReadable (text : List Char) : Bool :=
  (String.fromUTF8? (ByteArray.mk (percentDecode text).toArray)).isSome

/-- Whether the credentials can be sent apart from the URL: the name is readable, and if there is
none, the password is. -/
def isSeparable (credentials : Credentials) : Bool :=
  isReadable credentials.user &&
    (!credentials.user.isEmpty || credentials.password.any isReadable)

end Credentials

namespace Url

/-- The path as text. A path that could be taken for a host gets a dot in front. -/
def pathText (url : Url) : List Char :=
  match url.path with
  | .opaquePath text => text
  | .segments list =>
    let text := list.flatMap ('/' :: ·)
    if url.host.isNone && text.take 2 == ['/', '/'] then '/' :: '.' :: text else text

/-- Who asks, the host and the port, as they stand behind two slashes. -/
def authority? (url : Url) : Option (List Char) :=
  let credentials := match url.credentials with
    | some credentials => credentials.text
    | none => []
  let port := match url.port with
    | some port => ':' :: (toString port).toList
    | none => []
  url.host.map (credentials ++ · ++ port)

/-- A URL as text. -/
def text (url : Url) : String :=
  let authority := match url.authority? with
    | some authority => '/' :: '/' :: authority
    | none => []
  let query := match url.query with
    | some query => '?' :: query
    | none => []
  let fragment := match url.fragment with
    | some fragment => '#' :: fragment
    | none => []
  String.ofList (url.scheme ++ [':'] ++ authority ++ url.pathText ++ query ++ fragment)

/-- The URL as it is asked for: the fragment stays with the one who asks. -/
def request (url : Url) : String := ({ url with fragment := none } : Url).text

/-- Whether requests can be made with the scheme. -/
def isRequestable (url : Url) : Bool :=
  url.scheme == "http".toList || url.scheme == "https".toList

/-- The URL without credentials that can be sent apart from it. -/
def withoutCredentials (url : Url) : Url :=
  match url.credentials with
  | some credentials =>
    if credentials.isSeparable then { url with credentials := none } else url
  | none => url

end Url

end WordPairs.Web
