import WordPairs.Web.Url.Segments

/-!
# Reading URLs

A URL is read from a text, absolute or relative to another.
-/

namespace WordPairs.Web.Url

/-- A text without controls and spaces at its ends. -/
def trimControls (text : List Char) : List Char :=
  let trim (text : List Char) : List Char := text.dropWhile (· ≤ ' ')
  (trim (trim text).reverse).reverse

/-- The scheme of a text, in lower case, and what follows its colon. -/
def cutScheme? (text : List Char) : Option (List Char × List Char) :=
  let isRest (char : Char) : Bool := char.isAlphanum || ['+', '-', '.'].contains char
  match withoutBreaks (text.takeWhile (· ≠ ':')), text.dropWhile (· ≠ ':') with
  | first :: scheme, _ :: rest =>
    if first.isAlpha && scheme.all isRest then some ((first :: scheme).map Char.toLower, rest)
    else none
  | _, _ => none

/-- A text cut into path, query and fragment. -/
def cutTail (text : List Char) : List Char × Option (List Char) × Option (List Char) :=
  let front := text.takeWhile (· ≠ '#')
  let fragment := match text.dropWhile (· ≠ '#') with
    | _ :: fragment => some fragment
    | [] => none
  let query := match front.dropWhile (· ≠ '?') with
    | _ :: query => some query
    | [] => none
  (front.takeWhile (· ≠ '?'), query, fragment)

/-- Puts path, query and fragment of a text behind what is known of a URL. -/
def withTail (url : Url) (path : UrlPath) (query fragment : Option (List Char)) : Url :=
  { url with
    path
    query := query.map (percentEncode (inQuery (isSpecial url.scheme)))
    fragment := fragment.map (percentEncode inFragment) }

/-- Whether a character ends what stands before the path. -/
def endsAuthority (special : Bool) (char : Char) : Bool :=
  isSlash special char || char == '?' || char == '#'

/-! ## Credentials, host and port -/

/-- The texts before and after the last at sign; without one, there is no text before. -/
def cutCredentials (authority : List Char) : Option (List Char) × List Char :=
  let host := (authority.reverse.takeWhile (· ≠ '@')).reverse
  if host.length = authority.length then (none, host)
  else (some (authority.take (authority.length - host.length - 1)), host)

/-- Reads a name and the password behind its colon. Where both are empty, there are none. -/
def readCredentials? (text : List Char) : Option Credentials :=
  let user := percentEncode inCredentials (text.takeWhile (· ≠ ':'))
  match (text.dropWhile (· ≠ ':')).drop 1 with
  | [] => if user.isEmpty then none else some ⟨user, none⟩
  | password => some ⟨user, some (percentEncode inCredentials password)⟩

/-- A host and what follows it from the first colon outside of brackets. -/
def cutHost (inBrackets : Bool) : List Char → List Char × List Char
  | [] => ([], [])
  | char :: rest =>
    if char = ':' && !inBrackets then ([], char :: rest)
    else
      let inBrackets := if char = '[' then true else if char = ']' then false else inBrackets
      let (host, after) := cutHost inBrackets rest
      (char :: host, after)

/-- The port behind a host, which fits in sixteen bits, and what follows it. What follows a port
begins a path, so a backslash must stand there. -/
def readPort? (scheme : List Char) : List Char → Option (Option Nat × List Char)
  | ':' :: text => do
    let digits := text.takeWhile Char.isDigit
    let rest := text.dropWhile Char.isDigit
    let port ← numberOf? 10 digits
    if 65535 < port || !(rest.take 1).all (· == '\\') then none
    else if digits.isEmpty || defaultPort? scheme == some port then some (none, rest)
    else some (some port, rest)
  | _ => some (none, [])

/-- Reads credentials, host, port and all that follows, from a text behind the two slashes. -/
def readAuthority? (scheme text : List Char) : Option Url := do
  let special := isSpecial scheme
  let authority := text.takeWhile (!endsAuthority special ·)
  let rest := text.dropWhile (!endsAuthority special ·)
  let (before, place) := cutCredentials authority
  let credentials := before.bind readCredentials?
  let (host, behind) := cutHost false place
  let (port, pathStart) ← readPort? scheme behind
  let (path, query, fragment) := cutTail (pathStart ++ rest)
  if host.isEmpty && (special || !behind.isEmpty || credentials.isSome
      || (before == some [] && !rest.isEmpty)) then none
  else
    let host ← if special then webHost? host else opaqueHost? host
    some (withTail ⟨scheme, credentials, some host, port, .segments [], none, none⟩
      (readPath special path) query fragment)

/-! ## Files

The path of a file may begin with a drive, and a tab or line end behind a drive counts like a slash.
What is read here may hold tabs and line ends. -/

/-- A drive at the front of a segment, if a tab or line end stands behind it, and what follows. -/
def cutDrive? (segment : List Char) : Option (List Char × List Char) :=
  let drive := (withoutBreaks segment).take 2
  let rest := (withoutBreaks segment).drop 2
  let behind := segment.dropWhile (· ≠ ':')
  if isDrive drive && drive.getLast? == some ':' && !rest.isEmpty
      && (behind.drop 1).head?.any isBreak then some (drive, rest)
  else none

/-- Goes down in the path of a file. Where nothing stands above, and no slash that follows an empty
host, a drive is written with a colon, and a file on it is on no host. -/
def downFile (behindHost : Bool) (walk : Walk) (segment : List Char) : Walk :=
  match walk.before, cutDrive? segment, withoutBreaks segment with
  | [], some (drive, rest), _ => (walk.down drive).down rest
  | [], none, [letter, mark] =>
    if isDrive [letter, mark] && !behindHost then ⟨[[letter, ':']], true⟩
    else walk.down [letter, mark]
  | _, _, plain => walk.down plain

/-- Reads path, query and fragment of a file on a host. Empty segments at the front of a path count
for nothing. -/
def readFilePath (host : List Char) (behindHost : Bool) (text : List Char) : Url :=
  let (path, query, fragment) := cutTail text
  let segments := cutSegments true (withoutSlash true (path.dropWhile isBreak))
  let walk := follow (downFile behindHost) Walk.start segments
  let shown := walk.before.reverse.dropWhile (·.isEmpty)
  let host := if walk.onDrive then [] else host
  withTail ⟨fileScheme, none, some host, none, .segments [], none, none⟩
    (.segments (if shown.isEmpty then [[]] else shown))
    (query.map withoutBreaks) (fragment.map withoutBreaks)

/-- Reads what follows the scheme of a file. The name of the machine itself counts as no host, and a
drive is not a host. -/
def readFile? (text : List Char) : Option Url :=
  let behindNext (text : List Char) : List Char := (text.dropWhile isBreak).drop 1
  let front := (withoutBreaks text).take 2
  if front.length < 2 || !front.all (isSlash true) then some (readFilePath [] false text)
  else
    let place := behindNext (behindNext text)
    let host := (withoutBreaks place).takeWhile (!endsAuthority true ·)
    if isDrive host then some (readFilePath [] false place)
    else if host.isEmpty then some (readFilePath [] true place)
    else do
      let host ← webHost? host
      let isLocal := host == "localhost".toList
      some (readFilePath (if isLocal then [] else host) isLocal
        (place.dropWhile (!endsAuthority true ·)))

/-! ## Whole URLs -/

/-- Reads what follows the scheme of an absolute URL. -/
def readAbsolute? (scheme text : List Char) : Option Url :=
  let plain := withoutBreaks text
  if scheme == fileScheme then readFile? text
  else if isSpecial scheme then readAuthority? scheme (plain.dropWhile (isSlash true))
  else
    match plain with
    | '/' :: '/' :: authority => readAuthority? scheme authority
    | _ =>
      let (path, query, fragment) := cutTail plain
      let bare : Url := ⟨scheme, none, none, none, .segments [], none, none⟩
      some (withTail bare
        (if path.head? == some '/' then readPath false path
          else .opaquePath (percentEncode isControl path)) query fragment)

/-- Reads a text relative to a URL of a special scheme. -/
def readRelative? (base : Url) (text : List Char) : Option Url :=
  let (path, query, fragment) := cutTail text
  let before := match base.path with
    | .segments list => list.dropLast
    | .opaquePath _ => []
  match path with
  | '/' :: '/' :: _ => readAuthority? base.scheme (text.drop 2)
  | first :: second :: _ =>
    if isSlash true first && isSlash true second then
      readAuthority? base.scheme (text.dropWhile (isSlash true))
    else if isSlash true first then some (withTail base (readPath true path) query fragment)
    else some (withTail base (readBehind true before path) query fragment)
  | [first] =>
    if isSlash true first then some (withTail base (readPath true path) query fragment)
    else some (withTail base (readBehind true before path) query fragment)
  | [] =>
    match query with
    | some _ => some (withTail base base.path query fragment)
    | none => some { base with fragment := fragment.map (percentEncode inFragment) }

/-- Reads an absolute URL. -/
def parse? (text : String) : Option Url := do
  let (scheme, rest) ← cutScheme? (trimControls text.toList)
  readAbsolute? scheme rest

/-- Reads a URL that may be relative to another of a special scheme. -/
def resolve? (base : Url) (text : String) : Option Url :=
  let text := trimControls text.toList
  match cutScheme? text with
  | none => readRelative? base (withoutBreaks text)
  | some (scheme, rest) =>
    let plain := withoutBreaks rest
    if scheme == base.scheme && (plain.takeWhile (isSlash true)).length < 2 then
      readRelative? base plain
    else readAbsolute? scheme rest

end WordPairs.Web.Url
