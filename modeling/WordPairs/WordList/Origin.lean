import WordPairs.Event
import WordPairs.Files.Tree
import WordPairs.Web.Exchange
import WordPairs.WordList.Basic

/-!
# Where word lists come from

A word list is given, or it is the lines of a file or of a document on the web.
-/

namespace WordPairs

/-- A place that a word list is loaded from. -/
inductive WordOrigin where
  /-- The list is at hand. -/
  | given (list : WordList)
  /-- The list is in a file. -/
  | file (path : Path)
  /-- The list is a document on the web. -/
  | web (url : String)

/-- What loading a word list brings. -/
structure Loading where
  /-- The list, or why there is none. -/
  result : Except Error WordList
  /-- The events in the order in which they happened. -/
  events : List Event
  /-- The URLs that were asked for. -/
  requests : List Web.Url

namespace WordOrigin

/-- The document that word lists are taken from by default. -/
def defaultUrl : String :=
  "http://svnweb.freebsd.org/csrg/share/dict/words?view=co&content-type=text/plain"

/-- The word list that a response holds. Only a success is read, and failures name the URL that was
asked for first. -/
def ofResponse (url : String) (response : Web.Response) : Except Error WordList :=
  if Web.isSuccess response.status then
    match response.read with
    | .ok body => WordList.parse body
    | .error cause => .error (.transport cause)
  else .error (.httpStatus url response.status)

/-- Loads the list of a file. -/
def loadFile (path : Path) (tree : Tree) : Loading :=
  match tree.read path with
  | .error cause => ⟨.error (.io cause), [], []⟩
  | .ok text =>
    match WordList.parse text with
    | .error cause => ⟨.error cause, [], []⟩
    | .ok list => ⟨.ok list, [.loaded path.text list.size], []⟩

/-- Loads the list of a document on the web. -/
def loadWeb (url : String) (network : Web.Network) : Loading :=
  let exchange := Web.get url network
  match exchange.result with
  | .error cause => ⟨.error (.transport cause), [.fetching url], exchange.requests⟩
  | .ok response =>
    match ofResponse url response with
    | .error cause => ⟨.error cause, [.fetching url], exchange.requests⟩
    | .ok list => ⟨.ok list, [.fetching url, .fetched url list.size], exchange.requests⟩

/-- Loads a word list. -/
def load (origin : WordOrigin) (network : Web.Network) (tree : Tree) : Loading :=
  match origin with
  | given list => ⟨.ok list, [], []⟩
  | file path => loadFile path tree
  | web url => loadWeb url network

end WordOrigin

end WordPairs
