import Mathlib
import WordPairs.Proofs.WordList.Cursor
import WordPairs.Proofs.WordList.Origin

/-!
# The last response

A client is sent from URL to URL until a response sends it no further. This response is reached if
there are at most ten before it, and then it alone decides what the list is, or why there is none.
-/

namespace WordPairs

namespace Web

/-- A request for a URL leads, by way of the URLs that the client is sent on to, to a response that
sends it no further. The servers handle one request after the other. -/
inductive Chain : Url → List Handling → List Url → Response → Prop
  /-- The response sends the client nowhere. -/
  | last {url : Url} {handling : Handling} {response : Response} {later : List Handling}
      (requestable : url.isRequestable = true) (answered : handling.response? = some response)
      (stays : response.target? url = none) :
    Chain url (handling :: later) [url] response
  /-- The response sends the client on. -/
  | next {url target : Url} {handling : Handling} {response final : Response}
      {later : List Handling} {urls : List Url} (requestable : url.isRequestable = true)
      (answered : handling.response? = some response) (sent : response.target? url = some target)
      (chain : Chain target later urls final) :
    Chain url (handling :: later) (url :: urls) final

/-- A text leads to a response over a network, by way of some URLs. The text stands for the first of
them, which a request can be sent to, and a client that lets itself be sent on ten times reaches the
last. -/
def Network.LeadsTo (network : Network) (text : String) (urls : List Url) (response : Response) :
    Prop :=
  ∃ url handlings, (Url.parse? text).map Url.withoutCredentials = some url ∧
    url.isSendable = true ∧ network = .serving handlings ∧ Chain url handlings urls response ∧
    urls.length ≤ 11

/-- A chain asks for its first URL. -/
theorem Chain.isRequestable {url : Url} {handlings : List Handling} {urls : List Url}
    {response : Response} (chain : Chain url handlings urls response) :
    url.isRequestable = true := by
  cases chain with
  | last requestable => exact requestable
  | next requestable => exact requestable

/-- A chain asks for a URL. -/
theorem Chain.length_pos {url : Url} {handlings : List Handling} {urls : List Url}
    {response : Response} (chain : Chain url handlings urls response) : 0 < urls.length := by
  cases chain with
  | last => exact Nat.zero_lt_one
  | next => exact Nat.succ_pos _

section Ask

variable {first url : Url} {left : Nat} {handlings : List Handling} {response : Response}

/-- No more URLs are asked for than the first, and those that the client lets itself be sent on
to. -/
theorem length_requests_ask_le (first url : Url) (left : Nat) (handlings : List Handling) :
    (ask first left url handlings).requests.length ≤ left + 1 := by
  fun_induction ask first left url handlings with
  | case1 => exact Nat.zero_le _
  | case6 _ _ _ _ _ _ _ _ _ _ ih => exact Nat.succ_le_succ ih
  | _ => exact Nat.le_add_left 1 _

/-- A client is sent on only to where a request can be sent. -/
theorem isSendable_of_target? {target : Url} (sent : response.target? url = some target) :
    target.isSendable = true := by
  rw [Response.target?] at sent
  split at sent
  · exact (Option.filter_eq_some_iff.1 sent).2
  · contradiction

/-- If a request can be sent to the first URL, one can be sent to all that are asked for. -/
theorem sendable_of_mem_ask (sendable : url.isSendable = true) {asked : Url}
    (member : asked ∈ (ask first left url handlings).requests) :
    asked.isRequestable = true ∧ asked.isSendable = true := by
  fun_induction ask first left url handlings with
  | case1 => contradiction
  | case6 _ requestable _ _ _ _ _ sent _ _ ih =>
    rcases List.mem_cons.1 member with rfl | later
    · exact ⟨by simpa using requestable, sendable⟩
    · exact ih (isSendable_of_target? sent) later
  | _ =>
    -- Nothing is asked for behind the first URL.
    cases List.mem_singleton.1 member
    simp_all

/-- A response that is found is the last of a chain of the URLs asked for. -/
theorem chain_of_ask (found : (ask first left url handlings).result = .ok response) :
    Chain url handlings (ask first left url handlings).requests response := by
  fun_induction ask first left url handlings with
  | case4 _ _ requestable _ _ _ answered stays =>
    cases found
    exact .last (by simpa using requestable) answered stays
  | case6 _ requestable _ _ _ answered _ sent _ _ ih =>
    exact .next (by simpa using requestable) answered sent (ih found)
  | _ => contradiction

/-- The last response of a chain is found, if the client lets itself be sent on so many times. -/
theorem ask_of_chain {urls : List Url} (chain : Chain url handlings urls response) (first : Url)
    (enough : urls.length ≤ left + 1) :
    ask first left url handlings = ⟨.ok response, urls⟩ := by
  -- Every link but the last uses up one of the times left.
  induction chain generalizing left with
  | last requestable answered stays =>
    rw [ask.eq_def]
    simp [requestable, answered, stays]
  | next requestable answered sent chain ih =>
    have shorter := Nat.le_of_succ_le_succ enough
    cases left with
    | zero => exact absurd chain.length_pos (Nat.not_lt.2 shorter)
    | succ left =>
      rw [ask.eq_def]
      simp [requestable, answered, sent, ih shorter]

end Ask

section Get

variable {text : String} {network : Network} {urls : List Url} {response : Response}

/-- At most eleven URLs are asked for. -/
theorem length_requests_get_le (text : String) (network : Network) :
    (get text network).requests.length ≤ 11 := by
  rcases get_cases text network with ⟨cause, refused⟩ | ⟨url, handlings, _, _, _, asked⟩
  · rw [refused]
    exact Nat.zero_le _
  · rw [asked]
    exact length_requests_ask_le url url redirectLimit handlings

/-- No request is made that cannot be sent. -/
theorem sendable_of_mem_get {asked : Url} (member : asked ∈ (get text network).requests) :
    asked.isRequestable = true ∧ asked.isSendable = true := by
  rcases get_cases text network with ⟨cause, refused⟩ | ⟨url, handlings, _, sendable, _, asked⟩
  · rw [refused] at member
    contradiction
  · rw [asked] at member
    exact sendable_of_mem_ask sendable member

/-- What is got is the response that the text leads to, if there is one. -/
theorem get_eq_ok_iff :
    get text network = ⟨.ok response, urls⟩ ↔ network.LeadsTo text urls response := by
  constructor
  · intro got
    have few := length_requests_get_le text network
    rcases get_cases text network with ⟨cause, refused⟩ |
      ⟨url, handlings, parsed, sendable, serving, asked⟩
    · rw [refused] at got
      cases got
    · rw [got] at few asked
      have chain : Chain url handlings (ask url redirectLimit url handlings).requests response :=
        chain_of_ask (congrArg Exchange.result asked.symm)
      rw [← asked] at chain
      exact ⟨url, handlings, parsed, sendable, serving, chain, few⟩
  · rintro ⟨url, handlings, parsed, sendable, rfl, chain, few⟩
    simp only [get, parsed, chain.isRequestable, sendable]
    exact ask_of_chain chain url few

/-- The response that a text leads to is the last one: it is not followed. -/
def Network.Last (network : Network) (text : String) (response : Response) : Prop :=
  ∃ urls, network.LeadsTo text urls response

/-- The last response is the one that is got. -/
theorem result_get_eq_ok_iff :
    (get text network).result = .ok response ↔ network.Last text response := by
  constructor
  · intro got
    have whole : get text network = ⟨.ok response, (get text network).requests⟩ := by rw [← got]
    exact ⟨_, get_eq_ok_iff.1 whole⟩
  · rintro ⟨urls, leads⟩
    rw [get_eq_ok_iff.2 leads]

end Get

namespace Response

/-- A response with a status from 200 to 299. -/
def Succeeds (response : Response) : Prop := 200 ≤ response.status ∧ response.status ≤ 299

instance (response : Response) : Decidable response.Succeeds :=
  inferInstanceAs (Decidable (200 ≤ response.status ∧ response.status ≤ 299))

/-- The body of a success is received in full. With the status 204 that is no byte, whatever is
sent. -/
inductive Receives (response : Response) : List UInt8 → Prop
  /-- There is no body to receive. -/
  | nothing (bodiless : response.status = 204) : Receives response []
  /-- All the bytes that are promised are sent. -/
  | whole (bodied : response.status ≠ 204) (complete : response.missing = 0) :
    Receives response response.body

variable {response : Response}

/-- The statuses of a success are those from 200 to 299. -/
theorem isSuccess_iff : isSuccess response.status = true ↔ response.Succeeds := by
  simp only [isSuccess, Succeeds, Bool.and_eq_true, decide_eq_true_eq]
  omega

/-- The body of a success is read if it is received in full. -/
theorem read_eq_ok_iff (succeeds : response.Succeeds) {body : List UInt8} :
    response.read = .ok body ↔ response.Receives body := by
  have bodied : isBodiless response.status = true ↔ response.status = 204 := by
    have most := succeeds.2
    have least := succeeds.1
    simp only [isBodiless, Bool.or_eq_true, beq_iff_eq]
    omega
  rw [read]
  constructor
  · intro given
    split at given
    · next bodiless =>
      cases given
      exact .nothing (bodied.1 bodiless)
    · next sent =>
      split at given
      · contradiction
      · next complete =>
        cases given
        exact .whole (mt bodied.2 sent) (Nat.eq_zero_of_not_pos complete)
  · intro received
    cases received with
    | nothing bodiless => rw [if_pos (bodied.2 bodiless)]
    | whole sent complete =>
      rw [if_neg (mt bodied.1 sent), if_neg (Nat.not_lt_of_le (Nat.le_of_eq complete))]

end Response

end Web

namespace WordOrigin

open Web

variable {url : String} {network : Network} {response : Response} {list : WordList}

/-- A response that is no success is reported with the URL that was asked for first. -/
theorem ofResponse_of_not_succeeds (failed : ¬response.Succeeds) :
    ofResponse url response = .error (.httpStatus url response.status) :=
  if_neg (mt Response.isSuccess_iff.1 failed)

/-- The body of a success that is received in full is parsed. -/
theorem ofResponse_of_receives (succeeds : response.Succeeds) {body : List UInt8}
    (received : response.Receives body) : ofResponse url response = WordList.parse body := by
  rw [ofResponse, if_pos (Response.isSuccess_iff.2 succeeds),
    (Response.read_eq_ok_iff succeeds).2 received]

/-- From a success that is not received in full no list is read. -/
theorem ofResponse_of_not_receives (url : String) (succeeds : response.Succeeds)
    (cut : ∀ body, ¬response.Receives body) :
    ∃ cause, ofResponse url response = .error (.transport cause) := by
  cases read : response.read with
  | error cause =>
    refine ⟨cause, ?_⟩
    rw [ofResponse, if_pos (Response.isSuccess_iff.2 succeeds), read]
  | ok body => exact absurd ((Response.read_eq_ok_iff succeeds).1 read) (cut body)

/-- What comes of loading a list from the web is decided by the last response. -/
theorem result_loadWeb_of_last (last : network.Last url response) :
    (loadWeb url network).result = ofResponse url response := by
  simp only [loadWeb, result_get_eq_ok_iff.2 last]
  split
  · next refused => exact refused.symm
  · next held => exact held.symm

/-- Without a last response there is no list. -/
theorem result_loadWeb_of_not_last (alone : ∀ response, ¬network.Last url response) :
    ∃ cause, (loadWeb url network).result = .error (.transport cause) := by
  cases got : (get url network).result with
  | error cause =>
    refine ⟨cause, ?_⟩
    simp only [loadWeb, got]
  | ok response => exact absurd (result_get_eq_ok_iff.1 got) (alone response)

/-- How loading a list from the web ends. -/
inductive Ended (url : String) (network : Network) : Except Error WordList → Prop
  /-- There is no last response. -/
  | unanswered {cause : TransportError} (alone : ∀ response, ¬network.Last url response) :
    Ended url network (.error (.transport cause))
  /-- The last response is no success. -/
  | refused {response : Response} (last : network.Last url response)
      (failed : ¬response.Succeeds) :
    Ended url network (.error (.httpStatus url response.status))
  /-- The last response is a success that is not received in full. -/
  | cut {response : Response} {cause : TransportError} (last : network.Last url response)
      (succeeds : response.Succeeds) (cut : ∀ body, ¬response.Receives body) :
    Ended url network (.error (.transport cause))
  /-- The last response is a success with an empty body. -/
  | empty {response : Response} (last : network.Last url response)
      (succeeds : response.Succeeds) (received : response.Receives []) :
    Ended url network (.error .emptyWordList)
  /-- The last response is a success with a list. -/
  | read {response : Response} {body : List UInt8} {list : WordList}
      (last : network.Last url response) (succeeds : response.Succeeds)
      (received : response.Receives body) (parsed : WordList.parse body = .ok list) :
    Ended url network (.ok list)

/-- Loading a list from the web ends in one of these ways. -/
theorem loadWeb_ended (url : String) (network : Network) :
    Ended url network (loadWeb url network).result := by
  by_cases alone : ∀ response, ¬network.Last url response
  · obtain ⟨cause, failed⟩ := result_loadWeb_of_not_last alone
    rw [failed]
    exact .unanswered alone
  · simp only [Classical.not_forall, Classical.not_not] at alone
    obtain ⟨response, last⟩ := alone
    rw [result_loadWeb_of_last last]
    by_cases succeeds : response.Succeeds
    · by_cases cut : ∀ body, ¬response.Receives body
      · obtain ⟨cause, failed⟩ := ofResponse_of_not_receives url succeeds cut
        rw [failed]
        exact .cut last succeeds cut
      · simp only [Classical.not_forall, Classical.not_not] at cut
        obtain ⟨body, received⟩ := cut
        rw [ofResponse_of_receives succeeds received]
        cases parsed : WordList.parse body with
        | ok list => exact .read last succeeds received parsed
        | error cause =>
          obtain ⟨rfl, rfl⟩ := WordList.parse_eq_error_iff.1 parsed
          exact .empty last succeeds received
    · rw [ofResponse_of_not_succeeds succeeds]
      exact .refused last succeeds

section Outcomes

/-- There is a list exactly if the last response is a success that holds one. -/
theorem result_loadWeb_eq_ok_iff :
    (loadWeb url network).result = .ok list ↔ ∃ response body, network.Last url response ∧
      response.Succeeds ∧ response.Receives body ∧ body ≠ [] ∧ WordList.parse body = .ok list := by
  have ended := loadWeb_ended url network
  constructor
  · intro loaded
    rw [loaded] at ended
    cases ended with
    | read last succeeds received parsed =>
      refine ⟨_, _, last, succeeds, received, ?_, parsed⟩
      rintro rfl
      have refused := WordList.parse_eq_error_iff.2 ⟨rfl, rfl⟩
      exact absurd (parsed.symm.trans refused) (by simp)
  · rintro ⟨response, body, last, succeeds, received, _, parsed⟩
    rw [result_loadWeb_of_last last, ofResponse_of_receives succeeds received, parsed]

/-- A status is reported exactly if it is that of a last response that is no success, and with it
the URL that was asked for first. -/
theorem result_loadWeb_eq_httpStatus_iff {address : String} {status : Nat} :
    (loadWeb url network).result = .error (.httpStatus address status) ↔ ∃ response,
      network.Last url response ∧ ¬response.Succeeds ∧ address = url ∧
        status = response.status := by
  have ended := loadWeb_ended url network
  constructor
  · intro refused
    rw [refused] at ended
    cases ended with
    | refused last failed => exact ⟨_, last, failed, rfl, rfl⟩
  · rintro ⟨response, last, failed, rfl, rfl⟩
    rw [result_loadWeb_of_last last, ofResponse_of_not_succeeds failed]

-- A client that is sent on to a file goes no further.
example :
    let on : Response := ⟨302, some "file:///b", [], 0, rfl⟩
    let list : Response := ⟨200, none, [99], 0, rfl⟩
    (loadWeb "http://a/" (.serving [.answered on, .answered list])).result =
      .error (.httpStatus "http://a/" 302) := by cbv

/-- A list is refused as empty exactly if the last response is a success with an empty body. -/
theorem result_loadWeb_eq_empty_iff :
    (loadWeb url network).result = .error .emptyWordList ↔ ∃ response,
      network.Last url response ∧ response.Succeeds ∧ response.Receives [] := by
  have ended := loadWeb_ended url network
  constructor
  · intro none
    rw [none] at ended
    cases ended with
    | empty last succeeds received => exact ⟨_, last, succeeds, received⟩
  · rintro ⟨response, last, succeeds, received⟩
    rw [result_loadWeb_of_last last, ofResponse_of_receives succeeds received]
    exact WordList.parse_eq_error_iff.2 ⟨rfl, rfl⟩

/-- The transport fails exactly if there is no last response, or it is a success that is not
received in full. -/
theorem result_loadWeb_eq_transport_iff :
    (∃ cause, (loadWeb url network).result = .error (.transport cause)) ↔
      ∀ response, network.Last url response →
        response.Succeeds ∧ ∀ body, ¬response.Receives body := by
  constructor
  · rintro ⟨cause, failed⟩ response last
    rw [result_loadWeb_of_last last] at failed
    by_cases succeeds : response.Succeeds
    · refine ⟨succeeds, fun body received => ?_⟩
      rw [ofResponse_of_receives succeeds received, WordList.parse_eq_error_iff] at failed
      exact absurd failed.2 (by simp)
    · rw [ofResponse_of_not_succeeds succeeds] at failed
      exact absurd failed (by simp)
  · intro cut
    have ended := loadWeb_ended url network
    generalize (loadWeb url network).result = result at ended ⊢
    cases ended with
    | unanswered => exact ⟨_, rfl⟩
    | cut => exact ⟨_, rfl⟩
    | refused last failed => exact absurd (cut _ last).1 failed
    | empty last _ received => exact absurd received ((cut _ last).2 _)
    | read last _ received => exact absurd received ((cut _ last).2 _)

end Outcomes

/-- It is told that a list is asked for, and if there is one, that it is received. -/
theorem events_loadWeb (url : String) (network : Network) :
    (∀ list, (loadWeb url network).result = .ok list →
      (loadWeb url network).events = [.fetching url, .fetched url list.size]) ∧
    ∀ cause, (loadWeb url network).result = .error cause →
      (loadWeb url network).events = [.fetching url] := by
  simp only [loadWeb]
  split
  · exact ⟨fun _ loaded => by contradiction, fun _ _ => rfl⟩
  · split
    · exact ⟨fun _ loaded => by contradiction, fun _ _ => rfl⟩
    · refine ⟨fun list loaded => ?_, fun _ failed => by contradiction⟩
      cases loaded
      rfl

/-- At most eleven URLs are asked for. -/
theorem length_requests_loadWeb_le (url : String) (network : Network) :
    (loadWeb url network).requests.length ≤ 11 := by
  have few := length_requests_get_le url network
  simp only [loadWeb]
  split
  · exact few
  · split <;> exact few

/-- The last response alone decides what comes of loading a list from the web. At most eleven
requests are made, and wherever the same response is the last, the result is the same. There is a
list exactly if a last response is reached, its status is from 200 to 299, and its body is received
in full and not empty; the list is then the one that the body is parsed to. Any other status is
reported with the URL that was given, whatever the body; an empty body is refused as an empty list;
and in every other case the transport fails. That a list is asked for is told first, that it is
received is told exactly if it is, and nothing else is told. -/
theorem loadWeb_decided_by_last_response (url : String) (network : Network) :
    let loading := loadWeb url network
    loading.requests.length ≤ 11 ∧
    (∀ other response, network.Last url response → other.Last url response →
      loading.result = (loadWeb url other).result) ∧
    (∀ list, loading.result = .ok list ↔ ∃ response body, network.Last url response ∧
      response.Succeeds ∧ response.Receives body ∧ body ≠ [] ∧
        WordList.parse body = .ok list) ∧
    (∀ address status, loading.result = .error (.httpStatus address status) ↔
      ∃ response, network.Last url response ∧ ¬response.Succeeds ∧ address = url ∧
        status = response.status) ∧
    (loading.result = .error .emptyWordList ↔ ∃ response, network.Last url response ∧
      response.Succeeds ∧ response.Receives []) ∧
    ((∃ cause, loading.result = .error (.transport cause)) ↔ ∀ response,
      network.Last url response → response.Succeeds ∧ ∀ body, ¬response.Receives body) ∧
    (∀ failure, loading.result = .error failure → (∃ status, failure = .httpStatus url status) ∨
      failure = .emptyWordList ∨ ∃ cause, failure = .transport cause) ∧
    (∀ list, loading.result = .ok list →
      loading.events = [.fetching url, .fetched url list.size]) ∧
    ∀ failure, loading.result = .error failure → loading.events = [.fetching url] := by
  intro loading
  refine ⟨length_requests_loadWeb_le url network, fun other response last also => ?_,
    fun list => result_loadWeb_eq_ok_iff, fun address status => result_loadWeb_eq_httpStatus_iff,
    result_loadWeb_eq_empty_iff, result_loadWeb_eq_transport_iff, fun failure failed => ?_,
    events_loadWeb url network⟩
  · have first : loading.result = ofResponse url response := result_loadWeb_of_last last
    rw [first, result_loadWeb_of_last also]
  · have ended : Ended url network loading.result := loadWeb_ended url network
    rw [failed] at ended
    cases ended with
    | unanswered => exact .inr (.inr ⟨_, rfl⟩)
    | cut => exact .inr (.inr ⟨_, rfl⟩)
    | refused => exact .inl ⟨_, rfl⟩
    | empty => exact .inr (.inl rfl)

/-- A list is received from the place that a client is sent on to, whatever is announced before. A
client that is sent round in a circle gives up, though the server would go on. -/
theorem loadWeb_decided_by_last_response_sent_on :
    let on : Response := ⟨302, some "/b", [], 0, rfl⟩
    let list : Handling := .answered ⟨200, none, [99], 0, rfl⟩
    let found := loadWeb "http://a/" (.serving [.announced (.answered on), list])
    let astray := loadWeb "http://a/" (.serving (List.replicate 12 (.answered on)))
    found.result = .ok ⟨#[[99]], by decide⟩ ∧
      found.events = [.fetching "http://a/", .fetched "http://a/" 1] ∧
      ∃ cause, astray.result = .error (.transport cause) := by
  intro on list found astray
  have first : (Web.get "http://a/" (.serving [.announced (.answered on), list])).result =
      .ok ⟨200, none, [99], 0, rfl⟩ := by cbv
  have never : (Web.get "http://a/" (.serving (List.replicate 12 (.answered on)))).result =
      .error (.tooManyRedirects "http://a/") := by cbv
  have parsed : WordList.parse [99] = .ok ⟨#[[99]], by decide⟩ := by cbv
  obtain ⟨_, _, lists, _, _, _, _, told, _⟩ := loadWeb_decided_by_last_response "http://a/"
    (.serving [.announced (.answered on), list])
  have loaded : found.result = .ok ⟨#[[99]], by decide⟩ :=
    (lists _).2 ⟨_, [99], result_get_eq_ok_iff.1 first, by decide,
      .whole (by decide) rfl, List.cons_ne_nil _ _, parsed⟩
  refine ⟨loaded, told _ loaded, ?_⟩
  refine (loadWeb_decided_by_last_response "http://a/" (.serving (List.replicate 12
    (.answered on)))).2.2.2.2.2.1.2 fun response last => ?_
  have got := result_get_eq_ok_iff.2 last
  rw [never] at got
  contradiction

end WordOrigin

end WordPairs
