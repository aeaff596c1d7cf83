import WordPairs.WordList.Origin

/-!
# Lists are no longer than their texts

Every line of a text takes a byte, so that a list has no more words than its text has bytes. The
text of a list on the web is the body of a response that the network has given. What bounds the
bodies of all responses bounds the lists as well.
-/

namespace WordPairs

namespace Line

/-- Cutting a text into lines adds no more lines than it has bytes. -/
theorem length_linesOnto_le (reversed : List Line) (text : List UInt8) :
    (linesOnto reversed text).length ≤ reversed.length + text.length := by
  fun_induction linesOnto reversed text with
  | case1 reversed =>
    rw [List.length_reverse]
    exact Nat.le_add_right _ _
  | case2 reversed byte rest ih =>
    have shorter := length_cut_lt (List.cons_ne_nil byte rest)
    rw [List.length_cons] at ih
    omega

end Line

namespace WordList

/-- A list has no more words than its text has bytes. -/
theorem size_le_of_parse {text : List UInt8} {list : WordList} (parsed : parse text = .ok list) :
    list.size ≤ text.length := by
  rw [parse, ofWords] at parsed
  split at parsed
  · cases parsed
    have cut := Line.length_linesOnto_le [] text
    rw [List.length_nil, Nat.zero_add] at cut
    rw [size, List.size_toArray, List.length_map]
    exact cut
  · contradiction

end WordList

namespace Web

/-- A response that the network can give. -/
def Network.Answers (response : Response) : Network → Prop
  | unreachable => False
  | serving handlings => ∃ handling ∈ handlings, handling.response? = some response

/-- The answer to a request is one of the final responses that are sent. -/
theorem exists_handling_of_ask {first url : Url} {left : Nat} {handlings : List Handling}
    {response : Response} (asked : (ask first left url handlings).result = .ok response) :
    ∃ handling ∈ handlings, handling.response? = some response := by
  fun_induction ask first left url handlings with
  | case4 _ _ _ handling _ _ sent =>
    cases asked
    exact ⟨handling, List.mem_cons_self, sent⟩
  | case6 _ _ _ _ _ _ _ _ _ _ ih =>
    obtain ⟨handling, member, sent⟩ := ih asked
    exact ⟨handling, List.mem_cons_of_mem _ member, sent⟩
  | _ => contradiction

/-- Nothing is asked for, or the URL that the text stands for, of the servers of the network. -/
theorem get_cases (text : String) (network : Network) :
    (∃ cause, get text network = ⟨.error cause, []⟩) ∨ ∃ url handlings,
      (Url.parse? text).map Url.withoutCredentials = some url ∧ url.isSendable = true ∧
        network = .serving handlings ∧
          get text network = ask url redirectLimit url handlings := by
  rw [get]
  split
  · exact .inl ⟨_, rfl⟩
  · next url parsed =>
    split
    · exact .inl ⟨_, rfl⟩
    · split
      · exact .inl ⟨_, rfl⟩
      · next sendable =>
        cases network with
        | unreachable => exact .inl ⟨_, rfl⟩
        | serving handlings =>
          exact .inr ⟨url, handlings, parsed, by simpa using sendable, rfl, rfl⟩

/-- What is got from a network is a response that it can give. -/
theorem answers_of_get {text : String} {network : Network} {response : Response}
    (got : (get text network).result = .ok response) : network.Answers response := by
  rcases get_cases text network with ⟨cause, refused⟩ | ⟨url, handlings, _, _, rfl, asked⟩
  · rw [refused] at got
    contradiction
  · rw [asked] at got
    exact exists_handling_of_ask got

end Web

namespace WordOrigin

/-- The list of a response has no more words than its body has bytes. -/
theorem size_le_of_response {url : String} {response : Web.Response} {list : WordList}
    (held : ofResponse url response = .ok list) : list.size ≤ response.body.length := by
  rw [ofResponse] at held
  split at held
  · split at held
    · next body read =>
      have bounded := WordList.size_le_of_parse held
      rw [Web.Response.read] at read
      split at read
      · cases read
        exact Nat.le_trans bounded (Nat.zero_le _)
      · split at read
        · contradiction
        · cases read
          exact bounded
    · contradiction
  · contradiction

/-- A list on the web has no more words than a response of the network has bytes. -/
theorem size_le_of_loadWeb {url : String} {network : Web.Network} {list : WordList}
    (loaded : (loadWeb url network).result = .ok list) :
    ∃ response, network.Answers response ∧ list.size ≤ response.body.length := by
  rw [loadWeb] at loaded
  cases got : (Web.get url network).result with
  | error cause =>
    rw [got] at loaded
    contradiction
  | ok response =>
    refine ⟨response, Web.answers_of_get got, ?_⟩
    simp only [got] at loaded
    split at loaded
    · contradiction
    · next held =>
      cases loaded
      exact size_le_of_response held

end WordOrigin

end WordPairs
