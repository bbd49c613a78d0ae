import Mathlib.Data.List.Basic

/-!
# A client that follows redirects

A request goes to the host of its parsed URL. Each redirect leads to a URL of
the network's choice, up to the limit of the client's policy, and the
response that ends the chain is the one the caller sees.
-/

set_option autoImplicit false

namespace ZkTls.HttpClient

structure Client where
  Url : Type
  parse : String → Except String Url
  host : Url → String
  text : Url → String
  redirectLimit : ℕ

inductive Answer (Url : Type) where
  | redirect (target : Url)
  | response (code : ℕ) (body : Except String String)
  | broken (e : String)

/-- What the network answers, given the URLs requested so far. -/
abbrev Upstream (Url : Type) := List Url → Answer Url

/-- A response and the URL that produced it. -/
structure Served (Url : Type) where
  url : Url
  code : ℕ
  body : Except String String

section Follow
variable {Url : Type} (up : Upstream Url)

def follow : ℕ → List Url → Url → Except String (Served Url)
  | remaining, visited, u =>
    match up (visited ++ [u]) with
    | .broken e => .error e
    | .response code body => .ok ⟨u, code, body⟩
    | .redirect target =>
      match remaining with
      | 0 => .error "too many redirects"
      | n + 1 => follow n (visited ++ [u]) target

/-- The targets of the redirects the client follows. -/
def redirects : ℕ → List Url → Url → List Url
  | remaining, visited, u =>
    match up (visited ++ [u]) with
    | .redirect target =>
      match remaining with
      | 0 => []
      | n + 1 => target :: redirects n (visited ++ [u]) target
    | _ => []

/-- The response comes from the last redirect target, or from the first URL
if there was none. -/
theorem follow_url (remaining : ℕ) (visited : List Url) (u : Url) (r : Served Url)
    (h : follow up remaining visited u = .ok r) :
    r.url = (redirects up remaining visited u).getLast?.getD u := by
  fun_induction follow up remaining visited u with
  | case1 remaining visited u e ha => cases h
  | case2 remaining visited u code body ha =>
    cases h
    unfold redirects
    rw [ha]
    rfl
  | case3 visited u target ha => cases h
  | case4 visited u target ha n ih =>
    unfold redirects
    rw [ha]
    simp only
    rw [List.getLast?_cons, Option.getD_some]
    exact ih h

end Follow

/-- One request for a URL given as text. -/
def send (C : Client) (up : Upstream C.Url) (url : String) : Except String (Served C.Url) :=
  match C.parse url with
  | .error e => .error e
  | .ok u => follow up C.redirectLimit [] u

/-- The URL a request ends on, as far as the network lets it get. -/
def lastUrl (C : Client) (up : Upstream C.Url) (u : C.Url) : C.Url :=
  (redirects up C.redirectLimit [] u).getLast?.getD u

theorem send_parsed (C : Client) (up : Upstream C.Url) (url : String) (u : C.Url)
    (hu : C.parse url = .ok u) : send C up url = follow up C.redirectLimit [] u := by
  simp only [send, hu]

theorem send_ok (C : Client) (up : Upstream C.Url) (url : String) (r : Served C.Url)
    (h : send C up url = .ok r) : ∃ u, C.parse url = .ok u ∧ r.url = lastUrl C up u := by
  cases hu : C.parse url with
  | error e =>
    simp only [send, hu] at h
    cases h
  | ok u =>
    rw [send_parsed C up url u hu] at h
    exact ⟨u, rfl, follow_url up _ _ u r h⟩

structure HttpsUrl where
  host : String
  rest : String
  deriving DecidableEq

def authorityEnd (c : Char) : Bool := c == '/' || c == '\\' || c == '?' || c == '#'

/-- The authority ends at the first delimiter; user information before the
last at sign and a port are dropped, and the host is read in lower case. -/
def parseHttps (url : String) : Except String HttpsUrl :=
  let scheme := "https://".toList
  if scheme.isPrefixOf url.toList then
    let r := url.toList.drop scheme.length
    let authority := r.takeWhile fun c => !authorityEnd c
    let host := ((authority.reverse.takeWhile (· != '@')).reverse.takeWhile (· != ':')).map
      Char.toLower
    if host = [] then .error "builder error: empty host"
    else .ok ⟨String.ofList host, String.ofList (r.dropWhile fun c => !authorityEnd c)⟩
  else .error "builder error: relative URL without a base"

/-- A client for such URLs with the usual limit of ten redirects. -/
def httpsClient : Client where
  Url := HttpsUrl
  parse := parseHttps
  host := HttpsUrl.host
  text u := "https://" ++ u.host ++ u.rest
  redirectLimit := 10

end ZkTls.HttpClient
