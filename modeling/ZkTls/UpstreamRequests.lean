import ZkTls.NotaryMachine
import ZkTls.RoundRobin

/-!
# The requests a handler makes

Every header of the token page's GET and of the main request, as they are
handed to the client one after the other, and the two pauses before them. A
user agent is drawn from a fixed table by a counter the whole process shares.
-/

set_option autoImplicit false

namespace ZkTls.UpstreamRequests
open ZkTls.JsonTree ZkTls.CoreTypes ZkTls.VerificationTemplates ZkTls.NotaryMachine
open ZkTls.RoundRobin

structure HttpRequest where
  method : HttpMethod
  url : String
  headers : List (String × String)
  body : Option Json

/-- The first value of a header. -/
def HttpRequest.header (r : HttpRequest) (name : String) : Option String := r.headers.lookup name

def userAgents : List String :=
  ["Mozilla/5.0 (Windows NT 10.0; Win64; x64) AppleWebKit/537.36 (KHTML, like Gecko) " ++
      "Chrome/131.0.0.0 Safari/537.36",
    "Mozilla/5.0 (Macintosh; Intel Mac OS X 10_15_7) AppleWebKit/537.36 (KHTML, like Gecko) " ++
      "Chrome/131.0.0.0 Safari/537.36",
    "Mozilla/5.0 (Windows NT 10.0; Win64; x64; rv:133.0) Gecko/20100101 Firefox/133.0",
    "Mozilla/5.0 (Macintosh; Intel Mac OS X 10_15_7) AppleWebKit/605.1.15 " ++
      "(KHTML, like Gecko) Version/18.2 Safari/605.1.15",
    "Mozilla/5.0 (X11; Linux x86_64) AppleWebKit/537.36 (KHTML, like Gecko) " ++
      "Chrome/131.0.0.0 Safari/537.36"]

/-- The agent at the counter's value, and the counter after the draw. It
wraps around at the word size. -/
def browserUserAgent (index : UInt64) : String × UInt64 :=
  (pick userAgents (by decide) index.toNat, index + 1)

theorem browserUserAgent_mem (index : UInt64) : (browserUserAgent index).1 ∈ userAgents :=
  List.get_mem _ _

def contains (s part : String) : Bool := s.toList.tails.any fun t => part.toList.isPrefixOf t

/-- The client hints for a user agent: the brands and the platform. -/
def clientHints (ua : String) : String × String :=
  if contains ua "Chrome/131" then
    ("\"Chromium\";v=\"131\", \"Not_A Brand\";v=\"24\", \"Google Chrome\";v=\"131\"",
      if contains ua "Windows" then "\"Windows\""
      else if contains ua "Macintosh" then "\"macOS\""
      else "\"Linux\"")
  else if contains ua "Firefox" then
    ("\"Firefox\";v=\"133\"", if contains ua "Windows" then "\"Windows\"" else "\"Linux\"")
  else ("\"Safari\";v=\"18\"", "\"macOS\"")

variable {P : Platform} {N : Notary P}

def csrfRequest (job : Job N) (cfg : CsrfConfig) (ua : String) : HttpRequest where
  method := .get
  url := job.origin ++ cfg.fetchPath
  headers :=
    [("User-Agent", ua),
     ("Accept", "text/html,application/xhtml+xml,application/xml;q=0.9,*/*;q=0.8"),
     ("Accept-Language", "en-US,en;q=0.9"),
     ("Accept-Encoding", "gzip, deflate, br"),
     ("DNT", "1"),
     ("Connection", "keep-alive"),
     ("Sec-Fetch-Dest", "document"),
     ("Sec-Fetch-Mode", "navigate"),
     ("Sec-Fetch-Site", "none"),
     ("Sec-Fetch-User", "?1"),
     ("Upgrade-Insecure-Requests", "1")]
  body := none

/-- The main request. A token header goes to the end of the list, whatever
its name is. -/
def mainRequest (job : Job N) (token : Option (String × String)) (ua : String) : HttpRequest :=
  let target := job.template.target
  let url := job.origin ++ target.path
  match target.method with
  | .get =>
    { method := .get
      url := url
      headers :=
        [("User-Agent", ua),
         ("Accept", "application/json, text/plain, */*"),
         ("Accept-Language", "en-US,en;q=0.9"),
         ("Accept-Encoding", "gzip, deflate, br"),
         ("DNT", "1"),
         ("Connection", "keep-alive"),
         ("Sec-Fetch-Dest", "empty"),
         ("Sec-Fetch-Mode", "cors"),
         ("Sec-Fetch-Site", "same-origin")]
      body := none }
  | .post =>
    { method := .post
      url := url
      headers :=
        [("User-Agent", ua),
         ("Content-Type", "application/json;charset=UTF-8"),
         ("Accept", "application/json, text/plain, */*"),
         ("Accept-Language", "en-US,en;q=0.9"),
         ("Accept-Encoding", "gzip, deflate, br"),
         ("Origin", job.origin),
         ("Referer", (target.refererPath.map (job.origin ++ ·)).getD (job.origin ++ "/")),
         ("DNT", "1"),
         ("Connection", "keep-alive"),
         ("Sec-Fetch-Dest", "empty"),
         ("Sec-Fetch-Mode", "cors"),
         ("Sec-Fetch-Site", "same-origin"),
         ("sec-ch-ua", (clientHints ua).1),
         ("sec-ch-ua-mobile", "?0"),
         ("sec-ch-ua-platform", (clientHints ua).2)] ++ token.toList
      body := some (job.request.requestBody.getD .null) }

/-- The pause before the first request, from a hash of the session's id. -/
def jitterMs (hash : String → UInt64) (sessionId : String) : UInt64 :=
  hash sessionId % 4000 + 1000

/-- The pause between the two requests. -/
def csrfPauseMs (jitter : UInt64) : UInt64 := 500 + jitter % 1500

theorem jitterMs_range (hash : String → UInt64) (sessionId : String) :
    1000 ≤ (jitterMs hash sessionId).toNat ∧ (jitterMs hash sessionId).toNat < 5000 := by
  have hlt : (hash sessionId).toNat % 4000 < 4000 := Nat.mod_lt _ (by omega)
  have hval : (jitterMs hash sessionId).toNat = (hash sessionId).toNat % 4000 + 1000 := by
    simp only [jitterMs, UInt64.toNat_add, UInt64.toNat_mod, UInt64.reduceToNat]
    omega
  omega

theorem csrfPauseMs_range (jitter : UInt64) :
    500 ≤ (csrfPauseMs jitter).toNat ∧ (csrfPauseMs jitter).toNat < 2000 := by
  have hlt : jitter.toNat % 1500 < 1500 := Nat.mod_lt _ (by omega)
  have hval : (csrfPauseMs jitter).toNat = 500 + jitter.toNat % 1500 := by
    simp only [csrfPauseMs, UInt64.toNat_add, UInt64.toNat_mod, UInt64.reduceToNat]
    omega
  omega

/-- The request agrees with what the handler remembers of it. -/
structure Carries (r : HttpRequest) (out : Outgoing) : Prop where
  method : r.method = out.method
  url : r.url = out.url
  body : r.body = out.body
  referer : r.header "Referer" = out.referer
  token : ∀ pair ∈ out.csrfHeader, pair ∈ r.headers

theorem mainRequest_carries (job : Job N) (token : Option (String × String)) (ua : String) :
    Carries (mainRequest job token ua) (job.outgoing token) := by
  cases hmethod : job.template.target.method with
  | get =>
    simp only [mainRequest, Job.outgoing, hmethod]
    exact ⟨rfl, rfl, rfl, rfl, fun pair hpair => by cases hpair⟩
  | post =>
    simp only [mainRequest, Job.outgoing, hmethod]
    refine ⟨rfl, rfl, rfl, rfl, fun pair hpair => ?_⟩
    exact List.mem_append_right _ (Option.mem_toList.mpr hpair)

/-- What a user agent says about its browser, and what the hints say. -/
structure Consistent (ua : String) (hints : String × String) : Prop where
  chrome : contains hints.1 "\"Google Chrome\";v=\"131\"" = contains ua "Chrome/131."
  firefox : contains hints.1 "\"Firefox\";v=\"133\"" = contains ua "Firefox/133."
  safari : contains hints.1 "\"Safari\";v=\"18\"" = contains ua "Version/18."
  windows : (hints.2 = "\"Windows\"") ↔ contains ua "(Windows NT" = true
  macOS : (hints.2 = "\"macOS\"") ↔ contains ua "(Macintosh;" = true
  linux : (hints.2 = "\"Linux\"") ↔ contains ua "(X11; Linux" = true

end ZkTls.UpstreamRequests
