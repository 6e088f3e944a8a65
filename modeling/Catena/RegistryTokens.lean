import Catena.LatestRelease
import Mathlib

/-!
# The registry's token

`Registry` carries its bearer token through redirects, token requests and
retries that the other side chooses.  The token stays with the registry as long
as the URL of every path asked for is on the registry's host; a path that is
appended to the host without a slash takes the token elsewhere.
-/

namespace Catena

namespace RegistryTokens

abbrev Headers := PyDict String String

/-- What ends a read: `FetchError`, `ResolveError`, an `HTTPError`, or what
Python raises. -/
inductive Failure where
  | fetch (message : String)
  | resolve (message : String)
  | http (code : Nat) (headers : Headers)
  | python (error : PyError)

/-- The library functions the reads rest on: `urllib.parse.urljoin`, where it
does not raise; whether `urlsplit` lets a network location pass Unicode
normalisation; the parameters of a bearer challenge; `urllib.parse.urlencode`. -/
structure Web where
  py : Builtins
  join : List Char → String → Option (List Char)
  allowed : List Char → Bool
  bearerParams : String → PyDict String String
  urlencode : PyDict String String → String

def schemeChar (character : Char) : Bool :=
  character.isAlphanum || character = '+' || character = '-' || character = '.'

/-- The scheme of a URL, and what follows it. -/
def splitScheme (url : List Char) : List Char × List Char :=
  match PyText.partition ':' url with
  | some (front, rest) =>
      if front ≠ [] && front.all schemeChar then (front.map Char.toLower, rest) else ([], url)
  | none => ([], url)

/-- The network location at the start of what follows the scheme. -/
def splitNetloc : List Char → List Char
  | '/' :: '/' :: rest =>
      rest.takeWhile fun character => character ≠ '/' && character ≠ '?' && character ≠ '#'
  | _ => []

structure SplitUrl where
  scheme : List Char
  netloc : List Char
  deriving DecidableEq

/-- `urllib.parse.urlsplit`, where it does not raise `ValueError`. -/
def urlsplit (web : Web) (url : List Char) : Option SplitUrl :=
  let kept := url.filter fun character =>
    character ≠ '\t' && character ≠ '\r' && character ≠ '\n'
  let netloc := splitNetloc (splitScheme kept).2
  if decide ('[' ∈ netloc) ≠ decide (']' ∈ netloc) || !web.allowed netloc then none
  else some ⟨(splitScheme kept).1, netloc⟩

structure Request where
  url : List Char
  headers : Headers
  method : String
  deriving DecidableEq

/-- `Request(url, headers=headers, method=method)`. -/
def newRequest (url : List Char) (headers : Headers) (method : String) :
    Except Failure Request :=
  match PyText.partition ':' url with
  | some (front, _) =>
      if front = [] ∨ '/' ∈ front then .error (.python (.valueError "unknown url type"))
      else .ok ⟨url, headers, method⟩
  | none => .error (.python (.valueError "unknown url type"))

/-- The request carries an `Authorization` header. -/
def Request.Authorized (request : Request) : Prop :=
  PyDict.get request.headers "Authorization" ≠ none

instance (request : Request) : Decidable request.Authorized :=
  inferInstanceAs (Decidable (_ ≠ _))

/-- An answer that is no error. -/
structure Response where
  headers : Headers
  body : String

inductive Reply where
  | response (response : Response)
  | httpError (code : Nat) (headers : Headers)
  | failed (error : PyError)

/-- The other side: its reply to the last of the requests made so far. -/
abbrev Network := List Request → Reply

/-- `Registry`, apart from its token. -/
structure Registry where
  host : List Char
  insecureHttp : Bool

def Registry.base (registry : Registry) : List Char :=
  (if registry.insecureHttp then "http".toList else "https".toList) ++ "://".toList ++
    registry.host

def maxRedirects : Nat := 5

def redirects : List Nat := [301, 302, 303, 307, 308]

/-- The token, and the requests each `_send` made. -/
structure State where
  token : String
  chains : List (List Request)

section Reads

variable (web : Web) (registry : Registry) (network : Network)

/-- The request a redirect leads to. -/
def followed (request : Request) (code : Nat) (headers : Headers) : Except Failure Request :=
  match PyDict.get headers "Location" with
  | none => .error (.http code headers)
  | some location =>
      if code ∉ redirects ∨ location = "" then .error (.http code headers)
      else
        match web.join request.url location with
        | none => .error (.python (.valueError "urljoin"))
        | some url =>
            match urlsplit web request.url, urlsplit web url with
            | some here, some there =>
                newRequest url
                  (if there.netloc ≠ here.netloc then
                    PyDict.erase request.headers "Authorization"
                  else request.headers) request.method
            | _, _ => .error (.python (.valueError "urlsplit"))

/-- The loop of `_send`, with the requests made before it: how it ends, and the
requests it makes. -/
def sendFrom : Nat → List Request → Request → Except Failure Response × List Request
  | 0, _, _ =>
      (.error (.fetch ("more than 5 redirects from " ++ String.ofList registry.host)), [])
  | hops + 1, before, request =>
      match urlsplit web request.url with
      | none => (.error (.python (.valueError "urlsplit")), [])
      | some split =>
          if split.scheme ≠ "https".toList ∧
              ¬ (split.scheme = "http".toList ∧ registry.insecureHttp = true) then
            (.error (.fetch ("refusing " ++ String.ofList request.url ++
              ": only https is allowed without --insecure-http")), [])
          else
            match network (before ++ [request]) with
            | .response response => (.ok response, [request])
            | .failed error => (.error (.python error), [request])
            | .httpError code headers =>
                match followed web request code headers with
                | .error failure => (.error failure, [request])
                | .ok next =>
                    let (result, rest) := sendFrom hops (before ++ [request]) next
                    (result, request :: rest)

def send (state : State) (request : Request) : Except Failure Response × State :=
  let (result, chain) :=
    sendFrom web registry network (maxRedirects + 1) state.chains.flatten request
  (result, { state with chains := state.chains ++ [chain] })

/-- The headers of `Registry._request`. -/
def requestHeaders (token accept : String) : Headers :=
  ("Accept", accept) ::
    if token = "" then [] else [("Authorization", "Bearer " ++ token)]

def bearerChallenge (code : Nat) (headers : Headers) : Option (PyDict String String) :=
  let header := (PyDict.get headers "WWW-Authenticate").getD ""
  if code ≠ 401 then none
  else if ("bearer ".toList.isPrefixOf (PyText.lower header).toList) = false then none
  else some (web.bearerParams header)

def tokenUrl (realm : String) (challenge : PyDict String String) : List Char :=
  realm.toList ++ (if '?' ∈ realm.toList then ['&'] else ['?']) ++
    (web.urlencode (challenge.filter fun item =>
      (item.1 = "service" ∨ item.1 = "scope") ∧ item.2 ≠ "")).toList

def tokenOf (realm : String) (response : Response) : Except Failure String :=
  match web.py.loads response.body with
  | none => .error (.python (.valueError response.body))
  | some (.obj fields) =>
      let found := [PyDict.get fields "token", PyDict.get fields "access_token"].findSome? fun
        | some value => if value.truthy then some value else none
        | none => none
      match found with
      | some value => .ok (value.toText web.py)
      | none => .error (.resolve (realm ++ " returned no token"))
  | some _ => .error (.python .attributeError)

/-- `_fetch_token`, through `_send`. -/
def fetchToken (state : State) (challenge : PyDict String String) :
    Except Failure String × State :=
  let realm := (PyDict.get challenge "realm").getD ""
  if realm = "" then
    (.error (.resolve "registry asked for a bearer token but named no realm"), state)
  else
    match newRequest (tokenUrl web realm challenge) [("Accept", "application/json")] "GET" with
    | .error failure => (.error failure, state)
    | .ok request =>
        match send web registry network state request with
        | (.error failure, after) => (.error failure, after)
        | (.ok response, after) => (tokenOf web realm response, after)

/-- What is asked for. -/
structure Call where
  path : List Char
  method : String
  accept : String

/-- `Registry._open`. -/
def openPath (state : State) (call : Call) : Except Failure Response × State :=
  let url := registry.base ++ call.path
  match newRequest url (requestHeaders state.token call.accept) call.method with
  | .error failure => (.error failure, state)
  | .ok request =>
      match send web registry network state request with
      | (.ok response, after) => (.ok response, after)
      | (.error (.http code headers), after) =>
          match bearerChallenge web code headers with
          | none => (.error (.http code headers), after)
          | some challenge =>
              match fetchToken web registry network after challenge with
              | (.error failure, asked) => (.error failure, asked)
              | (.ok token, asked) =>
                  match newRequest url (requestHeaders token call.accept) call.method with
                  | .error failure => (.error failure, { asked with token := token })
                  | .ok again => send web registry network { asked with token := token } again
      | (.error failure, after) => (.error failure, after)

/-- What a run of reads leaves; a read that is retried is made again. -/
def run (state : State) (calls : List Call) : State :=
  calls.foldl (fun state call => (openPath web registry network state call).2) state

end Reads

section Stays

variable (web : Web) (registry : Registry)

/-- The request goes to the registry's host. -/
def Request.Home (request : Request) : Prop :=
  (urlsplit web request.url).map SplitUrl.netloc = some registry.host

/-- The scheme is `https`. -/
def Request.Secure (request : Request) : Prop :=
  (urlsplit web request.url).map SplitUrl.scheme = some "https".toList

/-- What holds of the requests of one `_send`. -/
structure ChainStays (chain : List Request) : Prop where
  /-- The header goes to the registry's host alone. -/
  home : ∀ request ∈ chain, request.Authorized → request.Home web registry
  /-- Once the chain has left that host, the header is not sent again. -/
  left : chain.Pairwise fun earlier later =>
    ¬ earlier.Home web registry → ¬ later.Authorized
  secure : registry.insecureHttp = false → ∀ request ∈ chain, request.Secure web
  bounded : chain.length ≤ maxRedirects + 1

/-- The URL of a path asked for is on the registry's host. -/
def Call.Home (call : Call) : Prop :=
  (urlsplit web (registry.base ++ call.path)).map SplitUrl.netloc = some registry.host

/-- What holds of the requests a `_send` of `request` makes. -/
structure SentFrom (request : Request) (hops : Nat) (chain : List Request) : Prop where
  home : ∀ sent ∈ chain, sent.Authorized → sent.Home web registry
  first : ∀ sent ∈ chain, sent.Authorized → request.Authorized
  falling : chain.Pairwise fun earlier later => later.Authorized → earlier.Authorized
  secure : registry.insecureHttp = false → ∀ sent ∈ chain, sent.Secure web
  bounded : chain.length ≤ hops

variable {web registry}

theorem newRequest_eq_ok {url : List Char} {headers : Headers} {method : String}
    {request : Request} (made : newRequest url headers method = .ok request) :
    request = ⟨url, headers, method⟩ := by
  unfold newRequest at made
  split at made
  · split at made
    · cases made
    · exact (Except.ok.inj made).symm
  · cases made

/-- A redirect is followed with the header only where the request carried it
and stays on its network location. -/
theorem authorized_of_followed {request next : Request} {code : Nat} {headers : Headers}
    (follows : followed web request code headers = .ok next) (authorized : next.Authorized) :
    request.Authorized ∧ (urlsplit web next.url).map SplitUrl.netloc =
      (urlsplit web request.url).map SplitUrl.netloc := by
  unfold followed at follows
  split at follows
  · cases follows
  · split at follows
    · cases follows
    · split at follows
      · cases follows
      · split at follows
        · rename_i url joined here there hereSplit thereSplit
          have made := newRequest_eq_ok follows
          rw [made] at authorized ⊢
          simp only [hereSplit, thereSplit, Option.map_some]
          unfold Request.Authorized at authorized ⊢
          by_cases same : there.netloc = here.netloc
          · rw [if_neg (not_not.mpr same)] at authorized
            exact ⟨authorized, by rw [same]⟩
          · rw [if_pos same, PyDict.get_erase] at authorized
            simp at authorized
        · cases follows

variable (network : Network)

theorem sentFrom_nil (request : Request) (hops : Nat) :
    SentFrom web registry request hops [] := by
  constructor
  · simp
  · simp
  · exact List.Pairwise.nil
  · simp
  · simp

theorem sentFrom_cons {request next : Request} {hops : Nat} {rest : List Request}
    (start : request.Authorized → request.Home web registry)
    (secure : registry.insecureHttp = false → request.Secure web)
    (follows : next.Authorized → request.Authorized)
    (sent : SentFrom web registry next hops rest) :
    SentFrom web registry request (hops + 1) (request :: rest) := by
  constructor
  · intro one member authorized
    rcases List.mem_cons.mp member with rfl | later
    · exact start authorized
    · exact sent.home one later authorized
  · intro one member authorized
    rcases List.mem_cons.mp member with rfl | later
    · exact authorized
    · exact follows (sent.first one later authorized)
  · rw [List.pairwise_cons]
    exact ⟨fun one member authorized => follows (sent.first one member authorized), sent.falling⟩
  · intro https one member
    rcases List.mem_cons.mp member with rfl | later
    · exact secure https
    · exact sent.secure https one later
  · have bounded := sent.bounded
    simp only [List.length_cons]
    omega

/-- The requests of a chain that starts at home or without the header. -/
theorem sendFrom_spec (hops : Nat) (before : List Request) {request : Request}
    (start : request.Authorized → request.Home web registry) :
    SentFrom web registry request hops
      (sendFrom web registry network hops before request).2 := by
  induction hops generalizing before request with
  | zero => exact sentFrom_nil request 0
  | succ hops ih =>
      rw [sendFrom]
      cases parts : urlsplit web request.url with
      | none => exact sentFrom_nil request _
      | some split =>
          simp only
          split
          · exact sentFrom_nil request _
          · rename_i schemes
            have secure : registry.insecureHttp = false → request.Secure web := by
              intro https
              rw [https] at schemes
              rw [Request.Secure, parts, Option.map_some]
              by_contra other
              apply schemes
              simpa using other
            have alone := sentFrom_cons start secure id (sentFrom_nil request hops)
            cases network (before ++ [request]) with
            | response response => exact alone
            | failed error => exact alone
            | httpError code headers =>
                cases follows : followed web request code headers with
                | error failure =>
                    simp only [follows]
                    exact alone
                | ok next =>
                    simp only [follows]
                    apply sentFrom_cons start secure
                    · exact fun authorized => (authorized_of_followed follows authorized).1
                    · apply ih
                      intro authorized
                      obtain ⟨was, same⟩ := authorized_of_followed follows authorized
                      rw [Request.Home, same]
                      exact start was

theorem chainStays_of_sentFrom {request : Request} {chain : List Request}
    (sent : SentFrom web registry request (maxRedirects + 1) chain) :
    ChainStays web registry chain := by
  constructor
  · exact sent.home
  · rw [List.pairwise_iff_forall_sublist]
    intro earlier later inChain away authorized
    have was := List.pairwise_iff_forall_sublist.mp sent.falling inChain authorized
    exact away (sent.home earlier (inChain.subset (by simp)) was)
  · exact sent.secure
  · exact sent.bounded

/-- The chains a read adds. -/
theorem send_stays {state : State} (stays : ∀ chain ∈ state.chains, ChainStays web registry chain)
    {request : Request} (start : request.Authorized → request.Home web registry) :
    ∀ chain ∈ (send web registry network state request).2.chains,
      ChainStays web registry chain := by
  intro chain member
  rw [send] at member
  simp only [List.mem_append, List.mem_singleton] at member
  rcases member with old | rfl
  · exact stays chain old
  · exact chainStays_of_sentFrom (sendFrom_spec network _ _ start)

theorem fetchToken_stays {state : State}
    (stays : ∀ chain ∈ state.chains, ChainStays web registry chain)
    (challenge : PyDict String String) :
    ∀ chain ∈ (fetchToken web registry network state challenge).2.chains,
      ChainStays web registry chain := by
  rw [fetchToken]
  split
  · exact stays
  · split
    · exact stays
    · rename_i request made
      have plain : ¬ request.Authorized := by
        rw [newRequest_eq_ok made, Request.Authorized]
        simp [PyDict.get]
      have sent := send_stays network stays (fun authorized => absurd authorized plain)
      split
      · rename_i ended
        rw [ended] at sent
        exact sent
      · rename_i ended
        rw [ended] at sent
        exact sent

/-- One read of a path whose URL is on the registry's host. -/
theorem openPath_stays {state : State}
    (stays : ∀ chain ∈ state.chains, ChainStays web registry chain) {call : Call}
    (home : call.Home web registry) :
    ∀ chain ∈ (openPath web registry network state call).2.chains,
      ChainStays web registry chain := by
  have start {headers : Headers} {request : Request}
      (made : newRequest (registry.base ++ call.path) headers call.method = .ok request) :
      request.Authorized → request.Home web registry := by
    intro _
    rw [newRequest_eq_ok made]
    exact home
  rw [openPath]
  split
  · exact stays
  · rename_i request made
    have sent := send_stays network stays (start made)
    split
    · rename_i ended
      rw [ended] at sent
      exact sent
    · rename_i ended
      rw [ended] at sent
      split
      · exact sent
      · rename_i challenge asks
        have asked := fetchToken_stays network sent challenge
        split
        · rename_i fetched
          rw [fetched] at asked
          exact asked
        · rename_i fetched
          rw [fetched] at asked
          split
          · exact asked
          · rename_i again remade
            exact send_stays network asked (start remade)
    · rename_i ended
      rw [ended] at sent
      exact sent

/-- The token stays with the registry in every run whose paths do. -/
theorem tokens_stay {calls : List Call} (home : ∀ call ∈ calls, call.Home web registry)
    (token : String) :
    ∀ chain ∈ (run web registry network ⟨token, []⟩ calls).chains,
      ChainStays web registry chain := by
  have keeps (state : State) (stays : ∀ chain ∈ state.chains, ChainStays web registry chain) :
      ∀ chain ∈ (run web registry network state calls).chains,
        ChainStays web registry chain := by
    induction calls generalizing state with
    | nil => exact stays
    | cons call rest ih =>
        apply ih
        · exact fun other member => home other (List.mem_cons_of_mem _ member)
        · exact openPath_stays network stays (home call List.mem_cons_self)
  exact keeps ⟨token, []⟩ (by simp)

end Stays

def IsHost (host : List Char) : Prop :=
  ∀ character ∈ host, character.isAlphanum = true ∨ character = '.' ∨ character = '-' ∨
    character = ':'

theorem code_of_isHost {host : List Char} (isHost : IsHost host) {character : Char}
    (found : character ∈ host) :
    (48 ≤ character.toNat ∧ character.toNat ≤ 58) ∨
      (65 ≤ character.toNat ∧ character.toNat ≤ 90) ∨
      (97 ≤ character.toNat ∧ character.toNat ≤ 122) ∨
      character.toNat = 45 ∨ character.toNat = 46 := by
  rcases isHost character found with plain | rfl | rfl | rfl
  · simp only [Char.isAlphanum, Char.isAlpha, Char.isUpper, Char.isLower, Char.isDigit,
      Bool.or_eq_true, Bool.and_eq_true, decide_eq_true_eq, UInt32.le_iff_toNat_le] at plain
    rcases plain with (upper | lower) | digit
    · exact Or.inr (Or.inl upper)
    · exact Or.inr (Or.inr (Or.inl lower))
    · exact Or.inl ⟨digit.1, digit.2.trans (by decide)⟩
  · decide
  · decide
  · decide

theorem notMem_host {host : List Char} (isHost : IsHost host) {other : Char}
    (code : other.toNat < 45 ∨ other.toNat = 47 ∨ (59 ≤ other.toNat ∧ other.toNat < 65) ∨
      (91 ≤ other.toNat ∧ other.toNat < 97)) : other ∉ host := by
  intro found
  have codes := code_of_isHost isHost found
  omega

/-- A path that begins with a slash is asked for on the registry's host. -/
theorem home_of_slash (web : Web) {registry : Registry} (isHost : IsHost registry.host)
    (allowed : web.allowed registry.host = true) (rest : List Char) (method accept : String) :
    (Call.mk ('/' :: rest) method accept).Home web registry := by
  have kept : (registry.base ++ '/' :: rest).filter (fun character =>
      character ≠ '\t' && character ≠ '\r' && character ≠ '\n') =
        registry.base ++ '/' :: rest.filter (fun character =>
          character ≠ '\t' && character ≠ '\r' && character ≠ '\n') := by
    have host : registry.host.filter (fun character =>
        character ≠ '\t' && character ≠ '\r' && character ≠ '\n') = registry.host := by
      rw [List.filter_eq_self]
      intro character found
      have codes := code_of_isHost isHost found
      have tab : character ≠ '\t' := by
        rintro rfl
        revert codes
        decide
      have carriage : character ≠ '\r' := by
        rintro rfl
        revert codes
        decide
      have newline : character ≠ '\n' := by
        rintro rfl
        revert codes
        decide
      simp [tab, carriage, newline]
    rw [List.filter_append, Registry.base, List.filter_append, host]
    cases registry.insecureHttp <;> rfl
  generalize rest.filter (fun character =>
    character ≠ '\t' && character ≠ '\r' && character ≠ '\n') = more at kept
  have scheme : (splitScheme (registry.base ++ '/' :: more)).2 =
      '/' :: '/' :: (registry.host ++ '/' :: more) := by
    rw [Registry.base]
    cases registry.insecureHttp <;> rfl
  have netloc : splitNetloc ('/' :: '/' :: (registry.host ++ '/' :: more)) = registry.host := by
    have taken : ∀ character ∈ registry.host,
        (character ≠ '/' && character ≠ '?' && character ≠ '#') = true := by
      intro character found
      have slash : character ≠ '/' := fun same =>
        notMem_host isHost (by decide) (same ▸ found)
      have question : character ≠ '?' := fun same =>
        notMem_host isHost (by decide) (same ▸ found)
      have hash : character ≠ '#' := fun same =>
        notMem_host isHost (by decide) (same ▸ found)
      simp [slash, question, hash]
    rw [splitNetloc, List.takeWhile_append_of_pos taken]
    simp
  have opening : '[' ∉ registry.host := notMem_host isHost (by decide)
  have closing : ']' ∉ registry.host := notMem_host isHost (by decide)
  rw [Call.Home, urlsplit, kept, scheme, netloc]
  simp [opening, closing, allowed]

/-- Relative locations are not followed, and nothing is forbidden. -/
def sampleWeb : Web where
  py := Builtins.unused
  join _ location := if '/' ∈ location.toList then some location.toList else none
  allowed _ := true
  bearerParams _ := []
  urlencode _ := ""

def ghcr : Registry := ⟨"ghcr.io".toList, false⟩

/-- Answers every request with a link to a next page. -/
def linkingNetwork : Network := fun _ =>
  .response ⟨[("Link", "<.evil.example/v2/tags/list>; rel=\"next\"")], ""⟩

/-- The read of the path a `Link` header names. -/
def linkedCall : Call :=
  ⟨(LatestRelease.nextPage [("Link", "<.evil.example/v2/tags/list>; rel=\"next\"")]).toList,
    "GET", "application/json"⟩

/-- The challenge of a registry whose tokens come from another host. -/
def challengeHeader : String :=
  "Bearer realm=\"https://auth.example/token\",service=\"ghcr.io\""

/-- `sampleWeb` with that challenge and the answer to it read. -/
def challengedWeb : Web :=
  { sampleWeb with
    py := { Builtins.unused with
      loads := fun text =>
        if text = "\x7b\"token\": \"fresh\"\x7d" then some (.obj [("token", .str "fresh")])
        else none }
    bearerParams := fun header =>
      if header = challengeHeader then
        [("realm", "https://auth.example/token"), ("service", "ghcr.io")]
      else []
    urlencode := fun _ => "service=ghcr.io" }

def blobCall : Call :=
  ⟨"/v2/catenahq/catena-admin/blobs/sha256:0a".toList, "GET", "*/*"⟩

/-- A registry that challenges a stale token, and sends on who holds a fresh one. -/
def challengingNetwork : Network := fun asked =>
  match asked.getLast? with
  | none => .failed .osError
  | some request =>
      if request.url = "https://auth.example/token?service=ghcr.io".toList then
        .response ⟨[], "\x7b\"token\": \"fresh\"\x7d"⟩
      else if request.url = "https://cdn.example/sha256:0a".toList then .response ⟨[], "bytes"⟩
      else if PyDict.get request.headers "Authorization" = some "Bearer fresh" then
        .httpError 307 [("Location", "https://cdn.example/sha256:0a")]
      else .httpError 401 [("WWW-Authenticate", challengeHeader)]

/-- The challenge and the redirect are answered without the token. -/
theorem ghcr_tokens_stay :
    (run challengedWeb ghcr challengingNetwork ⟨"stale", []⟩ [blobCall]).chains =
        [[⟨"https://ghcr.io/v2/catenahq/catena-admin/blobs/sha256:0a".toList,
            [("Accept", "*/*"), ("Authorization", "Bearer stale")], "GET"⟩],
          [⟨"https://auth.example/token?service=ghcr.io".toList,
            [("Accept", "application/json")], "GET"⟩],
          [⟨"https://ghcr.io/v2/catenahq/catena-admin/blobs/sha256:0a".toList,
            [("Accept", "*/*"), ("Authorization", "Bearer fresh")], "GET"⟩,
            ⟨"https://cdn.example/sha256:0a".toList, [("Accept", "*/*")], "GET"⟩]] ∧
      ∀ chain ∈ (run challengedWeb ghcr challengingNetwork ⟨"stale", []⟩ [blobCall]).chains,
        ChainStays challengedWeb ghcr chain := by
  refine ⟨by decide +kernel, tokens_stay challengingNetwork ?_ "stale"⟩
  intro call member
  rw [List.mem_singleton.mp member]
  unfold Call.Home
  decide +kernel

/-- The token goes to a host whose name begins with the registry's. -/
theorem linked_page_takes_token :
    (run sampleWeb ghcr linkingNetwork ⟨"secret", []⟩ [linkedCall]).chains =
        [[⟨"https://ghcr.io.evil.example/v2/tags/list".toList,
          [("Accept", "application/json"), ("Authorization", "Bearer secret")], "GET"⟩]] ∧
      ¬ ∀ chain ∈ (run sampleWeb ghcr linkingNetwork ⟨"secret", []⟩ [linkedCall]).chains,
        ChainStays sampleWeb ghcr chain := by
  have chains : (run sampleWeb ghcr linkingNetwork ⟨"secret", []⟩ [linkedCall]).chains =
      [[⟨"https://ghcr.io.evil.example/v2/tags/list".toList,
        [("Accept", "application/json"), ("Authorization", "Bearer secret")], "GET"⟩]] := by
    decide
  use chains
  intro stays
  rw [chains] at stays
  have home := (stays _ List.mem_cons_self).home _ List.mem_cons_self (by decide)
  unfold Request.Home at home
  revert home
  decide

end RegistryTokens

end Catena
