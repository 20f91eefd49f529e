import RequestLint.Sink

/-! The rules by name: identifiers, descriptions and messages. Messages may name
the request function, so they are kept as templates. -/
namespace RequestLint

/-- What an analysis may be told. `target` is the name of the request function. -/
structure Options where
  requireQueryBuilder : Bool := true
  target : String := "fetch"
  deriving DecidableEq, Repr

inductive Rule where
  | errorHandling
  | statusCheck
  | jsonContentType
  | jsonResponseCheck
  | timeout
  | asyncAwait
  | jsonInGet
  | encodedQuery
  deriving DecidableEq, Repr

inductive Message where
  | missingErrorHandling
  | missingStatusCheck
  | missingContentType
  | incorrectContentType
  | missingContentTypeCheck
  | missingTimeout
  | preferAsyncAwait
  | jsonInGetRequest
  | unsafeQueryParam
  | preferURLSearchParams
  deriving DecidableEq, Repr

/-- A stretch of a message. -/
inductive TemplatePart where
  | text (text : String)
  | target
  deriving DecidableEq, Repr

namespace Message

def id : Message → String
  | missingErrorHandling => "missingErrorHandling"
  | missingStatusCheck => "missingStatusCheck"
  | missingContentType => "missingContentType"
  | incorrectContentType => "incorrectContentType"
  | missingContentTypeCheck => "missingContentTypeCheck"
  | missingTimeout => "missingTimeout"
  | preferAsyncAwait => "preferAsyncAwait"
  | jsonInGetRequest => "jsonInGetRequest"
  | unsafeQueryParam => "unsafeQueryParam"
  | preferURLSearchParams => "preferURLSearchParams"

def template : Message → List TemplatePart
  | missingErrorHandling =>
    [.target, .text ("() calls should include error handling with try/catch or .catch() " ++
      "to prevent unhandled promise rejections")]
  | missingStatusCheck =>
    [.target, .text ("() does not throw on HTTP error status. " ++
      "Check response.ok or response.status before using the response.")]
  | missingContentType =>
    [.text ("Missing Content-Type header when sending JSON data. " ++
      "Add \"Content-Type\": \"application/json\" to headers.")]
  | incorrectContentType =>
    [.text "Incorrect Content-Type header when sending JSON data. Use \"application/json\"."]
  | missingContentTypeCheck =>
    [.text ("Check Content-Type header before calling response.json() " ++
      "to avoid parsing non-JSON responses")]
  | missingTimeout =>
    [.target, .text ("() calls should include timeout configuration " ++
      "to prevent hanging indefinitely")]
  | preferAsyncAwait =>
    [.text "Prefer async/await over promise chains for ", .target,
      .text " requests to improve readability and error handling"]
  | jsonInGetRequest =>
    [.text ("GET requests should not include JSON data in the body. Consider using POST, PUT, " ++
      "or PATCH for requests with data, or move data to query parameters.")]
  | unsafeQueryParam =>
    [.text ("Query parameters should be encoded using encodeURIComponent(), URL, or " ++
      "URLSearchParams to prevent injection attacks.")]
  | preferURLSearchParams =>
    [.text ("Consider using URLSearchParams for building query strings " ++
      "instead of manual concatenation.")]

/-- The message about a given request function. -/
def fill (message : Message) (target : String) : String :=
  String.join (message.template.map fun
    | .text text => text
    | .target => target)

/-- The template as it is listed, with a mark for the request function. -/
def listed (message : Message) : String := message.fill "\x7btarget\x7d"

end Message

namespace Rule

/-- All rules, in the order in which they act on a node. -/
def all : List Rule :=
  [errorHandling, statusCheck, jsonContentType, jsonResponseCheck, timeout, asyncAwait, jsonInGet,
    encodedQuery]

def id : Rule → String
  | errorHandling => "require-error-handling"
  | statusCheck => "require-status-check"
  | jsonContentType => "require-json-content-type"
  | jsonResponseCheck => "require-json-response-check"
  | timeout => "require-timeout"
  | asyncAwait => "prefer-async-await"
  | jsonInGet => "no-json-in-get-requests"
  | encodedQuery => "require-encoded-query-params"

def description : Rule → String
  | errorHandling =>
    "Require error handling for fetch requests to prevent unhandled promise rejections"
  | statusCheck => "Require checking response.ok or response.status when using fetch"
  | jsonContentType => "Require Content-Type header when sending JSON data with fetch"
  | jsonResponseCheck =>
    "Require Content-Type check before calling response.json() to prevent parsing errors"
  | timeout => "Require timeout configuration for fetch requests to prevent hanging"
  | asyncAwait =>
    "Prefer async/await over promise chains for fetch requests to improve readability"
  | jsonInGet => "Disallow JSON body in GET requests as it violates HTTP semantics"
  | encodedQuery => "Require proper encoding of query parameters in fetch URLs"

def messages : Rule → List Message
  | errorHandling => [.missingErrorHandling]
  | statusCheck => [.missingStatusCheck]
  | jsonContentType => [.missingContentType, .incorrectContentType]
  | jsonResponseCheck => [.missingContentTypeCheck]
  | timeout => [.missingTimeout]
  | asyncAwait => [.preferAsyncAwait]
  | jsonInGet => [.jsonInGetRequest]
  | encodedQuery => [.unsafeQueryParam, .preferURLSearchParams]

/-- Some rule has this identifier. -/
def isKnown (id : String) : Bool := all.any (·.id = id)

/-- The identifiers that no rule has, in ascending order and each once. -/
def unknownIds (ids : List String) : List String :=
  ((ids.filter (!isKnown ·)).mergeSort (· ≤ ·)).eraseDups

/-- The rules that a choice of identifiers enables, in the order of `all`; no
choice enables every rule. An identifier of no rule refuses the choice, and the
unknown ones are given back. -/
def select (ids? : Option (List String)) : Except (List String) (List Rule) :=
  match ids? with
  | none => .ok all
  | some ids =>
    match unknownIds ids with
    | [] => .ok (all.filter (·.id ∈ ids))
    | unknown => .error unknown

end Rule

/-- What a rule holds against a site. -/
structure Verdict where
  message : Message
  place : Node
  fix? : Option Fix := none

def Verdict.finding (verdict : Verdict) (rule : Rule) (options : Options) (site : Node) : Finding where
  rule := rule.id
  site := site
  messageId := verdict.message.id
  message := verdict.message.fill options.target
  place := verdict.place
  fix? := verdict.fix?

/-- A finding without a fix. -/
def Message.finding (message : Message) (rule : Rule) (options : Options) (site place : Node) :
    Finding := Verdict.finding ⟨message, place, none⟩ rule options site

end RequestLint
