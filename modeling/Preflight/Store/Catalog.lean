import Preflight.Delivery
import Preflight.Http.Exchange
import Preflight.Text.Base64

/-!
# Records on a catalog server

The catalog keeps workflows behind a REST interface. A report is recorded by one
request that patches the workflow: the report becomes its response, and its
status says that the run was completed. A bearer token goes along if there is
one, and otherwise the credentials that stand in the address.

A reply that promises better luck later, a status of 500 and above or 429, and a
connection that cannot be made, are tried again as long as the patience lasts;
anything else but success ends the recording with an error.
-/

namespace Preflight

/-- A store on a catalog server. -/
structure CatalogStore where
  /-- The address of the server, without slashes at its end. -/
  base : String
  token : Option Secret
  /-- The number of tries before a failure that may pass is reported. -/
  patience : Nat
  deriving DecidableEq

namespace CatalogStore

/-- The store at an address. -/
def ofAddress (address : String) (token : Option Secret) (patience : Nat) : CatalogStore where
  base := String.ofList (address.toList.reverse.dropWhile (· = '/')).reverse
  token := token
  patience := patience

/-- The address of a workflow. -/
def workflowAddress (store : CatalogStore) (workflow : Workflow) : String :=
  store.base ++ "/api/v1/automations/workflows/" ++ workflow.id.text

/-- One operation of a patch, which adds a value at a path. -/
def addOperation (path : String) (value : Json) : Json :=
  .object [("op", .string "add"), ("path", .string path), ("value", value)]

/-- The patch that records a report. It is built as a value, whose objects are maps, so the members
of the report stand in the order of their names. -/
def patch (report : Report) : Json :=
  .array
    [addOperation "/response" report.toJson.sorted,
     addOperation "/status" (.string WorkflowRecord.completedName)]

/-- The type of the patch document. -/
def patchType : String := "application/json-patch+json"

/-! ## The request -/

/-- May a character stand in the value of a header? -/
def isHeaderChar (c : Char) : Bool := c = '\t' || (0x20 ≤ c.toNat && c.toNat ≠ 0x7F)

/-- The value of the header that carries a token; blanks at the end are no part of a value. -/
def bearer (token : Secret) : String :=
  String.ofList
    (("Bearer " ++ token.value).toList.reverse.dropWhile fun c => c = ' ' || c = '\t').reverse

/-- A URL without the credentials in it. -/
def plainUrl (url : Url) : Url := { url with username := "", password := none }

/-- The value of the header that carries the credentials of a URL, if it has some. -/
def basic? (url : Url) : Option String :=
  if url.credentials.isEmpty then none
  else
    let decoded (s : String) := UrlHost.percentDecode 0 s.toList
    let pair := decoded url.username ++ ':' :: decoded (url.password.getD "")
    some ("Basic " ++ String.ofList (Text.base64 (pair.flatMap String.utf8EncodeChar)))

/-- The request that records a report, or the reason why it cannot be built. -/
def request (store : CatalogStore) (workflow : Workflow) (report : Report) :
    Except String Request :=
  match Url.parse (store.workflowAddress workflow) with
  | .error _ => .error "builder error"
  | .ok url =>
      let refusal := "builder error for url (" ++ (plainUrl url).text ++ ")"
      if url.host.isNone then .error refusal
      else if store.token.any fun token => !token.value.toList.all isHeaderChar then
        .error "builder error"
      else if url.scheme ≠ "http" ∧ url.scheme ≠ "https" then .error refusal
      else
        .ok
          { method := "PATCH"
            url := plainUrl url
            contentType := some patchType
            authorization := (store.token.map bearer).or (basic? url)
            body := some (patch report).compact }

/-! ## Trying -/

/-- A failed try: whether another one may help, and the reason. -/
structure Setback where
  transient : Bool
  reason : String
  deriving DecidableEq, Repr

/-- What a request comes to that got no reply. -/
def setbackOfFault (fault : SendFault) : Setback :=
  ⟨fault.isTransient, "catalog API request failed: " ++ fault.message⟩

/-- What a reply comes to that does not grant the request. -/
def setbackOfReply (reply : Reply) : Setback :=
  ⟨reply.isTransient,
    "catalog API returned HTTP " ++ Reply.statusText reply.status ++ ": " ++ reply.body⟩

/-- Send a request once. -/
def tryOnce (request : Request) : Act Web (Except Setback Unit) := do
  match ← Web.send request with
  | .error fault => return .error (setbackOfFault fault)
  | .ok reply => return if reply.isSuccess then .ok () else .error (setbackOfReply reply)

/-- Send a request until it succeeds, fails for good, or has been tried once more than `more`
times. -/
def persist (request : Request) : Nat → Act Web (Except CheckError Unit)
  | 0 => do
      match ← tryOnce request with
      | .ok () => return .ok ()
      | .error setback => return .error (.workflow setback.reason)
  | more + 1 => do
      match ← tryOnce request with
      | .ok () => return .ok ()
      | .error setback =>
          if setback.transient then persist request more
          else return .error (.workflow setback.reason)

/-- Record a report. -/
def record (store : CatalogStore) (workflow : Workflow) (report : Report) :
    Act Web (Except CheckError Unit) := do
  Act.note ⟨.debug, .catalog, "patching automation workflow",
    [("url", .string (store.workflowAddress workflow))]⟩
  match store.request workflow report with
  | .error reason => return .error (.workflow ("catalog API request failed: " ++ reason))
  | .ok request => persist request (store.patience - 1)

/-- The store as a place to deliver to. -/
def reportStore (store : CatalogStore) : ReportStore Web := ⟨store.record⟩

end CatalogStore

end Preflight
