import EstateFiling.Document.Data
import EstateFiling.Form.Document
import EstateFiling.Service.Failure
import EstateFiling.Service.MediaType
import EstateFiling.Service.Percent

/-!
# The service

The answers to requests: whether the service is alive and ready, the kinds of
documents, and the document of a case.  A case is refused in this order: a path
that is not text, a body that is not declared as data, a body that is too large,
a body that is not data, data that is not a case, a kind that does not exist.
-/

namespace EstateFiling

/-! ## Requests and responses -/

/-- A request. -/
structure Request where
  /-- The method. -/
  method : String
  /-- The target: a path, which may have an origin in front of it and a query or a
  fragment behind it. -/
  target : String
  /-- The declared type of the body. -/
  contentType : Option String := none
  /-- The body. -/
  body : List UInt8 := []
deriving DecidableEq, Repr

/-- The body of a response. -/
inductive Body where
  /-- Nothing. -/
  | empty
  /-- A text. -/
  | text (s : String)
  /-- Data. -/
  | json (value : Json)

/-- A response. -/
structure Response where
  /-- The status. -/
  status : Nat
  /-- The type of the body. -/
  contentType : Option String := none
  /-- The body. -/
  body : Body := .empty

namespace Response

/-- A response with data. -/
def json (status : Nat) (value : Json) : Response :=
  ⟨status, some "application/json", .json value⟩

/-- A response with a text. -/
def text (status : Nat) (s : String) : Response :=
  ⟨status, some "text/plain; charset=utf-8", .text s⟩

/-- The response to a failure. -/
def failure (f : Failure) : Response := json f.status (.object [("error", .string f.message)])

/-- There is nothing under the path. -/
def notFound : Response := { status := 404 }

/-- The path has no such method. -/
def methodNotAllowed : Response := { status := 405 }

/-- The response without its body. -/
def withoutBody (r : Response) : Response := { r with body := .empty }

end Response

/-! ## The service -/

/-- What the service knows. -/
structure Service where
  /-- Whether it takes requests yet. -/
  ready : Bool := false
  /-- How documents look. -/
  documents : DocumentSettings := {}
  /-- The style of all documents, which is worked out once. -/
  style : StyleProfile := documents.style
deriving DecidableEq, Repr

/-- A kind of document as the service lists it. -/
def DocumentKind.listing (k : DocumentKind) : Json :=
  .object ([("id", .string k.id), ("label", .string k.label)]
    ++ Json.memberIfPresent "form" .string k.formNumber?)

/-- The largest body in bytes. -/
def Request.maxBody : Nat := 2 * 1024 * 1024

/-- The case that a request carries, or the response that refuses it.  What follows
the case in the body does not matter. -/
def Request.bundle (r : Request) : Except Response CaseBundle :=
  if !r.contentType.any MediaType.isJson then
    .error (.text 415 "the body is not declared as JSON")
  else if Request.maxBody < r.body.length then .error (.text 413 "the body is too large")
  else
    match Text.ofUtf8? r.body with
    | none => .error (.text 400 "the body is not a text")
    | some text =>
        match Json.decodeFront CaseBundle.decode text with
        | .ok bundle => .ok bundle
        | .error .malformed => .error (.text 400 "the body is not JSON")
        | .error .mistyped => .error (.text 422 "the body is not a case bundle")

namespace Service

/-- The service under some settings, before it takes requests. -/
def ofSettings (settings : Settings) : Service := { documents := settings.documents }

/-- Whether the service is alive. -/
def health : Response := .json 200 (.object [("status", .string "ok")])

/-- Whether the service takes requests. -/
def readiness (s : Service) : Response :=
  if s.ready then .json 200 (.object [("status", .string "ready")])
  else .json 503 (.object [("status", .string "initializing")])

/-- The counters of the service. -/
def metrics : Response := ⟨200, some "text/plain; version=0.0.4", .text ""⟩

/-- The kinds of documents. -/
def kinds : Response := .json 200 (.array (DocumentKind.all.map DocumentKind.listing))

/-- The document of a case, if there is a kind with the name. -/
def render (s : Service) (raw : String) (b : CaseBundle) : Except Failure DocumentContent := do
  let kind ← (DocumentKind.parse raw).mapError Failure.unknownKind
  .ok ((b.build s.documents).document s.style kind)

/-- The document of the case in a request. -/
def document (s : Service) (segment : String) (r : Request) : Response :=
  match Percent.decode? segment with
  | none => .text 400 "the kind of document in the path is not text"
  | some raw =>
      match r.bundle with
      | .error refusal => refusal
      | .ok bundle =>
          match s.render raw bundle with
          | .error f => .failure f
          | .ok d => .json 200 d.toJson

/-- The response where only reading is allowed. -/
def onGet (method : String) (response : Response) : Response :=
  match method with
  | "GET" => response
  | "HEAD" => response.withoutBody
  | _ => .methodNotAllowed

/-- What follows an origin such as `https://example.com`; nothing if there is no
origin. -/
def afterOrigin : List Char → List Char
  | [] => []
  | '/' :: '/' :: rest => rest.dropWhile (· != '/')
  | _ :: rest => afterOrigin rest

/-- The path in a target. -/
def path (target : String) : List Char :=
  let bare := target.toList.takeWhile (fun c => c != '?' && c != '#')
  if bare.head? == some '/' then bare else afterOrigin bare

/-- The segments of the path in a target. -/
def segments (target : String) : List String :=
  (Text.splitWhere (· == '/') (path target)).map String.ofList

/-- The response to a request. -/
def respond (s : Service) (r : Request) : Response :=
  match segments r.target with
  | ["", "health"] => onGet r.method health
  | ["", "ready"] => onGet r.method s.readiness
  | ["", "metrics"] => onGet r.method metrics
  | ["", "api", "v1", "documents"] => onGet r.method kinds
  | ["", "api", "v1", "documents", segment] =>
      if segment.isEmpty then .notFound
      else if r.method == "POST" then s.document segment r
      else .methodNotAllowed
  | _ => .notFound

end Service

end EstateFiling
