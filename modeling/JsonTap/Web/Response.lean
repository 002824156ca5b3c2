import JsonTap.Encoding.Utf8
import JsonTap.Fault
import JsonTap.Datum.Text
import JsonTap.Json.Printer
import JsonTap.Log.Timestamp
import JsonTap.Web.Request

/-!
# Responses

A payload that was read is answered with an empty response. A fault is answered with a document
that names its kind, its message and details, the time and the path. A document with surrogates
cannot be sent; that, and a query that is no text, are answered with a plain internal error, and the
failure goes on to the server.
-/

namespace JsonTap.Web

/-- A response; its header fields are sorted by name. -/
structure Response where
  status : Nat
  headers : List (Text × Text)
  body : Text
  deriving DecidableEq

inductive Failure where
  | undecodable (u : Utf8.Undecodable)
  | unencodable (u : Utf8.Unencodable)

/-- What is sent, if anything, and the failure that goes on to the server. -/
structure Reply where
  response : Option Response
  failure : Option Failure

namespace Response

def ofBody (status : Nat) (mediaType body : Text) : Response :=
  ⟨status, [("content-length", Text.ofNat (Utf8.encode body).length), ("content-type", mediaType)],
    body⟩

def noContent : Response := ⟨204, [], []⟩

def notFound : Response :=
  ofBody 404 "application/json" (Json.Value.obj [("detail", .str "Not Found")]).compact

def redirect (location : Text) : Response :=
  ⟨307, [("content-length", "0"), ("location", location)], []⟩

def internalError : Response := ofBody 500 "text/plain; charset=utf-8" "Internal Server Error"

end Response

namespace Reply

def sent (r : Response) : Reply := ⟨some r, none⟩

/-- Nothing is sent, for nobody is there. -/
def nothing : Reply := ⟨none, none⟩

def failed (f : Failure) : Reply := ⟨some .internalError, some f⟩

end Reply

/-! ### Documents about faults -/

def documentTime (now : Int) : Text :=
  match Timestamp.zulu now with
  | .ok t => t
  | .error f => f.message

def faultDocument (f : Fault) (now : Int) (path : Text) : Json.Value :=
  .obj [("error", .str f.kind.code), ("message", .str f.message),
    ("details", (Datum.map f.details).toJson), ("timestamp", .str (documentTime now)),
    ("path", .str path)]

/-- The reply to a request that ended in a fault. -/
def faultReply (r : Request) (f : Fault) (now : Int) : Reply :=
  match r.urlPath with
  | .error u => .failed (.undecodable u)
  | .ok path =>
    let body := (faultDocument f now path).compact
    match Utf8.unencodable? body with
    | some u => .failed (.unencodable u)
    | none => .sent (.ofBody f.kind.status "application/json" body)

end JsonTap.Web
