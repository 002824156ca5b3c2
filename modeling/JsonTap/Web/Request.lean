import JsonTap.Encoding.Utf8
import JsonTap.Text.Basic

/-!
# Requests

A request has a method, a decoded path, the octets of its path as they were sent if the server
knows them, the octets of its query, and the host that it names.

`Request.target` is the path and the query as the client sent them: each octet is shown as the code
point of the same number, so that no two targets look alike. Where the octets of the path are not
known, the path of the request's address stands in, and the query must be text then.
-/

namespace JsonTap.Web

/-- A request, without its body. -/
structure Request where
  method : Text
  path : Text
  /-- The octets of the path as they were sent. -/
  rawPath : Option (List Octet)
  query : List Octet
  host : Text

/-- A code point of a path inside an address: those that would end the path are escaped. -/
def addressCodePoint (c : CodePoint) : Text :=
  if c = '?' then "%3F" else if c = '#' then "%23" else if c = '\\' then "%5C" else [c]

/-- A path inside an address: it begins with a slash unless it is empty. -/
def addressPath (path : Text) : Text :=
  match path with
  | [] => []
  | c :: _ =>
    let escaped := path.flatMap addressCodePoint
    if c = '/' then escaped else ('/' : CodePoint) :: escaped

def isDropped (c : CodePoint) : Bool := c = '\t' || c = '\r' || c = '\n'

namespace Request

def queryText (r : Request) : Except Utf8.Undecodable Text := Utf8.decodeStrict r.query

/-- The path of the request's address. An address needs the text of the query. -/
def urlPath (r : Request) : Except Utf8.Undecodable Text := do
  let _ ← r.queryText
  .ok ((addressPath r.path).filter (!isDropped ·))

def beforeQuery (bs : List Octet) : List Octet := bs.takeWhile (· != 0x3F)

def targetPath (r : Request) : Except Utf8.Undecodable Text :=
  match r.rawPath with
  | some (b :: bs) => .ok (Text.latin1 (beforeQuery (b :: bs)))
  | _ => r.urlPath

/-- The path and the query as they were sent. -/
def target (r : Request) : Except Utf8.Undecodable Text := do
  let path ← r.targetPath
  .ok (if r.query.isEmpty then path else path ++ (('?' : CodePoint) :: Text.latin1 r.query))

end Request

end JsonTap.Web
