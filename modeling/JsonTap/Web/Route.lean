import JsonTap.Web.Response

/-!
# Routes

Every path that begins with a slash and stays on one line leads to an exchange; a line feed at its
very end is allowed. Any other path is tried with a slash added to its end, or without the slashes
at its end; if that leads to an exchange the client is sent there, and otherwise nothing is found.
-/

namespace JsonTap.Web

inductive Route where
  | exchange
  | redirect (path : Text)
  | notFound
  deriving DecidableEq

def isOpen (path : Text) : Bool :=
  match path with
  | [] => false
  | c :: rest =>
    let line := if rest.getLast? = some ('\n' : CodePoint) then rest.dropLast else rest
    c = '/' && !line.contains ('\n' : CodePoint)

/-- A path with a slash added to its end, or without the slashes at its end. -/
def otherSlash (path : Text) : Text :=
  if path.endsWith "/" then Text.trimEnd (· == '/') path else path ++ Text.ofString "/"

def Route.ofPath (path : Text) : Route :=
  if isOpen path then .exchange
  else if path ≠ Text.ofString "/" && isOpen (otherSlash path) then .redirect (otherSlash path)
  else .notFound

/-! ### Addresses -/

def isHostCodePoint (c : CodePoint) : Bool :=
  let c := c.lowerAscii
  c.isDigit || (0x61 ≤ c.val && c.val ≤ 0x7A) || c = '-' || c = '.'

/-- Whether a code point may be in a numeric address between brackets. -/
def isBracketCodePoint (c : CodePoint) : Bool := (c.hexValue?).isSome || c = ':' || c = '.'

def isPortSuffix : Text → Bool
  | [] => true
  | c :: r => c = ':' && r.all CodePoint.isDigit

def isHost (t : Text) : Bool :=
  match t with
  | [] => false
  | c :: r =>
    if c = '[' then
      match r.dropWhile isBracketCodePoint with
      | d :: rest => d = ']' && !(r.takeWhile isBracketCodePoint).isEmpty && isPortSuffix rest
      | [] => false
    else !(t.takeWhile isHostCodePoint).isEmpty && isPortSuffix (t.dropWhile isHostCodePoint)

def serverAddress : Text := "127.0.0.1:8888"

def isPlainInLocation (c : CodePoint) : Bool :=
  c.val < 0x80 && (c.isDigit || (0x61 ≤ c.lowerAscii.val && c.lowerAscii.val ≤ 0x7A) ||
    (Text.ofString "_.-~:/%#?=@[]!$&'()*+,;").contains c)

/-- A code point of a location; what is not plain is escaped octet by octet. -/
def locationCodePoint (c : CodePoint) : Text :=
  if isPlainInLocation c then [c]
  else (Utf8.encodeCodePoint c).flatMap fun b =>
    ('%' : CodePoint) :: (Text.hex 2 b.val).map CodePoint.upperAscii

/-- The address of a path with the query of a request, at the host that the request names. -/
def locationOf (r : Request) (path : Text) : Except Failure Text :=
  match r.queryText with
  | .error u => .error (.undecodable u)
  | .ok query =>
    let host := if isHost r.host then r.host else serverAddress
    let address := Text.ofString "http://" ++ host ++ addressPath path ++
      (if r.query.isEmpty then [] else ('?' : CodePoint) :: query)
    match Utf8.unencodable? address with
    | some u => .error (.unencodable u)
    | none => .ok (address.flatMap locationCodePoint)

def redirectReply (r : Request) (path : Text) : Reply :=
  match locationOf r path with
  | .ok location => .sent (.redirect location)
  | .error f => .failed f

end JsonTap.Web
