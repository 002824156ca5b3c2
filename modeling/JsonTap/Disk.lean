import JsonTap.Named
import JsonTap.Text.Quoted

/-!
# Files

A disk is what stands at each path: a file with its octets, or a directory. A path that begins with
a slash starts at the root, any other one in the directory of the program. It is taken apart at its
slashes; empty parts and single dots mean nothing, and a double dot goes up, but not above the root.
-/

namespace JsonTap

inductive Entry where
  | file (content : List Octet)
  | directory
  deriving DecidableEq

/-- What stands where, parents before their members, besides the directory of the program and those
above it. A place is the list of the parts that lead there from the root. -/
structure Disk where
  /-- The directory of the program. -/
  home : List Text
  entries : List (List Text × Entry)
  deriving DecidableEq

inductive DiskCause where
  | missing
  | alreadyThere
  | notDirectory
  | isDirectory
  deriving DecidableEq, Repr

structure DiskFault where
  cause : DiskCause
  path : Text
  deriving DecidableEq

/-- The cause in words, with its number. -/
def DiskCause.message : DiskCause → Text
  | .missing => "[Errno 2] No such file or directory"
  | .alreadyThere => "[Errno 17] File exists"
  | .notDirectory => "[Errno 20] Not a directory"
  | .isDirectory => "[Errno 21] Is a directory"

def DiskFault.message (f : DiskFault) : Text :=
  f.cause.message ++ Text.ofString ": " ++ Text.quoted f.path

namespace Disk

/-- A disk with nothing on it; the program is at the root. -/
def bare : Disk := ⟨[], []⟩

def entry? (d : Disk) (place : List Text) : Option Entry :=
  if place.isPrefixOf d.home then some .directory else d.entries.lookup place

def put (d : Disk) (place : List Text) (e : Entry) : Disk :=
  { d with entries := (d.entries.filter fun x => x.1 ≠ place) ++ [(place, e)] }

/-! ### Paths -/

def start (d : Disk) (path : Text) : List Text :=
  if path.head? = some ('/' : CodePoint) then [] else d.home

def enter (place : List Text) (part : Text) : List Text :=
  if part.isEmpty || part = Text.ofString "." then place
  else if part = Text.ofString ".." then place.dropLast
  else place ++ [part]

/-- The place that a path names, whatever stands on the way. -/
def place (d : Disk) (path : Text) : List Text := (Text.splitAt '/' path).foldl enter (d.start path)

/-- A path written from the root, without the parts that mean nothing. Two slashes at its start
stay two; any other number becomes one. -/
def absolute (d : Disk) (path : Text) : Text :=
  let slashes := (path.takeWhile (· == ('/' : CodePoint))).length
  (if slashes = 2 then Text.ofString "//" else "/") ++ Text.join "/" (d.place path)

/-- Walks along parts from a place; what stands on the way must be a directory. -/
def walk (d : Disk) : (place : List Text) → List Text → Except DiskCause (List Text)
  | place, [] => .ok place
  | place, p :: ps =>
    match d.entry? place with
    | some .directory => walk d (enter place p) ps
    | some (.file _) => .error .notDirectory
    | none => .error .missing

/-- Where a path leads, whether or not something is there. -/
def locate (d : Disk) (path : Text) : Except DiskCause (List Text) :=
  if path.isEmpty then .error .missing else walk d (d.start path) (Text.splitAt '/' path)

/-! ### Reading and writing -/

def find? (d : Disk) (path : Text) : Option Entry :=
  match d.locate path with
  | .ok place => d.entry? place
  | .error _ => none

def holds (d : Disk) (path : Text) : Bool := (d.find? path).isSome

/-- A path cut at its last slash. The slashes at the end of the first part are dropped, unless it
has nothing else. -/
def splitLast (path : Text) : Text × Text :=
  let tail := (path.reverse.takeWhile (· != ('/' : CodePoint))).reverse
  let before := (path.reverse.dropWhile (· != ('/' : CodePoint))).reverse
  let head := Text.trimEnd (· == '/') before
  (if head.isEmpty then before else head, tail)

/-- Makes one directory; there may be one already. With a fault comes the disk, as it is by then. -/
def makeDirectory (d : Disk) (path : Text) : Except (DiskFault × Disk) Disk :=
  match d.locate path with
  | .error cause => .error (⟨cause, path⟩, d)
  | .ok place =>
    match d.entry? place with
    | some .directory => .ok d
    | some (.file _) => .error (⟨.alreadyThere, path⟩, d)
    | none => .ok (d.put place .directory)

/-- Makes a directory and those above it, at most `fuel` of them. A file in the place of a directory
above is noticed only where it stands in the way. -/
def makeDirectoriesWithin : (fuel : Nat) → Disk → Text → Except (DiskFault × Disk) Disk
  | 0, d, _ => .ok d
  | fuel + 1, d, path =>
    let (head, tail) := splitLast path
    let (head, tail) := if tail.isEmpty then splitLast head else (head, tail)
    if !head.isEmpty && !tail.isEmpty && !d.holds head then
      let last (d : Disk) := if tail = Text.ofString "." then .ok d else makeDirectory d path
      match makeDirectoriesWithin fuel d head with
      | .ok d => last d
      | .error (f, d) => if f.cause = .alreadyThere then last d else .error (f, d)
    else makeDirectory d path

/-- Makes a directory and those above it. -/
def makeDirectories (d : Disk) (path : Text) : Except (DiskFault × Disk) Disk :=
  makeDirectoriesWithin (path.length + 1) d path

/-- Appends octets to a file, which is made if it is not there. -/
def append (d : Disk) (path : Text) (octets : List Octet) : Except DiskFault Disk :=
  match d.locate path with
  | .error cause => .error ⟨cause, path⟩
  | .ok place =>
    match d.entry? place with
    | some .directory => .error ⟨.isDirectory, path⟩
    | some (.file content) => .ok (d.put place (.file (content ++ octets)))
    | none => .ok (d.put place (.file octets))

/-- A disk of files and directories, with the directories above them. -/
def ofEntries (home : List Text) (es : List (Text × Entry)) : Disk :=
  es.foldl (fun d (path, e) =>
    let place := d.place path
    let above := (List.range place.length).filterMap fun n =>
      if (d.entry? (place.take n)).isSome then none else some (place.take n, Entry.directory)
    put { d with entries := d.entries ++ above } place e) ⟨home, []⟩

end Disk

end JsonTap
