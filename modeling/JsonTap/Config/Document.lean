import JsonTap.Named
import JsonTap.Unicode.Case

/-!
# Settings documents

A document has sections with options, and defaults that every section shows unless it has an option
of the name itself. Names of options are kept in lower case. `Document.get?` is the view of a
document: the effective value of an option in a section.
-/

namespace JsonTap.Config

abbrev Options := Named Text

def defaultName : Text := "DEFAULT"

structure Document where
  defaults : Options
  sections : Named Options
  deriving DecidableEq

namespace Document

def empty : Document := ⟨[], []⟩

def hasSection (d : Document) (name : Text) : Bool := d.sections.has name

/-- The effective value of an option in a section. -/
def get? (d : Document) (name key : Text) : Option Text :=
  match d.sections.get? name with
  | none => none
  | some options => (options.get? (Unicode.lower key)).or (d.defaults.get? (Unicode.lower key))

def hasOption (d : Document) (name key : Text) : Bool := (d.get? name key).isSome

/-- Adds a section without options unless it is there. -/
def ensureSection (d : Document) (name : Text) : Document :=
  { d with sections := d.sections.putNew name [] }

/-- Writes an option into a section that is there; the empty name and that of the
defaults stand for the defaults. -/
def put (d : Document) (name key value : Text) : Document :=
  let write (options : Options) : Options := options.put (Unicode.lower key) value
  if name.isEmpty || name = defaultName then { d with defaults := write d.defaults }
  else { d with sections := d.sections.change name write }

/-- The options of a section with their effective values: its own, then those that only the
defaults have. -/
def effective (d : Document) (options : Options) : Options := options.fill d.defaults

/-- All of a document: the defaults, then each section with its effective options. -/
def listing (d : Document) : Named Options :=
  (defaultName, d.defaults) :: d.sections.map fun (name, options) => (name, d.effective options)

end Document

end JsonTap.Config
