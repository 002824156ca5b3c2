import JsonTap.Metrics.Metric
import JsonTap.Metrics.Tally

/-!
# The registry

All metrics of the program, no two of which share the name of a series. Asking for a metric whose
name is taken gives the metric that has it, whatever its kind, so that a metric can be asked for
more than once.
-/

namespace JsonTap.Metrics

/-- The metrics, in the order in which they were made. -/
structure Registry where
  metrics : List Metric
  deriving DecidableEq

def fullName (name scope : Text) : Text :=
  if scope.isEmpty then name else scope ++ Text.ofString "_" ++ name

/-- The name of a counter, which does not repeat the ending of its series. -/
def counterName (name : Text) : Text :=
  let ending := Text.ofString "_total"
  if name.endsWith ending then name.take (name.length - ending.length) else name

/-- Whether a label is reserved: two underscores at its front, and one line only. -/
def isReservedLabel (label : Text) : Bool :=
  label.startsWith "__" &&
    match label.dropWhile (· != ('\n' : CodePoint)) with
    | [] | [_] => true
    | _ => false

def checkLabels : List Text → Except MetricFault Unit
  | [] => .ok ()
  | l :: ls =>
    match Utf8.unencodable? l with
    | some u => .error (.unencodable u)
    | none => if isReservedLabel l then .error (.reservedLabel l) else checkLabels ls

def checkName (name : Text) : Except MetricFault Unit :=
  if name.isEmpty then .error .emptyFullName
  else match Utf8.unencodable? name with
    | some u => .error (.unencodable u)
    | none => .ok ()

namespace Registry

/-- The metric that has a name, be it its own or that of a series. -/
def find? (r : Registry) (name : Text) : Option Metric :=
  r.metrics.find? (·.names.contains name)

def get? (r : Registry) (name : Text) : Option Metric := r.metrics.find? (·.name == name)

/-- A new metric, none of whose names may be taken. -/
def register (r : Registry) (m : Metric) : Except MetricFault Registry :=
  match m.names.filter fun n => (r.find? n).isSome with
  | [] => .ok ⟨r.metrics ++ [m]⟩
  | taken => .error (.duplicate taken)

def newCounter (r : Registry) (name : Text) (labels : List Text) (scope : Text) :
    Except MetricFault (Registry × Metric) := do
  if name.isEmpty then throw .emptyName
  let full := counterName (fullName name scope)
  checkLabels labels
  checkName full
  let m : Metric := ⟨full, labels, .counter (if labels.isEmpty then [([], .zero)] else [])⟩
  let r ← r.register m
  return (r, m)

def newHistogram (r : Registry) (name : Text) (bounds : List Double) (scope : Text) :
    Except MetricFault (Registry × Metric) := do
  let bounds ← Histogram.bounds (if bounds.isEmpty then Histogram.usualBounds else bounds)
  if name.isEmpty then throw .emptyName
  let full := fullName name scope
  checkName full
  let m : Metric := ⟨full, [], .histogram (.create bounds)⟩
  let r ← r.register m
  return (r, m)

/-- The metric of a name, or a new counter. -/
def counter (r : Registry) (name : Text) (labels : List Text) (scope : Text) :
    Except MetricFault (Registry × Metric) :=
  match r.find? (fullName name scope) with
  | some m => .ok (r, m)
  | none => r.newCounter name labels scope

/-- The metric of a name, or a new histogram. -/
def histogram (r : Registry) (name : Text) (bounds : List Double) (scope : Text) :
    Except MetricFault (Registry × Metric) :=
  match r.find? (fullName name scope) with
  | some m => .ok (r, m)
  | none => r.newHistogram name bounds scope

def change (r : Registry) (name : Text) (f : Metric → Metric × Option MetricFault) :
    Registry × Option MetricFault :=
  match r.get? name with
  | none => (r, none)
  | some m =>
    let (m, e) := f m
    (⟨r.metrics.map fun x => if x.name = name then m else x⟩, e)

def increment (r : Registry) (name : Text) (given : Option (Named Text)) (amount : Double) :
    Registry × Option MetricFault :=
  r.change name fun m => m.increment given amount

def observe (r : Registry) (name : Text) (x : Double) : Registry × Option MetricFault :=
  r.change name fun m => m.observe x

def scope : Text := "listener"

/-- The listener's own metrics, before anything is counted. -/
def own : Registry :=
  let bounds := sizeBounds.map fun n => Double.ofInt (Int.ofNat n)
  ⟨[⟨fullName "requests" scope, ["outcome"], .counter []⟩,
    ⟨fullName "body_bytes" scope, [], .counter [([], .zero)]⟩,
    ⟨fullName "body_size_bytes" scope, [], .histogram (.create (bounds ++ [.infinity]))⟩]⟩

end Registry

end JsonTap.Metrics
