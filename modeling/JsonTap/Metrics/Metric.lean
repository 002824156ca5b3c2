import JsonTap.Encoding.Utf8
import JsonTap.Named
import JsonTap.Number.Double
import JsonTap.Text.Quoted

/-!
# Metrics

A metric is a counter or a histogram. A counter without labels has one value; one with labels has a
value for every choice of label values that was ever asked for. A histogram counts numbers in
buckets, each of which has an upper bound; the last bound is infinity.
-/

namespace JsonTap.Metrics

inductive Kind where
  | counter
  | histogram
  deriving DecidableEq, Repr

def Kind.name : Kind → Text
  | .counter => "counter"
  | .histogram => "histogram"

def Kind.title : Kind → Text
  | .counter => "Counter"
  | .histogram => "Histogram"

/-- Numbers in buckets, each with its upper bound and the count of what went into it, and the sum of
all. -/
structure Histogram where
  buckets : List (Double × Nat)
  sum : Double
  deriving DecidableEq

inductive Content where
  /-- The value for each choice of label values. -/
  | counter (values : List (List Text × Double))
  | histogram (h : Histogram)
  deriving DecidableEq

structure Metric where
  name : Text
  labels : List Text
  content : Content
  deriving DecidableEq

inductive MetricFault where
  | emptyName
  /-- Nothing is left of the name. -/
  | emptyFullName
  | reservedLabel (label : Text)
  /-- A name cannot be written as octets. -/
  | unencodable (u : Utf8.Unencodable)
  /-- Other metrics have these names. -/
  | duplicate (names : List Text)
  | unsortedBounds
  | fewBounds
  /-- Labels are given for a metric without labels. -/
  | unlabelled (kind : Kind) (name : Text)
  | labelNames
  | labelCount
  /-- No labels are given for a metric with labels. -/
  | missingLabels (kind : Kind)
  | negative
  /-- The metric is of a kind that cannot do this. -/
  | wrongKind (kind : Kind) (operation : Text)

def MetricFault.message : MetricFault → Text
  | .emptyName => "Metric name should not be empty"
  | .emptyFullName => "metric name cannot be empty"
  | .reservedLabel l => Text.ofString "Reserved label metric name: " ++ l
  | .unencodable u => u.message
  | .duplicate names =>
    Text.ofString "Duplicated timeseries in CollectorRegistry: \x7b" ++
      Text.join ", " (names.map Text.quoted) ++ Text.ofString "\x7d"
  | .unsortedBounds => "Buckets not in sorted order"
  | .fewBounds => "Must have at least two buckets"
  | .unlabelled k name =>
    Text.ofString "No label names were set when constructing " ++ k.name ++ Text.ofString ":" ++
      name
  | .labelNames => "Incorrect label names"
  | .labelCount => "Incorrect label count"
  | .missingLabels k => k.name ++ Text.ofString " metric is missing label values"
  | .negative => "Counters can only be incremented by non-negative amounts."
  | .wrongKind k operation =>
    Text.ofString "'" ++ k.title ++ Text.ofString "' object has no attribute '" ++ operation ++
      Text.ofString "'"

namespace Histogram

/-- The bounds when none are given. -/
def usualBounds : List Double :=
  [(5, -3), (1, -2), (25, -3), (5, -2), (75, -3), (1, -1), (25, -2), (5, -1), (75, -2), (1, 0),
    (25, -1), (5, 0), (75, -1), (1, 1)].map fun (digits, exponent) =>
      Double.ofDecimal false digits exponent

def inOrder : List Double → Bool
  | a :: b :: r => !b.lt a && inOrder (b :: r)
  | _ => true

/-- The bounds of the buckets: those given, and infinity behind them. There must be a bound besides
infinity. -/
def bounds (given : List Double) : Except MetricFault (List Double) :=
  if !inOrder given then .error .unsortedBounds
  else
    let all := match given.getLast? with
      | some b => if b = .infinity then given else given ++ [.infinity]
      | none => given
    if all.length < 2 then .error .fewBounds else .ok all

def create (bounds : List Double) : Histogram := ⟨bounds.map fun b => (b, 0), .zero⟩

/-- A number goes into the first bucket whose bound is not below it. -/
def put (x : Double) : List (Double × Nat) → List (Double × Nat)
  | [] => []
  | (b, n) :: r => if x.le b then (b, n + 1) :: r else (b, n) :: put x r

/-- One more number. -/
def observe (h : Histogram) (x : Double) : Histogram := ⟨put x h.buckets, h.sum.add x⟩

/-- The bounds, each with the count of the numbers up to it, after `before` numbers. -/
def cumulative (before : Nat) : List (Double × Nat) → List (Double × Nat)
  | [] => []
  | (b, n) :: r => (b, before + n) :: cumulative (before + n) r

def count (h : Histogram) : Nat := h.buckets.foldl (fun n b => n + b.2) 0

end Histogram

namespace Metric

def kind (m : Metric) : Kind :=
  match m.content with
  | .counter _ => .counter
  | .histogram _ => .histogram

/-- The endings of the names of a metric's series. -/
def suffixes : Kind → List Text
  | .counter => ["_total", "_created"]
  | .histogram => ["_bucket", "_sum", "_count", "_created"]

/-- The names that belong to a metric: its own and those of its series. -/
def names (m : Metric) : List Text := m.name :: (suffixes m.kind).map (m.name ++ ·)

/-- The label values that labels give, in the metric's order. -/
def labelValues (m : Metric) (given : Named Text) : Except MetricFault (List Text) :=
  if m.labels.isEmpty then .error (.unlabelled m.kind m.name)
  else if given.isEmpty then .error .labelCount
  else if given.length = m.labels.length && m.labels.all (given.has ·) &&
      given.all (m.labels.contains ·.1) then
    .ok (m.labels.map fun l => (given.get? l).getD [])
  else .error .labelNames

/-- Makes a value of zero for label values, unless there is one. -/
def open? (values : List (List Text × Double)) (key : List Text) : List (List Text × Double) :=
  if (values.lookup key).isSome then values else values ++ [(key, .zero)]

/-- Adds an amount to the value for label values. A value that is asked for is there afterwards even
if the amount is refused. -/
def increment (m : Metric) (given : Option (Named Text)) (amount : Double) :
    Metric × Option MetricFault :=
  match given.mapM (labelValues m) with
  | .error e => (m, some e)
  | .ok key =>
    match m.content with
    | .histogram _ => (m, some (.wrongKind .histogram "inc"))
    | .counter values =>
      if key.isNone && !m.labels.isEmpty then (m, some (.missingLabels .counter))
      else
        let key := key.getD []
        let values := open? values key
        if amount.lt .zero then ({ m with content := .counter values }, some .negative)
        else
          let values := values.map fun (k, x) => if k = key then (k, x.add amount) else (k, x)
          ({ m with content := .counter values }, none)

/-- Puts a number into a histogram. -/
def observe (m : Metric) (x : Double) : Metric × Option MetricFault :=
  match m.content with
  | .histogram h => ({ m with content := .histogram (h.observe x) }, none)
  | .counter _ => (m, some (.wrongKind .counter "observe"))

end Metric

end JsonTap.Metrics
