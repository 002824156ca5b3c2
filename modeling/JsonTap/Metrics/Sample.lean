import JsonTap.Metrics.Registry
import JsonTap.Number.Shortest

/-!
# Samples

What the metrics show: each sample has a name, labels and a value. A counter shows each of its
values; a histogram shows how many numbers are at most each bound, how many there are, and their sum
unless its first bound is below zero.
-/

namespace JsonTap.Metrics

structure Sample where
  name : Text
  labels : List (Text × Text)
  value : Double
  deriving DecidableEq

/-- A bound as a label. Large ones get an exponent, with the digit zero before it. -/
def boundText (b : Double) : Text :=
  if b = .infinity then "+Inf"
  else if b.isInfinite then "-Inf"
  else if b.isNan then "NaN"
  else
    let t := b.toText
    match Text.cutAt '.' t with
    | (whole, some fraction) =>
      if Double.zero.lt b && 6 < whole.length then
        let mantissa := whole.take 1 ++ Text.ofString "." ++ whole.drop 1 ++ fraction
        Text.trimEnd (fun c => c = '0' || c = '.') mantissa ++ Text.ofString "e+0" ++
          Text.ofNat (whole.length - 1)
      else t
    | (_, none) => t

def Histogram.samples (name : Text) (h : Histogram) : List Sample :=
  (Histogram.cumulative 0 h.buckets).map (fun (b, n) =>
    (⟨name ++ Text.ofString "_bucket", [("le", boundText b)], Double.ofInt n⟩ : Sample)) ++
  [⟨name ++ Text.ofString "_count", [], Double.ofInt h.count⟩] ++
  match h.buckets with
  | (b, _) :: _ =>
    if Double.zero.le b then [⟨name ++ Text.ofString "_sum", [], h.sum⟩] else []
  | [] => []

def Metric.samples (m : Metric) : List Sample :=
  match m.content with
  | .counter values =>
    values.map fun (key, x) => ⟨m.name ++ Text.ofString "_total", m.labels.zip key, x⟩
  | .histogram h => h.samples m.name

/-! ### Order -/

namespace Sample

/-- A sample with its labels in the order of their names and values. -/
def sortLabels (s : Sample) : Sample :=
  { s with labels := s.labels.mergeSort fun a b => (compare [a.1, a.2] [b.1, b.2]).isLE }

/-- Samples are ordered by name, then by labels, then by the text of the value. -/
def order (a b : Sample) : Ordering :=
  (compare a.name b.name).then
    ((compare (a.labels.map fun l => [l.1, l.2]) (b.labels.map fun l => [l.1, l.2])).then
      (compare a.value.toText b.value.toText))

end Sample

def samples (ms : List Metric) : List Sample :=
  ((ms.flatMap (·.samples)).map (·.sortLabels)).mergeSort fun a b => (a.order b).isLE

end JsonTap.Metrics
