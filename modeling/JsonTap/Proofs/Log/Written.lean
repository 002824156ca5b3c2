import JsonTap.Log.Sink
import JsonTap.Proofs.Json.Line

/-!
# What handlers write

The text that a handler writes for some records is made of one line for each record that both
thresholds let through, in order (`Handler.written_eq_lines`); and a stream that a single handler
writes to gets this text and nothing else (`Output.stream_emitEach`).
-/

namespace JsonTap.Log

structure Stamped where
  time : Double
  record : Record

/-- The JSON line of a record while nothing else is bound; empty if there is none. -/
def Stamped.line (e : Stamped) : Text :=
  match jsonLine e.time [] e.record with
  | .ok t => t
  | .error _ => []

/-- Whether a handler of a sink writes a record. -/
def Handler.lets (h : Handler) (s : Sink) (e : Stamped) : Bool :=
  s.isEnabled e.record.level && decide (h.level ≤ e.record.level)

def Handler.written (h : Handler) (s : Sink) (es : List Stamped) : Text :=
  es.flatMap fun e => if s.isEnabled e.record.level then h.output e.time [] e.record else []

/-- A line of ASCII is taken by every place, files included. -/
theorem Target.takes_of_asciiLine {t : Text} (ht : t.AsciiLine) (target : Target) :
    target.takes t = true := by
  cases target with
  | standardOutput => rfl
  | standardError => rfl
  | file path =>
      show (!t.any CodePoint.isSurrogate) = true
      rw [Bool.not_eq_true', List.any_eq_false]
      intro c hc
      exact Bool.eq_false_iff.mp (ht.encodable c hc)

/-- A handler in JSON writes a record that both thresholds let through on one line. -/
theorem Handler.output_eq {h : Handler} (hjson : h.style = .json) {s : Sink} {e : Stamped}
    {t : Text}
    (hline : jsonLine e.time [] e.record = .ok t) (ht : t.AsciiLine) :
    (if s.isEnabled e.record.level then h.output e.time [] e.record else []) =
      if h.lets s e then e.line ++ Text.ofString "\n" else [] := by
  have heq : e.line = t := by
    unfold Stamped.line
    rw [hline]
  unfold lets output Style.line
  rw [hjson]
  dsimp only
  rw [hline, heq]
  dsimp only
  rw [Target.takes_of_asciiLine ht, if_pos rfl]
  by_cases henabled : s.isEnabled e.record.level = true
  · simp [henabled]
  · simp [henabled]

/-- Where every record has a line, a handler writes the lines of those that it lets through. -/
theorem Handler.written_eq_lines {h : Handler} (hjson : h.style = .json) (s : Sink)
    {es : List Stamped}
    (hlines : ∀ e ∈ es, ∃ t, jsonLine e.time [] e.record = .ok t ∧ t.AsciiLine) :
    h.written s es = (es.filter (h.lets s)).flatMap fun e => e.line ++ Text.ofString "\n" := by
  induction es with
  | nil => rfl
  | cons e es ih =>
      obtain ⟨⟨t, hline, ht⟩, hrest⟩ := List.forall_mem_cons.mp hlines
      unfold written at ih ⊢
      rw [List.flatMap_cons, ih hrest, output_eq hjson hline ht]
      by_cases hlets : h.lets s e = true
      · rw [if_pos hlets, List.filter_cons_of_pos hlets, List.flatMap_cons]
      · rw [if_neg hlets, List.filter_cons_of_neg hlets, List.nil_append]

/-! ## Streams -/

/-- Whether a place is a standard stream. -/
def Target.isStream : Target → Bool
  | .file _ => false
  | _ => true

namespace Output

def stream (o : Output) : Target → Text
  | .standardOutput => o.standardOutput
  | .standardError => o.standardError
  | .file _ => []

/-- Writes records, each with its time. -/
def emitEach (o : Output) (s : Sink) (es : List Stamped) : Output :=
  es.foldl (fun o e => o.emit s e.time [] e.record) o

/-- What is written to one place does not show at another. -/
theorem stream_write (o : Output) {target : Target} (hstream : target.isStream = true)
    (other : Target) (t : Text) :
    (o.write other t).stream target = o.stream target ++ if other = target then t else [] := by
  cases other with
  | standardOutput => cases target <;> simp_all [write, stream, Target.isStream]
  | standardError => cases target <;> simp_all [write, stream, Target.isStream]
  | file path =>
      -- whether or not the file can be written, the streams are left alone
      have hkept : (o.write (.file path) t).stream target = o.stream target := by
        unfold write
        dsimp only
        cases o.disk.append path (Utf8.encode t) with
        | ok disk => cases target <;> rfl
        | error f => rfl
      rw [hkept]
      cases target <;> simp_all [Target.isStream]

/-- A stream gets what is written to it, in order, and nothing else. -/
theorem stream_foldl_write {target : Target} (hstream : target.isStream = true)
    (ws : List (Target × Text)) (o : Output) :
    (ws.foldl (fun o (place, t) => o.write place t) o).stream target =
      o.stream target ++ (ws.filter (·.1 = target)).flatMap (·.2) := by
  induction ws generalizing o with
  | nil => simp
  | cons w ws ih =>
      obtain ⟨place, t⟩ := w
      rw [List.foldl_cons, ih, stream_write o hstream, List.append_assoc]
      by_cases h : place = target
      · rw [if_pos h, List.filter_cons_of_pos (by simpa using h), List.flatMap_cons]
      · rw [if_neg h, List.filter_cons_of_neg (by simpa using h), List.nil_append]

/-- A stream gets what its only handler writes for a record. -/
theorem stream_emit {s : Sink} {target : Target} (hstream : target.isStream = true)
    {h : Handler} (honly : s.handlers.filter (·.target = target) = [h]) (created : Double)
    (bound : Fields) (r : Record) (o : Output) :
    (o.emit s created bound r).stream target =
      o.stream target ++ if s.isEnabled r.level then h.output created bound r else [] := by
  unfold emit Sink.output
  rw [stream_foldl_write hstream]
  by_cases henabled : s.isEnabled r.level = true
  · have hmine : (s.handlers.map fun h => (h.target, h.output created bound r)).filter
        (·.1 = target) = [(h.target, h.output created bound r)] := by
      rw [List.filter_map]
      show (s.handlers.filter (·.target = target)).map _ = _
      rw [honly]
      rfl
    rw [if_pos henabled, if_pos henabled, hmine]
    simp
  · rw [if_neg henabled, if_neg henabled]
    rfl

/-- A stream that one handler writes to gets what this handler writes, and nothing else. -/
theorem stream_emitEach {s : Sink} {target : Target} (hstream : target.isStream = true)
    {h : Handler} (honly : s.handlers.filter (·.target = target) = [h]) (es : List Stamped)
    (o : Output) : (o.emitEach s es).stream target = o.stream target ++ h.written s es := by
  unfold emitEach Handler.written
  induction es generalizing o with
  | nil => simp
  | cons e es ih =>
      rw [List.foldl_cons, ih, stream_emit hstream honly, List.append_assoc, List.flatMap_cons]

end Output

end JsonTap.Log
