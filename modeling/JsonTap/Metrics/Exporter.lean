import JsonTap.Fault
import JsonTap.Log.Record
import JsonTap.Net.System

/-!
# Offering the metrics

The metrics are offered over HTTP at a host and port of their own. If no host is given they are
offered at every address of the older kind.
-/

namespace JsonTap.Metrics

def exporterLogger : Text := "payload_listener.utils.metrics"

def exporterHost (host : Text) : Text := if host.isEmpty then "0.0.0.0" else host

def exporterFault (port : Int) (host : Text) (r : Net.Refusal) : Fault :=
  ⟨.bind, Text.ofString "Could not start metrics exporter on port " ++ Text.ofInt port,
    [("host", .str (exporterHost host)), ("error", .str r.message)]⟩

inductive ExporterMode where
  /-- It offers the metrics. -/
  | run
  /-- The system refuses what it asks for. -/
  | refuse (r : Net.Refusal)
  /-- It fails for another reason. -/
  | fail
  deriving DecidableEq

inductive ExporterFault where
  | listener (f : Fault)
  /-- The exporter failed, and not because the system refused anything. -/
  | failed

/-- Offers the metrics: the call that is made, and the record about it or the fault. Only a refusal
of the system is a fault of the listener. -/
def startExporter (mode : ExporterMode) (port : Int) (host : Text) :
    Net.Call × Except ExporterFault Log.Record :=
  (.exporter port (exporterHost host),
    match mode with
    | .refuse r => .error (.listener (exporterFault port host r))
    | .fail => .error .failed
    | .run =>
      .ok (.note Log.Level.info exporterLogger
        (Text.ofString "Metrics exporter listening on " ++ exporterHost host ++ Text.ofString ":" ++
          Text.ofInt port) []))

end JsonTap.Metrics
