import JsonTap.Config.Settings
import JsonTap.Metrics.Exporter
import JsonTap.Net.Listener
import JsonTap.Web.App

/-!
# The service

One run of the service binds the hosts, offers the metrics if they are wanted, and serves until the
HTTP server returns. However it ends, all sockets are closed. An interruption is a normal end.
-/

namespace JsonTap.Service

open Net (Listener Network ServeFault ServerMode)

/-- What a run meets outside. -/
structure World where
  network : Network
  exporter : Metrics.ExporterMode
  server : ServerMode

def app (s : Config.ServerSettings) : Web.App := .create s.maxBodySize

def offerMetrics (w : World) (s : Config.MetricsSettings) (l : Listener) :
    Listener × Option ServeFault :=
  if s.enabled then
    match Metrics.startExporter w.exporter s.port s.host with
    | (c, .ok note) => ({ l.call c with records := l.records ++ [note] }, none)
    | (c, .error (.listener f)) => (l.call c, some (.listener f))
    | (c, .error .failed) => (l.call c, some .exporterFailed)
  else (l, none)

/-- Serves to the end, and tells why it was not a normal one. -/
def serveOut (w : World) (l : Listener) : Listener × Option ServeFault :=
  let l := (l.serve w.network w.server).stop
  match l.serving with
  | some (.failed .interrupted) => (l, none)
  | some (.failed e) => (l, some e)
  | _ => (l, none)

/-- Binds, offers the metrics and serves, as far as each step lets the next one happen. -/
def upToEnd (w : World) (s : Config.ServerSettings) (m : Config.MetricsSettings) :
    Listener × Option ServeFault :=
  match (Listener.create s.port s.hosts s.backlog).bindAll w.network with
  | (l, .error e) => (l, some e)
  | (l, .ok _) =>
    match offerMetrics w m l with
    | (l, some e) => (l, some e)
    | (l, none) => serveOut w l

def run (w : World) (s : Config.ServerSettings) (m : Config.MetricsSettings) :
    Listener × Option ServeFault :=
  let (l, e) := upToEnd w s m
  (l.close, e)

end JsonTap.Service
