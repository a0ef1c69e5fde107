import RemoteRead.Error

/-!
# Compilation settings

What the compilation of requests depends on: caps, the registry of databases, and the namespaces of
the store.
-/

namespace RemoteRead

/-- Database keys with their tables; a key without tables admits any. -/
abbrev Registry := List (Text × List Text)

/-- The tables that come with the bridge. -/
def defaultDatabases : Registry :=
  [("flow_log", ["l4_flow_log", "l7_flow_log", "l4_packet", "l7_packet"]),
    ("flow_metrics", ["vtap_flow_port", "vtap_flow_edge_port", "vtap_app_port",
      "vtap_app_edge_port", "vtap_acl"]),
    ("ext_metrics", ["ext_common"]),
    ("deepflow_system", ["deepflow_system"]),
    ("event", ["event"]),
    ("prometheus", ["samples"])]

/-- The tables that have a client and a server side. -/
def defaultEdgeTables : List Text :=
  ["vtap_flow_edge_port", "vtap_app_edge_port", "l4_flow_log", "l7_flow_log"]

/-- The settings of the compilation. -/
structure Config where
  /-- The cap on rows in every statement. -/
  rowLimit : Int := 10000
  /-- The cap on series in every response. -/
  seriesLimit : Int := 100
  /-- The databases that a metric name may start with. -/
  databases : Registry := defaultDatabases
  /-- The tables whose directional tags have two columns. -/
  edgeTables : List Text := defaultEdgeTables
  /-- The database that keeps all tags in one column. -/
  systemDatabase : Text := "deepflow_system"
  /-- The namespace of the views that back plain metric names. -/
  virtualNamespace : Text := "prometheus"

namespace Config

/-- The settings, unless a cap is not positive. -/
def checked (c : Config) : Except Fault Config :=
  if c.rowLimit < 1 then
    .error (.badValue ("row_limit must be positive, got " ++ Text.ofInt c.rowLimit))
  else if c.seriesLimit < 1 then
    .error (.badValue ("series_limit must be positive, got " ++ Text.ofInt c.seriesLimit))
  else .ok c

end Config

end RemoteRead
