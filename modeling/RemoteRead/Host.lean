import RemoteRead.Calendar.Zone

/-!
# The host

What the bridge takes from the machine and the process that it runs in. What is said about reading
documents and decoding tables is said of every host.
-/

namespace RemoteRead

/-- What a document is read for. -/
inductive DocumentUse where
  /-- The answer of a store. -/
  | answer
  /-- The tags of a row. -/
  | tags
  /-- The value of a setting. -/
  | setting

/-- A host. It is an inferred parameter, so that what lies between the functions that ask for it
need not pass it on. -/
class Host where
  /-- The local time zone. -/
  zone : Calendar.Zone
  /-- How many levels of arrays and objects a document may open. The calls that are open where it is
  read take their share of one limit, so this depends on the use. -/
  depth : DocumentUse → Nat
  /-- No document is read where not even one level is left. -/
  depth_pos : ∀ use, 0 < depth use

/-- A host in universal time, where eighteen of the thousand calls that may be open are. -/
@[reducible] def Host.utc : Host where
  zone := .utc
  depth := fun _ => 982
  depth_pos := fun _ => by decide

end RemoteRead
