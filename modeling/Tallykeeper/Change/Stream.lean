import Tallykeeper.Change.Source
import Tallykeeper.Change.Group
import Tallykeeper.Redis.Server

/-!
# Change sources on a Redis stream

A stream source publishes events as entries of a server stream, their fields written as
text, and reads them back as one consumer of a consumer group, `count` entries at most
per read.

Reading starts by replaying the entries this consumer was delivered and did not
acknowledge: each replaying read delivers the next pending entries after the last one it
replayed. When a replaying read finds nothing, replaying ends with the fault
`empty source: no pending entries`, and from then on reads deliver new entries; a read
that finds no new entry fails with the bare `empty source`. Rewinding starts replaying
again from the first pending entry. Preparing the source creates the group at the start
of the stream, creating the stream too; a group that exists already is no failure.
Failures of the server are passed on as its reply text.
-/

namespace Tallykeeper

/-- The text a field value is written as on the server. -/
def FieldValue.wire : FieldValue → String
  | .text s => s
  | .int64 n => Numeral.decimal n
  | .int n => Numeral.decimal n
  | .int32 n => toString n.toInt
  | .uint64 n => toString n.toNat
  | .float => ""
  | .bool b => if b then "1" else "0"
  | .null => ""
  | .bytes bs => Text.Utf8.lossy bs

namespace Change

open Redis

/-- The default number of entries a read of new entries delivers. -/
def defaultCount : Nat := 100

/-- A consumer of a stream. -/
structure StreamSource where
  key : String := "counter_updates"
  group : String := "durable"
  consumer : String := "oracle"
  /-- The most new entries one read delivers. -/
  count : Nat := defaultCount
  /-- Whether reads replay pending entries. -/
  replaying : Bool := true
  /-- The id after which replaying goes on. -/
  cursor : String := "0"
  deriving DecidableEq, Repr

namespace StreamSource

/-- Publishes an event as a new entry and answers its id. -/
def propagate (codec : EventCodec) (e : Event) (src : StreamSource) (srv : Server) :
    Except Fault String × Server :=
  match srv.xadd src.key ((codec.encode e).map fun (n, v) => (n, v.wire)) with
  | (.ok id, srv') => (.ok id, srv')
  | (.error m, srv') => (.error (.foreign m.text), srv')

/-- The delivery of a read entry. -/
def delivery (codec : EventCodec) (e : StreamEntry) : Delivery :=
  { ackId := e.id.render, event := codec.decode (e.fields.map fun (n, v) => (n, .text v)) }

/-- Reads entries: pending ones while replaying, else new ones. -/
def consume (codec : EventCodec) (src : StreamSource) (srv : Server) :
    Except Fault (List Delivery) × StreamSource × Server :=
  let position := if src.replaying then src.cursor else ">"
  match srv.xreadgroup src.key src.group src.consumer position src.count with
  | (.error m, srv') => (.error (.foreign m.text), src, srv')
  | (.ok read, srv') =>
    let entries := read.getD []
    if src.replaying then
      match entries.getLast? with
      | none =>
        (.error (.wrap .emptySource "no pending entries"), { src with replaying := false }, srv')
      | some last =>
        (.ok (entries.map (delivery codec)), { src with cursor := last.id.render }, srv')
    else if entries.isEmpty then (.error (.bare .emptySource), src, srv')
    else (.ok (entries.map (delivery codec)), src, srv')

/-- Acknowledges entries by id. -/
def ack (ids : List String) (src : StreamSource) (srv : Server) : Except Fault Unit × Server :=
  if ids.isEmpty then (.ok (), srv)
  else
    match srv.xack src.key src.group ids with
    | (.ok _, srv') => (.ok (), srv')
    | (.error m, srv') => (.error (.foreign m.text), srv')

/-- Starts replaying pending entries again. -/
def rewind (src : StreamSource) : StreamSource :=
  { src with replaying := true, cursor := "0" }

/-- Creates the consumer group, unless it exists. -/
def setup (src : StreamSource) (srv : Server) : Except Fault Unit × Server :=
  match srv.xgroupCreate src.key src.group with
  | (.ok (), srv') => (.ok (), srv')
  | (.error m, srv') =>
    if Group.isBusy (some m.text) then (.ok (), srv') else (.error (.foreign m.text), srv')

end StreamSource

end Change
end Tallykeeper
