import Tallykeeper.Redis.Server
import Tallykeeper.Value.Codec

/-!
# Counts on a Redis server

Counts live on the server under `named:<key>`, as bytes of a value codec. Reading fails
with `key not found: <key>` for an absent key, and with `key not found: <key>: <why>` when
the server fails or the bytes do not read under the codec, so callers see every failed
read as an absent value.

Incrementing under the decimal codec is one increment command on the server; the
server's refusal to leave the 64-bit range becomes the overflow fault on the unprefixed
key. Under other codecs the value is read, checked and written back; its overflow fault
names the prefixed key. Only an error reply can be that refusal: a connection failure is
passed on whatever its text. Writing and deleting store and remove the bytes. Every other
failure of the server is passed on as its text.
-/

namespace Tallykeeper

open Redis

/-- The server key of a count. -/
def serverKey (key : String) : String := "named:" ++ key

/-- Whether a list of characters starts with another at some position. -/
def Text.occursIn (part : List Char) : List Char → Bool
  | [] => part.isEmpty
  | c :: rest => part.isPrefixOf (c :: rest) || occursIn part rest

/-- Whether a text holds another. -/
def Text.mentions (s part : String) : Bool :=
  Text.occursIn part.toList s.toList

namespace ServerCounts

/-- Reads a count. -/
def get (codec : ValueCodec) (key : String) (srv : Server) : Except Fault Int64 :=
  match srv.get (serverKey key) with
  | .error e => .error (.wrap .keyNotFound (key ++ ": " ++ e.text))
  | .ok none => .error (.wrap .keyNotFound key)
  | .ok (some bytes) =>
    match codec.decode bytes with
    | .ok v => .ok v
    | .error f => .error (.wrap .keyNotFound (key ++ ": " ++ f.message))

/-- Adds a delta to a count read, checked and written back. -/
def incrByRewrite (codec : ValueCodec) (key : String) (delta : Int64) (srv : Server) :
    Except Fault Int64 × Server :=
  let k := serverKey key
  match srv.get k with
  | .error e => (.error (.foreign e.text), srv)
  | .ok raw =>
    let current : Except Fault Int64 := match raw with
      | none => .ok 0
      | some bytes => codec.decode bytes
    match current with
    | .error f => (.error f, srv)
    | .ok c =>
      if overflows c delta then (.error (overflowFault k delta), srv)
      else
        match srv.set k (codec.encode (c + delta)) with
        | (.ok (), srv') => (.ok (c + delta), srv')
        | (.error e, srv') => (.error (.foreign e.text), srv')

/-- Adds a delta to a count, an absent count counting as zero. -/
def incr (codec : ValueCodec) (key : String) (delta : Int64) (srv : Server) :
    Except Fault Int64 × Server :=
  if codec.native then
    match srv.incrBy (serverKey key) delta with
    | (.ok v, srv') => (.ok v, srv')
    | (.error (.reply e), srv') =>
      (.error (if Text.mentions e "overflow" then overflowFault key delta else .foreign e), srv')
    | (.error (.transport e), srv') => (.error (.foreign e), srv')
  else incrByRewrite codec key delta srv

/-- Writes a count. -/
def set (codec : ValueCodec) (key : String) (v : Int64) (srv : Server) :
    Except Fault Int64 × Server :=
  match srv.set (serverKey key) (codec.encode v) with
  | (.ok (), srv') => (.ok v, srv')
  | (.error e, srv') => (.error (.foreign e.text), srv')

/-- Deletes a count. -/
def delete (key : String) (srv : Server) : Except Fault Unit × Server :=
  match srv.del (serverKey key) with
  | (.ok _, srv') => (.ok (), srv')
  | (.error e, srv') => (.error (.foreign e.text), srv')

end ServerCounts

end Tallykeeper
