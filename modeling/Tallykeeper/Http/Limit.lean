import Tallykeeper.Redis.Server

/-!
# Request quotas

A client is named by the first hop of its `X-Forwarded-For` header, trimmed of white
space, or else by the host of its remote address, or by the whole remote address when
that has no port.

Each client has a fixed window of requests on the server, kept under
`ratelimiter:client:<client>`. A request decrements the client's count. When the count
has no time to live (a fresh window, or one left behind without expiry), the window
starts over: the count is set to the limit less one, expiring after the window, and that
is the quota left. Otherwise the decremented count is the quota left. A negative quota
means the request is over the limit.
-/

namespace Tallykeeper
namespace Http

/-- Whether a character is white space by the Unicode property. -/
def isWhite (c : Char) : Bool :=
  let n := c.toNat
  (0x09 ≤ n && n ≤ 0x0D) || n == 0x20 || n == 0x85 || n == 0xA0 || n == 0x1680 ||
    (0x2000 ≤ n && n ≤ 0x200A) || n == 0x2028 || n == 0x2029 || n == 0x202F ||
    n == 0x205F || n == 0x3000

/-- A text without white space at either end. -/
def trimWhite (s : String) : String :=
  String.ofList ((s.toList.dropWhile isWhite).reverse.dropWhile isWhite).reverse

/-- The host of an address `host:port` or `[host]:port`, none when the address does not
split so. -/
def hostOf? (addr : String) : Option String :=
  let cs := addr.toList
  if !cs.contains ':' then none
  else
    let lastColon := cs.length - 1 - (cs.reverse.takeWhile (· != ':')).length
    match cs with
    | '[' :: _ =>
      match cs.findIdx? (· == ']') with
      | none => none
      | some close =>
        if close + 1 != lastColon then none
        else
          let host := (cs.take close).drop 1
          if (cs.drop 1).contains '[' || (cs.drop (close + 1)).contains ']' then none
          else some (String.ofList host)
    | _ =>
      let host := cs.take lastColon
      if host.contains ':' || cs.contains '[' || cs.contains ']' then none
      else some (String.ofList host)

/-- The name of a client by its forwarding header and its remote address. -/
def clientOf (forwarded remote : String) : String :=
  if forwarded != "" then trimWhite ((forwarded.splitOn ",").headD "")
  else (hostOf? remote).getD remote

/-- The server key of a client's window. -/
def quotaKey (client : String) : String := "ratelimiter:client:" ++ client

/-- Counts a request of a client against a limit per window of whole seconds, answering
the quota left. -/
def requestQuota (limit windowSeconds : Int64) (client : String) (srv : Redis.Server) :
    Except String Int64 × Redis.Server :=
  let key := quotaKey client
  match srv.incrBy key (-1) with
  | (.error e, srv1) => (.error e.text, srv1)
  | (.ok left, srv1) =>
    match srv1.ttl key with
    | .error e => (.error e.text, srv1)
    | .ok t =>
      if t < 0 then
        let fresh := limit - 1
        match srv1.setExpiring key (Text.Utf8.encode (Numeral.decimal fresh)) windowSeconds.toInt with
        | (.ok (), srv2) => (.ok fresh, srv2)
        | (.error e, srv2) => (.error e.text, srv2)
      else (.ok left, srv1)

end Http
end Tallykeeper
