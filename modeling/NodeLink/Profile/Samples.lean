import NodeLink.Profile.Basic
/-!
# Sample profiles

Ready-made profiles of one node for rehearsals: reachable directly, reachable
in every way, and not reachable at all.
-/

namespace NodeLink.Profile.Sample

def peer : String := "k51qzi5uqu5dlvj2baxnqndepeb86cbk3ng7n3i46uzyxzyqj2xjonzllnv0v8"

def token : String := "test-session-token"

def lan : String := "192.168.1.20:4001"

def remote : String := "/ip4/203.0.113.7/udp/4001/quic-v1"

def relay : String := "https://relay.warpnet.network"

def key : NetworkKey := ⟨(List.range 32).map UInt8.ofNat⟩

def unreachable : Profile := Profile.of peer token

def direct : Profile := { unreachable with lan := some lan, remote := some remote }

def full : Profile :=
  { direct with relay := some relay, key := some key, preferRelay := true }

end NodeLink.Profile.Sample
