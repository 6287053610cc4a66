import NatReach.Endpoint.Setting
import NatReach.Text.Lowercase

namespace NatReach

namespace ResourceName

def isAlphanumeric (c : Char) : Bool :=
  ('0' ≤ c && c ≤ '9') || ('a' ≤ c && c ≤ 'z') || ('A' ≤ c && c ≤ 'Z')

def substitute (c : Char) : Char := if isAlphanumeric c || c == '-' || c == '.' then c else '-'

def sanitize (cs : List Char) : List Char :=
  Text.trimBy (fun c => !isAlphanumeric c) ((Text.lower cs).map substitute)

end ResourceName

def Endpoint.resourceName (endpoint : Endpoint) : Except EndpointError String :=
  if endpoint.cluster = "" then .error .emptyCluster
  else if endpoint.cable = "" then .error .emptyCable
  else
    .ok (String.ofList
      (ResourceName.sanitize (endpoint.cluster ++ "-" ++ endpoint.cable).toList))

end NatReach
