import NatReach.Document.Record
import NatReach.Json.Reader
import NatReach.Json.Writer
import NatReach.Message.Basic

namespace NatReach

def Document.member {α : Type} (name : String) (write : α → Document) :
    Option α → List (String × Document)
  | none => []
  | some value => [(name, write value)]

namespace Identity

def document (identity : Identity) : Document :=
  .record [("cluster_id", .str identity.cluster), ("endpoint_id", .str identity.endpoint)]

def ofDocument? (document : Document) : Option Identity := do
  let fields ← document.fields? Json.conventions ["cluster_id", "endpoint_id"]
  return {
    cluster := ← fields.required "cluster_id" Document.string?
    endpoint := ← fields.required "endpoint_id" Document.string? }

end Identity

namespace ClaimedAddress

def document (claim : ClaimedAddress) : Document :=
  .record [("ip", .str claim.ip), ("port", .nat claim.port.toNat)]

def ofDocument? (document : Document) : Option ClaimedAddress := do
  let fields ← document.fields? Json.conventions ["ip", "port"]
  return {
    ip := ← fields.withDefault "ip" "" Document.string?
    port := ← fields.withDefault "port" 0 Document.uint16? }

end ClaimedAddress

namespace Request

def document (request : Request) : Document :=
  .record <|
    [("request_number", .nat request.number.toNat)] ++
    Document.member "sender" Identity.document request.sender ++
    Document.member "receiver" Identity.document request.receiver ++
    Document.member "using_src" ClaimedAddress.document request.source ++
    Document.member "using_dst" ClaimedAddress.document request.destination

def members : List String := ["request_number", "sender", "receiver", "using_src", "using_dst"]

def ofDocument? (document : Document) : Option Request := do
  let fields ← document.fields? Json.conventions members
  return {
    number := ← fields.withDefault "request_number" 0 Document.uint32?
    sender := ← fields.optional "sender" Identity.ofDocument?
    receiver := ← fields.optional "receiver" Identity.ofDocument?
    source := ← fields.optional "using_src" ClaimedAddress.ofDocument?
    destination := ← fields.optional "using_dst" ClaimedAddress.ofDocument? }

end Request

namespace Verdict

def document (verdict : Verdict) : Document := .int verdict.code.toInt

def ofDocument? (document : Document) : Option Verdict := document.int32?.map ofCode

end Verdict

namespace Response

def document (response : Response) : Document :=
  .record <|
    [("request_number", .nat response.number.toNat), ("response", response.verdict.document)] ++
    Document.member "sender" Identity.document response.sender ++
    Document.member "receiver" Identity.document response.receiver ++
    Document.member "received_src" ClaimedAddress.document response.observed ++
    [("src_ip_nat_detected", .bool response.sourceIpAltered),
      ("src_port_nat_detected", .bool response.sourcePortAltered),
      ("dst_ip_nat_detected", .bool response.destinationIpAltered)]

def members : List String :=
  ["request_number", "response", "sender", "receiver", "received_src", "src_ip_nat_detected",
    "src_port_nat_detected", "dst_ip_nat_detected"]

def ofDocument? (document : Document) : Option Response := do
  let fields ← document.fields? Json.conventions members
  return {
    number := ← fields.withDefault "request_number" 0 Document.uint32?
    verdict := ← fields.withDefault "response" .direct Verdict.ofDocument?
    sender := ← fields.optional "sender" Identity.ofDocument?
    receiver := ← fields.optional "receiver" Identity.ofDocument?
    observed := ← fields.optional "received_src" ClaimedAddress.ofDocument?
    sourceIpAltered := ← fields.withDefault "src_ip_nat_detected" false Document.bool?
    sourcePortAltered := ← fields.withDefault "src_port_nat_detected" false Document.bool?
    destinationIpAltered := ← fields.withDefault "dst_ip_nat_detected" false Document.bool? }

end Response

namespace Message

def document : Message → Document
  | request body => .record [("request", body.document)]
  | response body => .record [("response", body.document)]

def ofDocument? : Document → Option Message
  | .table [(some "request", body)] => (Request.ofDocument? body).map request
  | .table [(some "response", body)] => (Response.ofDocument? body).map response
  | _ => none

end Message
end NatReach
