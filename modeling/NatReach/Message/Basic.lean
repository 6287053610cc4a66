import NatReach.Endpoint.Basic

namespace NatReach

/-- What the answering side found. Codes that are not known yet are kept as they come. -/
inductive Verdict where
  | direct
  | altered
  | unknownCluster
  | unknownEndpoint
  | malformed
  | unrecognized (code : Int32)
deriving DecidableEq, Repr, Inhabited

namespace Verdict

def code : Verdict → Int32
  | direct => 0
  | altered => 1
  | unknownCluster => 2
  | unknownEndpoint => 3
  | malformed => 4
  | unrecognized code => code

def ofCode (code : Int32) : Verdict :=
  if code = 0 then direct
  else if code = 1 then altered
  else if code = 2 then unknownCluster
  else if code = 3 then unknownEndpoint
  else if code = 4 then malformed
  else unrecognized code

def name : Verdict → String
  | direct => "OK"
  | altered => "NAT_DETECTED"
  | unknownCluster => "UNKNOWN_DST_CLUSTER"
  | unknownEndpoint => "UNKNOWN_DST_ENDPOINT"
  | malformed => "MALFORMED"
  | unrecognized code => toString code.toInt

def isSuccess : Verdict → Bool
  | direct | altered => true
  | _ => false

theorem code_ofCode (code : Int32) : (ofCode code).code = code := by
  unfold ofCode
  repeat' split
  all_goals simp_all [Verdict.code]

theorem ofCode_code {verdict : Verdict}
    (known : ∀ code, verdict = unrecognized code → code ∉ [0, 1, 2, 3, 4]) :
    ofCode verdict.code = verdict := by
  cases verdict with
  | unrecognized code =>
      have := known code rfl
      simp only [List.mem_cons, List.not_mem_nil, or_false, not_or] at this
      obtain ⟨h0, h1, h2, h3, h4⟩ := this
      simp [Verdict.code, ofCode, h0, h1, h2, h3, h4]
  | _ => rfl

end Verdict

/-- An address and a port as a peer claims them. The text is empty if the peer could not tell. -/
structure ClaimedAddress where
  ip : String := ""
  port : UInt16 := 0
deriving DecidableEq, Repr, Inhabited

structure Request where
  number : UInt32 := 0
  sender : Option Identity := none
  receiver : Option Identity := none
  source : Option ClaimedAddress := none
  destination : Option ClaimedAddress := none
deriving DecidableEq, Repr, Inhabited

structure Response where
  number : UInt32 := 0
  verdict : Verdict := .direct
  sender : Option Identity := none
  receiver : Option Identity := none
  observed : Option ClaimedAddress := none
  sourceIpAltered : Bool := false
  sourcePortAltered : Bool := false
  destinationIpAltered : Bool := false
deriving DecidableEq, Repr, Inhabited

inductive Message where
  | request (body : Request)
  | response (body : Response)
deriving DecidableEq, Repr

namespace Message

def kind : Message → String
  | request _ => "request"
  | response _ => "response"

def sender : Message → Option Identity
  | request body => body.sender
  | response body => body.sender

def receiver : Message → Option Identity
  | request body => body.receiver
  | response body => body.receiver

end Message
end NatReach
