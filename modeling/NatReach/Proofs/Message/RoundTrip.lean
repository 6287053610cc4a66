import NatReach.Message.Datagram
import NatReach.Proofs.Json.RoundTrip

namespace NatReach

namespace Document

def known? (names : List String) (member : Option String × Document) : Option (String × Document) :=
  member.1.bind fun name => if name ∈ names then some (name, member.2) else none

theorem knownMembers_eq_some_iff {names : List String} {members : List (Option String × Document)}
    {known : List (String × Document)} :
    knownMembers names members = some known ↔
      (∀ member ∈ members, member.1.isSome) ∧ members.filterMap (known? names) = known ∧
        (known.map Prod.fst).Nodup := by
  induction members generalizing known with
  | nil =>
      simp only [knownMembers, Option.some.injEq, List.filterMap_nil]
      constructor
      · rintro rfl
        exact ⟨nofun, rfl, List.nodup_nil⟩
      · exact fun h => h.2.1
  | cons member rest ih =>
      obtain ⟨_ | name, value⟩ := member
      · simp [knownMembers]
      · rw [List.forall_mem_cons, and_iff_right (show (some name).isSome = true from rfl)]
        simp only [knownMembers, Option.bind_eq_bind, Option.bind_eq_some_iff, ih, List.contains_eq_mem]
        -- A known name must not come again behind this one; of an unknown one nothing is asked.
        by_cases declared : name ∈ names
        · have here : known? names (some name, value) = some (name, value) := if_pos declared
          rw [List.filterMap_cons_some here]
          simp only [declared, decide_true, if_true]
          generalize List.filterMap (known? names) rest = found
          constructor
          · rintro ⟨others, ⟨readable, rfl, distinct⟩, taken⟩
            split at taken
            · cases taken
            · rename_i once
              cases taken
              refine ⟨readable, rfl, List.nodup_cons.2 ⟨by simpa using once, distinct⟩⟩
          · rintro ⟨readable, rfl, distinct⟩
            rw [List.map_cons, List.nodup_cons] at distinct
            exact ⟨found, ⟨readable, rfl, distinct.2⟩, if_neg (by simpa using distinct.1)⟩
        · have here : known? names (some name, value) = none := if_neg declared
          rw [List.filterMap_cons_none here]
          simp only [declared, decide_false, Bool.false_eq_true, if_false]
          constructor
          · rintro ⟨others, known, taken⟩
            cases taken
            exact known
          · exact fun known => ⟨_, known, rfl⟩

theorem filterMap_known? {names : List String} {members : List (String × Document)}
    (declared : ∀ member ∈ members, member.1 ∈ names) :
    (members.map fun member => (some member.1, member.2)).filterMap (known? names) = members := by
  induction members with
  | nil => rfl
  | cons member rest ih =>
      have here : known? names (some member.1, member.2) = some member :=
        if_pos (declared member List.mem_cons_self)
      rw [List.map_cons, List.filterMap_cons_some here,
        ih fun member inRest => declared member (List.mem_cons_of_mem _ inRest)]

theorem fields?_of_declared {names : List String} {members : List (String × Document)}
    (declared : ∀ member ∈ members, member.1 ∈ names) (distinct : (members.map Prod.fst).Nodup)
    (conventions : Conventions) :
    (record members).fields? conventions names = some ⟨members⟩ := by
  have known : knownMembers names (members.map fun member => (some member.1, member.2)) =
      some members := by
    rw [knownMembers_eq_some_iff]
    refine ⟨?_, filterMap_known? declared, distinct⟩
    intro member inside
    obtain ⟨named, -, rfl⟩ := List.mem_map.1 inside
    rfl
  simp [record, fields?, known]

theorem fields?_record {names : List String} (distinct : names.Nodup)
    {members : List (String × Document)} (ordered : (members.map Prod.fst).Sublist names)
    (conventions : Conventions) :
    (record members).fields? conventions names = some ⟨members⟩ :=
  fields?_of_declared (fun _ inside => ordered.subset (List.mem_map_of_mem inside))
    (distinct.sublist ordered) conventions

theorem intBetween?_int {low high value : Int} (atLeast : low ≤ value) (below : value < high) :
    intBetween? low high (int value) = some value := if_pos ⟨atLeast, below⟩

theorem uint16?_nat (number : UInt16) : uint16? (nat number.toNat) = some number := by
  have below := number.toNat_lt
  simp only [uint16?, natBelow?, nat]
  rw [intBetween?_int (by omega) (by omega)]
  simp

theorem uint32?_nat (number : UInt32) : uint32? (nat number.toNat) = some number := by
  have below := number.toNat_lt
  simp only [uint32?, natBelow?, nat]
  rw [intBetween?_int (by omega) (by omega)]
  simp

theorem uint64?_nat (number : UInt64) : uint64? (nat number.toNat) = some number := by
  have below := number.toNat_lt
  simp only [uint64?, natBelow?, nat]
  rw [intBetween?_int (by omega) (by omega)]
  simp

theorem int32?_int (number : Int32) : int32? (int number.toInt) = some number := by
  have atLeast := number.le_toInt
  have below := number.toInt_lt
  rw [int32?, intBetween?_int (by omega) (by omega)]
  simp

@[simp] theorem string?_str (content : String) : string? (str content) = some content := rfl

theorem mapM_map_of_reads {α β γ : Type} {write : α → β} {read : β → Option γ} {value : α → γ}
    (reads : ∀ item, read (write item) = some (value item)) (items : List α) :
    (items.map write).mapM read = some (items.map value) := by
  induction items with
  | nil => rfl
  | cons item items ih => simp [List.mapM_cons, reads, ih]

theorem entries?_record {α : Type} {write : α → Document} {read : Document → Option α}
    (reads : ∀ value, read (write value) = some value) (entries : List (String × α)) :
    (record (entries.map fun entry => (entry.1, write entry.2))).entries? read = some entries := by
  rw [record, entries?, List.map_map]
  refine (mapM_map_of_reads (fun entry => ?_) entries).trans (congrArg some (List.map_id entries))
  simp [reads]

@[simp] theorem bool?_bool (value : Bool) : bool? (bool value) = some value := rfl

theorem isIntegral_record {members : List (String × Document)}
    (integral : ∀ entry ∈ members, entry.2.isIntegral = true) :
    (record members).isIntegral = true := by
  rw [record, isIntegral, haveIntegral_iff]
  intro entry inside
  obtain ⟨named, inMembers, rfl⟩ := List.mem_map.1 inside
  exact integral named inMembers

theorem isIntegral_member {α : Type} {write : α → Document}
    (integral : ∀ value, (write value).isIntegral = true) {name : String} {value : Option α}
    {entry : String × Document} (inside : entry ∈ member name write value) :
    entry.2.isIntegral = true := by
  cases value with
  | none => cases inside
  | some value =>
      rw [List.mem_singleton.1 inside]
      exact integral value

theorem names_member_sublist {α : Type} {write : α → Document} (name : String) (value : Option α) :
    ((member name write value).map Prod.fst).Sublist [name] := by
  cases value with
  | none => exact List.nil_sublist _
  | some value => exact .refl _

end Document

theorem bind_of_eq_some {α β : Type} {first : Option α} {value : α} (found : first = some value)
    (next : α → Option β) : (first >>= next) = next value := by
  rw [found]
  rfl

namespace Fields
variable {α : Type} {fields : Fields} {name : String} {read : Document → Option α}

@[simp] theorem get?_nil (name : String) : get? ⟨[]⟩ name = none := rfl

@[simp] theorem get?_cons (other : String) (document : Document) (rest : List (String × Document))
    (name : String) :
    get? ⟨(other, document) :: rest⟩ name =
      if other = name then some document else get? ⟨rest⟩ name := by
  by_cases same : other = name <;> simp [get?, same]

@[simp] theorem get?_append (front back : List (String × Document)) (name : String) :
    get? ⟨front ++ back⟩ name = (get? ⟨front⟩ name).or (get? ⟨back⟩ name) := by
  simp [get?, List.find?_append, Option.map_or]

@[simp] theorem get?_member (other : String) (write : α → Document) (value : Option α)
    (name : String) :
    get? ⟨Document.member other write value⟩ name =
      if other = name then value.map write else none := by
  cases value with
  | none => simp [Document.member]
  | some value => simp [Document.member]

theorem required_of_get? {document : Document} {value : α} (found : fields.get? name = some document)
    (reads : read document = some value) : fields.required name read = some value := by
  rw [required, found, Option.bind_some, reads]

theorem withDefault_of_get? {document : Document} {value : α}
    (found : fields.get? name = some document) (fallback : α) (reads : read document = some value) :
    fields.withDefault name fallback read = some value := by
  rw [withDefault, found]
  exact reads

theorem optional_of_get? {value : Option α} {write : α → Document}
    (found : fields.get? name = value.map write) (reads : ∀ value, read (write value) = some value)
    (present : ∀ value, write value ≠ .null) : fields.optional name read = some value := by
  rw [optional, withDefault, found]
  cases value with
  | none => rfl
  | some value =>
      have readable := reads value
      have notNull := present value
      cases written : write value <;> simp_all [Document.nullable?]

end Fields

/-! ## The parts of a message -/

namespace Identity

theorem ofDocument?_document (identity : Identity) :
    ofDocument? identity.document = some identity := by
  let members : List (String × Document) :=
    [("cluster_id", .str identity.cluster), ("endpoint_id", .str identity.endpoint)]
  have distinct : ["cluster_id", "endpoint_id"].Nodup := by decide
  have fields : (Document.record members).fields? Json.conventions ["cluster_id", "endpoint_id"] =
      some ⟨members⟩ := Document.fields?_record distinct (.refl _) _
  have cluster : (Fields.mk members).required "cluster_id" Document.string? =
      some identity.cluster :=
    Fields.required_of_get? (by simp [members]) (Document.string?_str _)
  have endpoint : (Fields.mk members).required "endpoint_id" Document.string? =
      some identity.endpoint :=
    Fields.required_of_get? (by simp [members]) (Document.string?_str _)
  unfold ofDocument?
  rw [document, bind_of_eq_some fields, bind_of_eq_some cluster, bind_of_eq_some endpoint]
  rfl

theorem document_ne_null (identity : Identity) : identity.document ≠ .null := nofun

end Identity

namespace ClaimedAddress

theorem ofDocument?_document (claim : ClaimedAddress) :
    ofDocument? claim.document = some claim := by
  let members : List (String × Document) :=
    [("ip", .str claim.ip), ("port", .nat claim.port.toNat)]
  have distinct : ["ip", "port"].Nodup := by decide
  have fields : (Document.record members).fields? Json.conventions ["ip", "port"] =
      some ⟨members⟩ := Document.fields?_record distinct (.refl _) _
  have ip : (Fields.mk members).withDefault "ip" "" Document.string? = some claim.ip :=
    Fields.withDefault_of_get? (by simp [members]) _ (Document.string?_str _)
  have port : (Fields.mk members).withDefault "port" 0 Document.uint16? = some claim.port :=
    Fields.withDefault_of_get? (by simp [members]) _ (Document.uint16?_nat _)
  unfold ofDocument?
  rw [document, bind_of_eq_some fields, bind_of_eq_some ip, bind_of_eq_some port]
  rfl

theorem document_ne_null (claim : ClaimedAddress) : claim.document ≠ .null := nofun

end ClaimedAddress

namespace Request

theorem ofDocument?_document (request : Request) :
    ofDocument? request.document = some request := by
  let found := [("request_number", Document.nat request.number.toNat)] ++
    Document.member "sender" Identity.document request.sender ++
    Document.member "receiver" Identity.document request.receiver ++
    Document.member "using_src" ClaimedAddress.document request.source ++
    Document.member "using_dst" ClaimedAddress.document request.destination
  have ordered : (found.map Prod.fst).Sublist members := by
    simp only [found, List.map_append]
    exact ((((List.Sublist.refl ["request_number"]).append
      (Document.names_member_sublist "sender" _)).append
      (Document.names_member_sublist "receiver" _)).append
      (Document.names_member_sublist "using_src" _)).append
      (Document.names_member_sublist "using_dst" _)
  have fields := Document.fields?_record (by decide) ordered Json.conventions
  have number : (Fields.mk found).withDefault "request_number" 0 Document.uint32? =
      some request.number :=
    Fields.withDefault_of_get? (by simp [found]) _ (Document.uint32?_nat _)
  have sender : (Fields.mk found).optional "sender" Identity.ofDocument? = some request.sender :=
    Fields.optional_of_get? (by simp [found]) Identity.ofDocument?_document Identity.document_ne_null
  have receiver : (Fields.mk found).optional "receiver" Identity.ofDocument? =
      some request.receiver :=
    Fields.optional_of_get? (by simp [found]) Identity.ofDocument?_document Identity.document_ne_null
  have source : (Fields.mk found).optional "using_src" ClaimedAddress.ofDocument? =
      some request.source :=
    Fields.optional_of_get? (by simp [found]) ClaimedAddress.ofDocument?_document
      ClaimedAddress.document_ne_null
  have destination : (Fields.mk found).optional "using_dst" ClaimedAddress.ofDocument? =
      some request.destination :=
    Fields.optional_of_get? (by simp [found]) ClaimedAddress.ofDocument?_document
      ClaimedAddress.document_ne_null
  unfold ofDocument?
  rw [document, bind_of_eq_some fields, bind_of_eq_some number, bind_of_eq_some sender,
    bind_of_eq_some receiver, bind_of_eq_some source, bind_of_eq_some destination]
  rfl

end Request

/-- Only an unrecognized code that has a verdict of its own is not read back. -/
def Verdict.isLasting (verdict : Verdict) : Prop :=
  ∀ code, verdict = .unrecognized code → code ∉ [0, 1, 2, 3, 4]

theorem Verdict.ofDocument?_document {verdict : Verdict} (lasting : verdict.isLasting) :
    ofDocument? verdict.document = some verdict := by
  rw [ofDocument?, document, Document.int32?_int, Option.map_some, ofCode_code lasting]

namespace Response

theorem ofDocument?_document {response : Response} (lasting : response.verdict.isLasting) :
    ofDocument? response.document = some response := by
  let found := [("request_number", Document.nat response.number.toNat),
      ("response", response.verdict.document)] ++
    Document.member "sender" Identity.document response.sender ++
    Document.member "receiver" Identity.document response.receiver ++
    Document.member "received_src" ClaimedAddress.document response.observed ++
    [("src_ip_nat_detected", Document.bool response.sourceIpAltered),
      ("src_port_nat_detected", Document.bool response.sourcePortAltered),
      ("dst_ip_nat_detected", Document.bool response.destinationIpAltered)]
  have ordered : (found.map Prod.fst).Sublist members := by
    simp only [found, List.map_append]
    exact ((((List.Sublist.refl ["request_number", "response"]).append
      (Document.names_member_sublist "sender" _)).append
      (Document.names_member_sublist "receiver" _)).append
      (Document.names_member_sublist "received_src" _)).append
      (.refl ["src_ip_nat_detected", "src_port_nat_detected", "dst_ip_nat_detected"])
  have fields := Document.fields?_record (by decide) ordered Json.conventions
  have number : (Fields.mk found).withDefault "request_number" 0 Document.uint32? =
      some response.number :=
    Fields.withDefault_of_get? (by simp [found]) _ (Document.uint32?_nat _)
  have verdict : (Fields.mk found).withDefault "response" .direct Verdict.ofDocument? =
      some response.verdict :=
    Fields.withDefault_of_get? (by simp [found]) _ (Verdict.ofDocument?_document lasting)
  have sender : (Fields.mk found).optional "sender" Identity.ofDocument? = some response.sender :=
    Fields.optional_of_get? (by simp [found]) Identity.ofDocument?_document Identity.document_ne_null
  have receiver : (Fields.mk found).optional "receiver" Identity.ofDocument? =
      some response.receiver :=
    Fields.optional_of_get? (by simp [found]) Identity.ofDocument?_document Identity.document_ne_null
  have observed : (Fields.mk found).optional "received_src" ClaimedAddress.ofDocument? =
      some response.observed :=
    Fields.optional_of_get? (by simp [found]) ClaimedAddress.ofDocument?_document
      ClaimedAddress.document_ne_null
  have sourceIp : (Fields.mk found).withDefault "src_ip_nat_detected" false Document.bool? =
      some response.sourceIpAltered :=
    Fields.withDefault_of_get? (by simp [found]) _ (Document.bool?_bool _)
  have sourcePort : (Fields.mk found).withDefault "src_port_nat_detected" false Document.bool? =
      some response.sourcePortAltered :=
    Fields.withDefault_of_get? (by simp [found]) _ (Document.bool?_bool _)
  have destinationIp : (Fields.mk found).withDefault "dst_ip_nat_detected" false Document.bool? =
      some response.destinationIpAltered :=
    Fields.withDefault_of_get? (by simp [found]) _ (Document.bool?_bool _)
  unfold ofDocument?
  rw [document, bind_of_eq_some fields, bind_of_eq_some number, bind_of_eq_some verdict,
    bind_of_eq_some sender, bind_of_eq_some receiver, bind_of_eq_some observed,
    bind_of_eq_some sourceIp, bind_of_eq_some sourcePort, bind_of_eq_some destinationIp]
  rfl

end Response

/-! ## Messages -/

namespace Message

def isLasting : Message → Prop
  | request _ => True
  | response body => body.verdict.isLasting

theorem ofDocument?_document {message : Message} (lasting : message.isLasting) :
    ofDocument? message.document = some message := by
  cases message with
  | request body =>
      have read := Request.ofDocument?_document body
      simp [document, Document.record, ofDocument?, read]
  | response body =>
      have read := Response.ofDocument?_document lasting
      simp [document, Document.record, ofDocument?, read]

theorem isIntegral_document (message : Message) : message.document.isIntegral = true := by
  have identity (identity : Identity) : identity.document.isIntegral = true := rfl
  have claim (claim : ClaimedAddress) : claim.document.isIntegral = true := rfl
  cases message with
  | request body =>
      have integral : body.document.isIntegral = true := by
        refine Document.isIntegral_record fun entry inside => ?_
        simp only [List.mem_append, List.mem_singleton] at inside
        rcases inside with (((rfl | inside) | inside) | inside) | inside
        · rfl
        · exact Document.isIntegral_member identity inside
        · exact Document.isIntegral_member identity inside
        · exact Document.isIntegral_member claim inside
        · exact Document.isIntegral_member claim inside
      exact Document.isIntegral_record (by simpa using integral)
  | response body =>
      have integral : body.document.isIntegral = true := by
        refine Document.isIntegral_record fun entry inside => ?_
        simp only [List.mem_append, List.mem_cons, List.not_mem_nil, or_false] at inside
        rcases inside with ((((rfl | rfl) | inside) | inside) | inside) | rfl | rfl | rfl
        · rfl
        · rfl
        · exact Document.isIntegral_member identity inside
        · exact Document.isIntegral_member identity inside
        · exact Document.isIntegral_member claim inside
        · rfl
        · rfl
        · rfl
      exact Document.isIntegral_record (by simpa using integral)

end Message

namespace Datagram

theorem decodeBody_body {message : Message} (lasting : message.isLasting) :
    decodeBody (body message) = .ok message := by
  have read : Json.ofOctets? (body message) = some message.document :=
    Json.ofOctets?_render message.isIntegral_document
  rw [decodeBody, read, Option.bind_some, Message.ofDocument?_document lasting]

theorem decode_encode {message : Message} (lasting : message.isLasting) {datagram : List UInt8}
    (encoded : encode message = .ok datagram) : decode datagram = .ok message := by
  obtain ⟨rfl, fits⟩ := encode_eq_ok_iff.1 encoded
  have front : header ++ body message = 0x4E :: 0x41 :: 0x54 :: 0x50 :: version :: body message := rfl
  rw [front] at fits ⊢
  unfold decode
  rw [if_neg (Nat.not_lt.2 fits)]
  simp [magic, decodeBody_body lasting]

end Datagram
end NatReach
