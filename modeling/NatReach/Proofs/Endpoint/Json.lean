import NatReach.Endpoint.Edit
import NatReach.Proofs.Endpoint.RoundTrip

namespace NatReach

/-- The addresses of a set that was read from a list and an old address beside it. -/
structure AddressSet.Folds (set : AddressSet) (ips : List Ip) (legacy : Option Ip) : Prop where
  distinct : (set.ips.map Ip.family).Nodup
  v6 : set.get? .v6 = ips.find? fun ip => ip.family = .v6
  v4 : set.get? .v4 =
    (ips.find? fun ip => ip.family = .v4).or (legacy.filter fun ip => ip.family = .v4)
  order : set.ips = ips.eraseDupsBy Ip.sameFamily ++
    (legacy.filter fun ip => ip.family = .v4 ∧ ∀ other ∈ ips, other.family ≠ .v4).toList

theorem AddressSet.folds_ofParts (ips : List Ip) (legacy : Option Ip) :
    (ofParts ips legacy).Folds ips legacy where
  distinct := nodup_families _
  v6 := by simp [get?_ofParts]
  v4 := by simp [get?_ofParts]
  order := ips_ofParts ips legacy

namespace Endpoint

/-- The set comes from the members of these two names. -/
def IsFolded (fields : Fields) (list legacy : String) (set : AddressSet) : Prop :=
  ∃ ips old, fields.withDefault list [] (Document.list? AddressSet.ip?) = some ips ∧
    fields.optional legacy AddressSet.ip? = some old ∧ set.Folds ips old

theorem isFolded_of_addresses? {fields : Fields} {list legacy : String} {set : AddressSet}
    (read : addresses? fields list legacy = some set) : IsFolded fields list legacy set := by
  obtain ⟨ips, listed, read⟩ := Option.bind_eq_some_iff.1 read
  obtain ⟨old, beside, made⟩ := Option.bind_eq_some_iff.1 read
  cases made
  exact ⟨ips, old, listed, beside, AddressSet.folds_ofParts ips old⟩

theorem addresses?_of_ofDocument? {conventions : Conventions} {document : Document}
    {endpoint : Endpoint} (read : ofDocument? conventions document = some endpoint) :
    ∃ fields, document.fields? conventions members = some fields ∧
      addresses? fields "public_ips" "public_ip" = some endpoint.publicIps ∧
      addresses? fields "private_ips" "private_ip" = some endpoint.privateIps ∧
      addresses? fields "health_check_ips" "health_check_ip" = some endpoint.healthCheckIps := by
  unfold ofDocument? at read
  obtain ⟨fields, given, read⟩ := Option.bind_eq_some_iff.1 read
  obtain ⟨cluster, -, read⟩ := Option.bind_eq_some_iff.1 read
  obtain ⟨cable, -, read⟩ := Option.bind_eq_some_iff.1 read
  obtain ⟨hostname, -, read⟩ := Option.bind_eq_some_iff.1 read
  obtain ⟨backend, -, read⟩ := Option.bind_eq_some_iff.1 read
  obtain ⟨publicIps, isPublic, read⟩ := Option.bind_eq_some_iff.1 read
  obtain ⟨privateIps, isPrivate, read⟩ := Option.bind_eq_some_iff.1 read
  obtain ⟨healthCheckIps, isHealthCheck, read⟩ := Option.bind_eq_some_iff.1 read
  obtain ⟨settings, -, made⟩ := Option.bind_eq_some_iff.1 read
  cases made
  exact ⟨fields, given, isPublic, isPrivate, isHealthCheck⟩

theorem isIntegral_document (endpoint : Endpoint) : endpoint.document.isIntegral = true := by
  have addresses (set : AddressSet) : set.document.isIntegral = true := by
    rw [AddressSet.document, Document.isIntegral, Document.areIntegral_iff]
    intro item inside
    obtain ⟨ip, -, rfl⟩ := List.mem_map.1 inside
    rfl
  refine Document.isIntegral_record fun entry inside => ?_
  simp only [List.mem_cons, List.not_mem_nil, or_false] at inside
  rcases inside with rfl | rfl | rfl | rfl | rfl | rfl | rfl | rfl
  · rfl
  · rfl
  · rfl
  · rfl
  · exact addresses _
  · exact addresses _
  · exact addresses _
  · refine Document.isIntegral_record fun entry inside => ?_
    obtain ⟨setting, -, rfl⟩ := List.mem_map.1 inside
    rfl

theorem ofText?_document (endpoint : Endpoint) :
    (Json.ofText? (Json.text endpoint.document)).bind (ofDocument? Json.conventions) =
      some endpoint := by
  rw [Json.ofText?_text endpoint.isIntegral_document, Option.bind_some]
  exact ofDocument?_document endpoint Json.conventions

/-- Whatever text an endpoint is read from, each of its sets has the addresses of its list, or else the
old one, and after any edits it is read back from what is then written. -/
theorem read_folds_and_lasts {text : String} {endpoint : Endpoint}
    (read : (Json.ofText? text).bind (ofDocument? Json.conventions) = some endpoint) :
    (∃ fields, (Json.ofText? text).bind (Document.fields? Json.conventions members) = some fields ∧
      IsFolded fields "public_ips" "public_ip" endpoint.publicIps ∧
      IsFolded fields "private_ips" "private_ip" endpoint.privateIps ∧
      IsFolded fields "health_check_ips" "health_check_ip" endpoint.healthCheckIps) ∧
    ∀ edits : List Edit,
      (Json.ofText? (Json.text (edits.foldl edit endpoint).document)).bind
        (ofDocument? Json.conventions) = some (edits.foldl edit endpoint) := by
  refine ⟨?_, fun edits => ofText?_document _⟩
  obtain ⟨document, parsed, read⟩ := Option.bind_eq_some_iff.1 read
  obtain ⟨fields, given, isPublic, isPrivate, isHealthCheck⟩ := addresses?_of_ofDocument? read
  refine ⟨fields, ?_, isFolded_of_addresses? isPublic, isFolded_of_addresses? isPrivate,
    isFolded_of_addresses? isHealthCheck⟩
  rw [parsed, Option.bind_some, given]

end Endpoint

namespace OldText

def table : String :=
  "\x7b\"public_ip\":\"10.0.0.7\",\"cluster_id\":\"east\",\"cable_name\":\"hub\"," ++
    "\"private_ip\":\"::1\",\"public_ips\":[\"::1\",\"::2\"]\x7d"

def list : String := "[\"east\",\"hub\",\"\",\"\",[\"::1\",\"::2\"],\"10.0.0.7\"]"

def loopback : Ip := .v6 ⟨[0, 0, 0, 0, 0, 0, 0, 1], rfl⟩

def hub : Endpoint where
  cluster := "east"
  cable := "hub"
  publicIps := .ofList [loopback, .v4 ⟨10, 0, 0, 7⟩]

def edits : List Edit :=
  [.privateIp (.v4 ⟨10, 0, 0, 8⟩), .setting "udp-port" "4500", .publicIp (.v4 ⟨10, 0, 0, 9⟩)]

theorem read_folds_and_lasts_bothForms :
    (∀ text ∈ [table, list],
      (Json.ofText? text).bind (Endpoint.ofDocument? Json.conventions) = some hub ∧
        ∃ fields, (Json.ofText? text).bind (Document.fields? Json.conventions Endpoint.members) =
            some fields ∧
          Endpoint.IsFolded fields "public_ips" "public_ip" hub.publicIps ∧
          Endpoint.IsFolded fields "private_ips" "private_ip" hub.privateIps) ∧
      (Json.ofText? (Json.text (edits.foldl Endpoint.edit hub).document)).bind
        (Endpoint.ofDocument? Json.conventions) = some (edits.foldl Endpoint.edit hub) := by
  have reads : ∀ text ∈ [table, list],
      (Json.ofText? text).bind (Endpoint.ofDocument? Json.conventions) = some hub := by
    decide +kernel
  refine ⟨fun text member => ⟨reads text member, ?_⟩, ?_⟩
  · obtain ⟨fields, given, isPublic, isPrivate, -⟩ := (Endpoint.read_folds_and_lasts (reads text member)).1
    exact ⟨fields, given, isPublic, isPrivate⟩
  · exact (Endpoint.read_folds_and_lasts (reads table List.mem_cons_self)).2 edits

end OldText
end NatReach
