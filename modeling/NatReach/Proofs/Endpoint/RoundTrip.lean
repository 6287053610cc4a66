import NatReach.Endpoint.Form
import NatReach.Proofs.Address.RoundTrip
import NatReach.Proofs.Endpoint.AddressSet
import NatReach.Proofs.Message.RoundTrip

namespace NatReach

namespace AddressSet

theorem list?_document (set : AddressSet) : set.document.list? ip? = some set.ips := by
  have reads (ip : Ip) : ip? (.str ip.text) = some (id ip) := ip.ofText?_text
  rw [document, Document.list?, Document.mapM_map_of_reads reads, List.map_id]

end AddressSet

namespace OrderedMap
variable {α : Type}

theorem nodup_keys (map : OrderedMap α) : map.keys.Nodup := by
  rw [keys, List.Nodup, List.pairwise_map]
  refine map.ascending.imp ?_
  intro a b less same
  rw [same] at less
  exact String.lt_irrefl _ less

theorem get?_foldl_insert {entries : List (String × α)}
    (ascending : entries.Pairwise (fun a b => a.1 < b.1)) (map : OrderedMap α) (key : String) :
    (entries.foldl (fun map entry => map.insert entry.1 entry.2) map).get? key =
      (lookup key entries).or (map.get? key) := by
  induction entries generalizing map with
  | nil => rfl
  | cons entry entries ih =>
      rw [List.pairwise_cons] at ascending
      rw [List.foldl_cons, ih ascending.2, get?_insert, lookup]
      split
      · rename_i same
        have last : lookup key entries = none := lookup_eq_none.2 fun other member again =>
          String.lt_irrefl key (by simpa [same, again] using ascending.1 other member)
        rw [last, Option.none_or, Option.some_or]
      · rfl

theorem ofList_entries (map : OrderedMap α) : ofList map.entries = map := by
  apply ext_get?
  intro key
  rw [ofList, get?_foldl_insert map.ascending, get?_empty, Option.or_none]
  rfl

end OrderedMap

namespace Endpoint

theorem addresses?_of_get? {fields : Fields} {list legacy : String} {set : AddressSet}
    (found : fields.get? list = some set.document) (alone : fields.get? legacy = none) :
    addresses? fields list legacy = some set := by
  have ips : fields.withDefault list [] (Document.list? AddressSet.ip?) = some set.ips :=
    Fields.withDefault_of_get? found [] set.list?_document
  have none : fields.optional legacy AddressSet.ip? = some none := by
    rw [Fields.optional, Fields.withDefault, alone]
  rw [addresses?, bind_of_eq_some ips, bind_of_eq_some none]
  exact congrArg some set.ofList_ips

theorem ofDocument?_document (endpoint : Endpoint) (conventions : Conventions) :
    ofDocument? conventions endpoint.document = some endpoint := by
  let settings := Document.record (endpoint.settings.entries.map fun entry =>
    (entry.1, Document.str entry.2))
  let found : List (String × Document) := [
    ("cluster_id", .str endpoint.cluster),
    ("cable_name", .str endpoint.cable),
    ("hostname", .str endpoint.hostname),
    ("backend", .str endpoint.backend),
    ("public_ips", endpoint.publicIps.document),
    ("private_ips", endpoint.privateIps.document),
    ("health_check_ips", endpoint.healthCheckIps.document),
    ("backend_config", settings)]
  have names : found.map Prod.fst = ["cluster_id", "cable_name", "hostname", "backend", "public_ips",
      "private_ips", "health_check_ips", "backend_config"] := rfl
  have ordered : (found.map Prod.fst).Sublist members := names ▸ by decide
  have fields := Document.fields?_record (by decide) ordered conventions
  have cluster : (Fields.mk found).required "cluster_id" Document.string? = some endpoint.cluster :=
    Fields.required_of_get? (by simp [found]) (Document.string?_str _)
  have cable : (Fields.mk found).required "cable_name" Document.string? = some endpoint.cable :=
    Fields.required_of_get? (by simp [found]) (Document.string?_str _)
  have hostname : (Fields.mk found).withDefault "hostname" "" Document.string? =
      some endpoint.hostname :=
    Fields.withDefault_of_get? (by simp [found]) _ (Document.string?_str _)
  have backend : (Fields.mk found).withDefault "backend" "" Document.string? =
      some endpoint.backend :=
    Fields.withDefault_of_get? (by simp [found]) _ (Document.string?_str _)
  have publicIps : addresses? ⟨found⟩ "public_ips" "public_ip" = some endpoint.publicIps :=
    addresses?_of_get? (by simp [found]) (by simp [found])
  have privateIps : addresses? ⟨found⟩ "private_ips" "private_ip" = some endpoint.privateIps :=
    addresses?_of_get? (by simp [found]) (by simp [found])
  have healthCheckIps : addresses? ⟨found⟩ "health_check_ips" "health_check_ip" =
      some endpoint.healthCheckIps :=
    addresses?_of_get? (by simp [found]) (by simp [found])
  have entries : settings.entries? Document.string? = some endpoint.settings.entries :=
    Document.entries?_record Document.string?_str _
  have backendConfig : ((Fields.mk found).withDefault "backend_config" []
      (Document.entries? Document.string?)).map OrderedMap.ofList = some endpoint.settings := by
    rw [Fields.withDefault_of_get? (by simp [found]) _ entries, Option.map_some,
      OrderedMap.ofList_entries]
  have written : endpoint.document = .record found := rfl
  unfold ofDocument?
  rw [written, bind_of_eq_some fields, bind_of_eq_some cluster, bind_of_eq_some cable,
    bind_of_eq_some hostname, bind_of_eq_some backend, bind_of_eq_some publicIps,
    bind_of_eq_some privateIps, bind_of_eq_some healthCheckIps, bind_of_eq_some backendConfig]
  rfl

end Endpoint
end NatReach
