import NatReach.Config.Form
import NatReach.Proofs.Endpoint.RoundTrip
import NatReach.Proofs.Text.Utf8
import NatReach.Proofs.Toml.Statements
import NatReach.Proofs.Toml.Tree

namespace NatReach
open Toml Node

namespace DiscoverySettings

def document (settings : DiscoverySettings) : Document := .record (documents settings.lines)

end DiscoverySettings

/-! ## Endpoints -/

namespace Endpoint

def settingLines (endpoint : Endpoint) : List (String × Line) :=
  endpoint.settings.entries.map fun entry => (entry.1, .text entry.2)

theorem blocks_eq (endpoint : Endpoint) (header : Header) (path : List String) :
    endpoint.blocks header path =
      [⟨header, endpoint.lines⟩, ⟨.table (path ++ ["backend_config"]), endpoint.settingLines⟩] := rfl

def node (endpoint : Endpoint) : Node :=
  table .header (leaves (documents endpoint.lines) ++
    [("backend_config", table .header (leaves (documents endpoint.settingLines)))])

theorem document_node (endpoint : Endpoint) : endpoint.node.document = endpoint.document := by
  rw [node, Node.document, memberDocuments_append, memberDocuments_leaves, memberDocuments, memberDocuments,
    Node.document, memberDocuments_leaves]
  simp [documents, settingLines, lines, Endpoint.document, Document.record, AddressSet.document,
    Line.document]

def statements (endpoint : Endpoint) (path : List String) : List Statement :=
  assignments (documents endpoint.lines) ++
    .table (path ++ ["backend_config"]) :: assignments (documents endpoint.settingLines)

theorem statements_blocks (endpoint : Endpoint) (header : Header) (path : List String) :
    (endpoint.blocks header path).flatMap Block.statements =
      header.statements ++ endpoint.statements path := by
  rw [blocks_eq, List.flatMap_cons, List.flatMap_singleton, Block.statements, Block.statements, statements,
    List.append_assoc]
  rfl

theorem foldlM_statements (endpoint : Endpoint) {path : List String} {within : Node → Node}
    (way : Way path within) :
    (endpoint.statements path).foldlM Draft.step ⟨within (table .header []), path⟩ =
      some ⟨within endpoint.node, path ++ ["backend_config"]⟩ := by
  have names : (documents endpoint.lines).map Prod.fst = ["cluster_id", "cable_name", "hostname", "backend",
      "public_ips", "private_ips", "health_check_ips"] := rfl
  have lines : ((documents endpoint.lines).map Prod.fst).Nodup := names ▸ by decide
  have fresh : find? "backend_config" (leaves (documents endpoint.lines)) = none := by
    rw [find?_eq_none_iff, names_leaves, names]
    decide
  have keys : ((documents endpoint.settingLines).map Prod.fst).Nodup := by
    rw [names_documents, settingLines, List.map_map]
    exact endpoint.settings.nodup_keys
  rw [statements, foldlM_of_front (foldlM_lines way lines), foldlM_of_step (step_table way fresh path)]
  exact foldlM_lines (way.enter fresh) keys

end Endpoint

/-! ## Configurations -/

namespace Config

def emptyRemotes (config : Config) : List (String × Document) :=
  if config.remotes.isEmpty then [("remotes", .list [])] else []

def front (config : Config) : List (String × Node) :=
  leaves config.emptyRemotes ++ [("local", config.home.node)] ++
    [("discovery", table .header (leaves (documents config.discovery.lines)))]

def document (config : Config) : Document :=
  .record (config.emptyRemotes ++
    [("local", config.home.document), ("discovery", config.discovery.document)] ++
    if config.remotes.isEmpty then [] else [("remotes", .list (config.remotes.map Endpoint.document))])

theorem names_discovery (settings : DiscoverySettings) :
    ((documents settings.lines).map Prod.fst).Nodup := by
  rw [names_documents, DiscoverySettings.lines]
  cases settings.revalidateSeconds <;> simp

theorem names_emptyRemotes (config : Config) :
    (config.emptyRemotes.map Prod.fst).Sublist ["remotes"] := by
  unfold emptyRemotes
  split
  · exact .refl _
  · exact List.nil_sublist _

def frontStatements (config : Config) : List Statement :=
  assignments config.emptyRemotes ++
    (.table ["local"] :: (config.home.statements ["local"] ++
      .table ["discovery"] :: assignments (documents config.discovery.lines)))

theorem foldlM_front (config : Config) :
    config.frontStatements.foldlM Draft.step {} = some ⟨table .header config.front, ["discovery"]⟩ := by
  have names := config.names_emptyRemotes
  have once : (config.emptyRemotes.map Prod.fst).Nodup := (by decide : ["remotes"].Nodup).sublist names
  have noHome : find? "local" (leaves config.emptyRemotes) = none := by
    rw [find?_eq_none_iff, names_leaves]
    exact fun member => absurd (names.subset member) (by decide)
  have noDiscovery : find? "discovery" (leaves config.emptyRemotes ++ [("local", config.home.node)]) =
      none := by
    rw [find?_eq_none_iff, List.map_append, names_leaves, List.mem_append, not_or]
    exact ⟨fun member => absurd (names.subset member) (by decide), by simp⟩
  have first := foldlM_of_front (foldlM_lines Way.here once)
  have opened := foldlM_of_step (step_table Way.here noHome [])
  have home := foldlM_of_front (config.home.foldlM_statements (Way.here.enter noHome))
  have next := foldlM_of_step (step_table Way.here noDiscovery ["local", "backend_config"])
  have last := foldlM_lines (Way.here.enter noDiscovery) (names_discovery config.discovery)
  exact (first _).trans ((opened _).trans ((home _).trans ((next _).trans last)))

theorem foldlM_remotes {members : List (String × Node)} (fresh : find? "remotes" members = none)
    (remotes : List Endpoint) (items : List Node) (last : List String) :
    ∃ path, (remotes.flatMap fun remote => .item ["remotes"] :: remote.statements ["remotes"]).foldlM
        Draft.step ⟨table .header (members ++ [("remotes", tables items)]), last⟩ =
      some ⟨table .header (members ++ [("remotes", tables ((remotes.map Endpoint.node).reverse ++ items))]),
        path⟩ := by
  induction remotes generalizing items last with
  | nil => exact ⟨last, rfl⟩
  | cons remote remotes ih =>
      obtain ⟨path, others⟩ := ih (remote.node :: items) ["remotes", "backend_config"]
      have opened := foldlM_of_step (step_nextItem Way.here fresh items last)
      have filled := foldlM_of_front (remote.foldlM_statements (Way.here.enterItem fresh items))
      refine ⟨path, ?_⟩
      rw [List.map_cons, List.reverse_cons, List.append_assoc]
      exact (opened _).trans ((filled _).trans others)

theorem statements_blocks (config : Config) :
    config.blocks.flatMap Block.statements = config.frontStatements ++
      config.remotes.flatMap fun remote => .item ["remotes"] :: remote.statements ["remotes"] := by
  have opening : Block.statements ⟨.none, if config.remotes.isEmpty then [("remotes", .texts [])] else []⟩ =
      assignments config.emptyRemotes := by
    unfold emptyRemotes
    split <;> rfl
  have discovery : Block.statements ⟨.table ["discovery"], config.discovery.lines⟩ =
      .table ["discovery"] :: assignments (documents config.discovery.lines) := rfl
  simp only [blocks, frontStatements, List.cons_append, List.flatMap_cons, List.flatMap_append,
    List.flatMap_assoc, Endpoint.statements_blocks, opening, discovery,
    Header.statements, List.append_assoc, List.nil_append]

theorem memberDocuments_front (config : Config) :
    memberDocuments config.front = (config.emptyRemotes.map fun pair => (some pair.1, pair.2)) ++
      [(some "local", config.home.document), (some "discovery", config.discovery.document)] := by
  rw [front, memberDocuments_append, memberDocuments_append, memberDocuments_leaves]
  simp only [memberDocuments, Endpoint.document_node, Node.document, memberDocuments_leaves,
    List.append_assoc]
  rfl

theorem assemble?_blocks (config : Config) :
    assemble? (config.blocks.flatMap Block.statements) = some config.document := by
  rw [assemble?, statements_blocks, foldlM_of_front config.foldlM_front]
  cases remotes : config.remotes with
  | nil =>
      have written : (table .header config.front).document = config.document := by
        rw [Node.document, memberDocuments_front, document, Document.record, List.map_append,
          List.map_append, if_pos (by rw [remotes]; rfl)]
        simp
      exact congrArg some written
  | cons first others =>
      have fresh : find? "remotes" config.front = none := by
        rw [front, emptyRemotes, remotes]
        rfl
      have opened := foldlM_of_step (step_item Way.here fresh ["discovery"])
      have filled := foldlM_of_front (first.foldlM_statements (Way.here.enterItem fresh []))
      obtain ⟨path, rest⟩ := foldlM_remotes fresh others [first.node] ["remotes", "backend_config"]
      have all : ((first :: others).flatMap fun remote =>
          .item ["remotes"] :: remote.statements ["remotes"]).foldlM Draft.step
            ⟨table .header config.front, ["discovery"]⟩ = _ :=
        (opened _).trans ((filled _).trans rest)
      rw [all, Option.map_some]
      have items : (itemDocuments ((others.map Endpoint.node).reverse ++ [first.node])).reverse =
          (first :: others).map Endpoint.document := by
        simp [itemDocuments_eq, Endpoint.document_node, Function.comp_def]
      have written : (table .header (config.front ++
          [("remotes", tables ((others.map Endpoint.node).reverse ++ [first.node]))])).document =
          config.document := by
        have some : ¬ config.remotes.isEmpty := by simp [remotes]
        rw [Node.document, memberDocuments_append, memberDocuments_front, memberDocuments, memberDocuments,
          Node.document, items, document, Document.record, List.map_append, List.map_append, if_neg some,
          remotes]
        rfl
      exact congrArg some written

end Config

/-! ## Reading back -/

theorem Family.ofDocument?_str (family : Family) (conventions : Conventions) :
    Family.ofDocument? conventions (.str family.key) = some family :=
  family.ofKey?_key

namespace DiscoverySettings

def written (settings : DiscoverySettings) : List (String × Document) :=
  [("bind_addr", .str settings.bindAddress),
    ("tick_interval_ms", .nat settings.tickInterval.toNat),
    ("retry_base_ms", .nat settings.retryBase.toNat),
    ("retry_max_ms", .nat settings.retryMax.toNat),
    ("max_attempts", .nat settings.maxAttempts.toNat)] ++
  Document.member "revalidate_interval_secs" (fun seconds : UInt64 => .nat seconds.toNat)
    settings.revalidateSeconds ++
  [("ip_family", .str settings.family.key)]

theorem documents_lines (settings : DiscoverySettings) : documents settings.lines = settings.written := by
  unfold lines written
  cases settings.revalidateSeconds <;> rfl

theorem ofDocument?_document (settings : DiscoverySettings) (conventions : Conventions) :
    ofDocument? conventions settings.document = some settings := by
  let found := settings.written
  have ordered : (found.map Prod.fst).Sublist members := by
    simp only [found, written, List.map_append]
    exact ((List.Sublist.refl ["bind_addr", "tick_interval_ms", "retry_base_ms", "retry_max_ms",
      "max_attempts"]).append (Document.names_member_sublist "revalidate_interval_secs" _)).append
      (.refl ["ip_family"])
  have fields := Document.fields?_record (by decide) ordered conventions
  have bindAddress (fallback) : (Fields.mk found).withDefault "bind_addr" fallback Document.string? =
      some settings.bindAddress :=
    Fields.withDefault_of_get? (by simp [found, written]) _ (Document.string?_str _)
  have tickInterval (fallback) :
      (Fields.mk found).withDefault "tick_interval_ms" fallback Document.uint64? =
        some settings.tickInterval :=
    Fields.withDefault_of_get? (by simp [found, written]) _ (Document.uint64?_nat _)
  have retryBase (fallback) : (Fields.mk found).withDefault "retry_base_ms" fallback Document.uint64? =
      some settings.retryBase :=
    Fields.withDefault_of_get? (by simp [found, written]) _ (Document.uint64?_nat _)
  have retryMax (fallback) : (Fields.mk found).withDefault "retry_max_ms" fallback Document.uint64? =
      some settings.retryMax :=
    Fields.withDefault_of_get? (by simp [found, written]) _ (Document.uint64?_nat _)
  have maxAttempts (fallback) : (Fields.mk found).withDefault "max_attempts" fallback Document.uint32? =
      some settings.maxAttempts :=
    Fields.withDefault_of_get? (by simp [found, written]) _ (Document.uint32?_nat _)
  have revalidate : (Fields.mk found).optional "revalidate_interval_secs" Document.uint64? =
      some settings.revalidateSeconds :=
    Fields.optional_of_get? (by simp [found, written]) Document.uint64?_nat fun _ => nofun
  have family (fallback) :
      (Fields.mk found).withDefault "ip_family" fallback (Family.ofDocument? conventions) =
        some settings.family :=
    Fields.withDefault_of_get? (by simp [found, written]) _
      (settings.family.ofDocument?_str conventions)
  unfold ofDocument?
  rw [document, documents_lines, bind_of_eq_some fields]
  dsimp only
  rw [bind_of_eq_some (bindAddress _), bind_of_eq_some (tickInterval _), bind_of_eq_some (retryBase _),
    bind_of_eq_some (retryMax _), bind_of_eq_some (maxAttempts _), bind_of_eq_some revalidate,
    bind_of_eq_some (family _)]
  rfl

end DiscoverySettings

namespace Config

theorem ofDocument?_document (config : Config) (conventions : Conventions) :
    ofDocument? conventions config.document = some config := by
  let found := config.emptyRemotes ++
    [("local", config.home.document), ("discovery", config.discovery.document)] ++
    if config.remotes.isEmpty then [] else [("remotes", .list (config.remotes.map Endpoint.document))]
  have names : found.map Prod.fst = ["remotes", "local", "discovery"] ∨
      found.map Prod.fst = ["local", "discovery", "remotes"] := by
    simp only [found, emptyRemotes]
    split
    · exact .inl rfl
    · exact .inr rfl
  have all : found.map Prod.fst ⊆ members := by
    rcases names with same | same <;> exact same ▸ by decide
  have distinct : (found.map Prod.fst).Nodup := by
    rcases names with same | same <;> exact same ▸ by decide
  have fields := Document.fields?_of_declared (fun _ inside => all (List.mem_map_of_mem inside)) distinct
    conventions
  have home : (Fields.mk found).required "local" (Endpoint.ofDocument? conventions) =
      some config.home :=
    Fields.required_of_get? (by simp [found, emptyRemotes]; split <;> simp)
      (config.home.ofDocument?_document conventions)
  have discovery :
      (Fields.mk found).withDefault "discovery" {} (DiscoverySettings.ofDocument? conventions) =
        some config.discovery :=
    Fields.withDefault_of_get? (by simp [found, emptyRemotes]; split <;> simp) _
      (config.discovery.ofDocument?_document conventions)
  have remotes : (Fields.mk found).withDefault "remotes" []
      (Document.list? (Endpoint.ofDocument? conventions)) = some config.remotes := by
    have present : (Fields.mk found).get? "remotes" =
        some (.list (config.remotes.map Endpoint.document)) := by
      simp only [found, emptyRemotes]
      split
      · rename_i none
        rw [List.isEmpty_iff.1 none]
        rfl
      · rfl
    have reads (endpoint : Endpoint) :
        Endpoint.ofDocument? conventions endpoint.document = some (id endpoint) :=
      endpoint.ofDocument?_document conventions
    refine Fields.withDefault_of_get? present _ ?_
    rw [Document.list?, Document.mapM_map_of_reads reads, List.map_id]
  unfold ofDocument?
  rw [document, bind_of_eq_some fields, bind_of_eq_some home, bind_of_eq_some discovery,
    bind_of_eq_some remotes]
  rfl

def numbers (config : Config) : List Nat :=
  [config.discovery.tickInterval.toNat, config.discovery.retryBase.toNat, config.discovery.retryMax.toNat,
    config.discovery.maxAttempts.toNat] ++
  config.discovery.revalidateSeconds.toList.map UInt64.toNat

theorem fits_settings (config : Config) :
    (∀ line ∈ config.discovery.lines, line.2.fits = true) ↔
      ∀ number ∈ config.numbers, fitsInt64 number = true := by
  unfold DiscoverySettings.lines numbers
  cases config.discovery.revalidateSeconds <;> simp [Line.fits]

theorem forall_endpoint {property : Block → Prop} (endpoint : Endpoint) (header : Header)
    (path : List String) :
    (∀ block ∈ endpoint.blocks header path, property block) ↔ property ⟨header, endpoint.lines⟩ ∧
      property ⟨.table (path ++ ["backend_config"]), endpoint.settingLines⟩ := by
  rw [Endpoint.blocks_eq, List.forall_mem_cons, List.forall_mem_singleton]

theorem forall_blocks {property : Block → Prop} (config : Config) :
    (∀ block ∈ config.blocks, property block) ↔
      property ⟨.none, if config.remotes.isEmpty then [("remotes", .texts [])] else []⟩ ∧
      (∀ block ∈ config.home.blocks (.table ["local"]) ["local"], property block) ∧
      property ⟨.table ["discovery"], config.discovery.lines⟩ ∧
      ∀ remote ∈ config.remotes, ∀ block ∈ remote.blocks (.item ["remotes"]) ["remotes"],
        property block := by
  simp only [blocks, List.cons_append, List.forall_mem_cons, List.forall_mem_append,
    List.forall_mem_flatMap]
  grind

theorem fits_endpoint (endpoint : Endpoint) (header : Header) (path : List String) :
    ∀ block ∈ endpoint.blocks header path, block.fits = true := by
  rw [forall_endpoint, Block.fits_iff, Block.fits_iff]
  constructor
  · simp [Endpoint.lines, Line.fits]
  · intro line member
    obtain ⟨entry, -, rfl⟩ := List.mem_map.1 member
    rfl

theorem fits_blocks_iff (config : Config) :
    config.blocks.all Block.fits = true ↔ ∀ number ∈ config.numbers, fitsInt64 number = true := by
  have opening : Block.fits ⟨.none, if config.remotes.isEmpty then [("remotes", .texts [])] else []⟩ =
      true := by
    cases config.remotes.isEmpty <;> rfl
  rw [List.all_eq_true, forall_blocks, ← fits_settings]
  constructor
  · intro all
    exact Block.fits_iff.1 all.2.2.1
  · intro fits
    exact ⟨opening, fits_endpoint _ _ _, Block.fits_iff.2 fits, fun remote _ => fits_endpoint remote _ _⟩

theorem fits_headers (config : Config) : ∀ block ∈ config.blocks, block.header.fits := by
  have short : maxNames = 79 := rfl
  simp [forall_blocks, forall_endpoint, Header.fits, short]

/-- A configuration is written to a file unless a number is too large for TOML, and the file is read as the
same configuration, whatever its texts, addresses and remotes are. -/
theorem toml_reloads (config : Config) :
    (config.toml? = none ↔ ∃ number ∈ config.numbers, 9223372036854775807 < number) ∧
    ∀ text, config.toml? = some text → load (some (Utf8.encode text.toList)) = .ok config := by
  constructor
  · have tooLarge (number : Nat) : 9223372036854775807 < number ↔ ¬ fitsInt64 number = true := by
      simp only [fitsInt64, Bool.and_eq_true, decide_eq_true_eq]
      omega
    have fits := config.fits_blocks_iff
    simp only [toml?, render?, Option.map_eq_none_iff, fits, tooLarge]
    simp
  · intro text written
    obtain ⟨rendered, renders, rfl⟩ := Option.map_eq_some_iff.1 written
    have document : Toml.read rendered = some config.document := by
      rw [read_render config.fits_headers renders, assemble?_blocks]
    have reads : ofToml? rendered = some config := by
      rw [ofToml?, document, Option.bind_some, config.ofDocument?_document]
    simp only [load, String.toList_ofList, Utf8.decode?_encode, reads]

namespace Awkward

def config : Config where
  home :=
    { cluster := "a \"b\" 'c' \\d\\"
      cable := "first\r\nsecond '''\"\"\"\t\x00"
      backend := "\n''"
      publicIps := .ofList [.v4 ⟨203, 0, 113, 9⟩, .v6 (Ipv4.mapped ⟨10, 0, 0, 7⟩)]
      settings := .ofList [("", "\"\"\"\""), ("a.b", "\x7f"), ("é 'x' \"y\"", "")] }
  remotes := [{ cluster := "east", cable := "hub" }, { cluster := "west", cable := "hub" }]

def patient : Config := { config with discovery := { tickInterval := 9223372036854775808 } }

theorem toml_reloads_awkward :
    (∃ text, config.toml? = some text ∧ load (some (Utf8.encode text.toList)) = .ok config) ∧
      patient.toml? = none := by
  constructor
  · obtain ⟨fails, reloads⟩ := toml_reloads config
    cases written : config.toml? with
    | none =>
        have small : ¬ ∃ number ∈ config.numbers, 9223372036854775807 < number := by decide
        exact absurd (fails.1 written) small
    | some text => exact ⟨text, rfl, reloads text written⟩
  · have large : ∃ number ∈ patient.numbers, 9223372036854775807 < number := by decide
    exact (toml_reloads patient).1.2 large

end Awkward

end Config
end NatReach
