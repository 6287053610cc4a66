import NatReach.Proofs.Message.Delimited

/-!
# Messages in other words

A peer of another version may write the same message otherwise: with its members in another order, with
members that are not known here, with null for a part that is missing, and without the scalars that are
what they would be anyway. It may do so in every record of the message, and spell all of it as it
likes. Every such text is read as the message.

A reader of a record goes by its fields. One step of rewording changes a field only in ways that the
reader does not tell apart, so the induction on the steps needs to know no more of a record than this.
-/
namespace NatReach
open Document (knownMembers)

/-! ## Rewording -/

/-- What a record declares: its names, the scalars that need not be written with the value that each
has then, and the records in it, each of which may be missing. -/
structure Wording where
  names : List String
  silent : List (String × Document)
  parts : List (String × Wording)

namespace Wording

def identity : Wording := ⟨["cluster_id", "endpoint_id"], [], []⟩

def claim : Wording := ⟨["ip", "port"], [("ip", .str ""), ("port", .nat 0)], []⟩

def request : Wording where
  names := Request.members
  silent := [("request_number", .nat 0)]
  parts := [("sender", identity), ("receiver", identity), ("using_src", claim), ("using_dst", claim)]

def response : Wording where
  names := Response.members
  silent := [("request_number", .nat 0), ("response", .int 0), ("src_ip_nat_detected", .bool false),
    ("src_port_nat_detected", .bool false), ("dst_ip_nat_detected", .bool false)]
  parts := [("sender", identity), ("receiver", identity), ("received_src", claim)]

end Wording

/-- That the members of a record are other ones in other words. -/
inductive Reworded :
    Wording → List (Option String × Document) → List (Option String × Document) → Prop
  | reorder {wording members others} (same : members.Perm others) : Reworded wording members others
  | add {wording members name value} (foreign : name ∉ wording.names) :
      Reworded wording members ((some name, value) :: members)
  | null {wording members name part} (isPart : (name, part) ∈ wording.parts)
      (absent : ∀ member ∈ members, member.1 ≠ some name) :
      Reworded wording members ((some name, .null) :: members)
  | leaveOut {wording members name value} (isSilent : (name, value) ∈ wording.silent) :
      Reworded wording ((some name, value) :: members) members
  | within {wording members name part before after} (isPart : (name, part) ∈ wording.parts)
      (inner : Reworded part before after) :
      Reworded wording ((some name, .table before) :: members) ((some name, .table after) :: members)
  | trans {wording members others last} (first : Reworded wording members others)
      (second : Reworded wording others last) : Reworded wording members last

/-! ## Fields -/

namespace Fields

theorem get?_eq_some_iff {found : List (String × Document)} (distinct : (found.map Prod.fst).Nodup)
    {name : String} {value : Document} : get? ⟨found⟩ name = some value ↔ (name, value) ∈ found := by
  induction found with
  | nil => simp
  | cons member rest ih =>
      obtain ⟨other, document⟩ := member
      rw [List.map_cons, List.nodup_cons] at distinct
      rw [get?_cons, List.mem_cons]
      split
      · rename_i same
        subst same
        have once : (other, value) ∉ rest := fun inRest =>
          distinct.1 (List.mem_map.2 ⟨(other, value), inRest, rfl⟩)
        simp [once, eq_comm]
      · rename_i different
        rw [ih distinct.2]
        simp [Ne.symm different]

theorem withDefault_eq_elim {α : Type} (fields : Fields) (name : String) (fallback : α)
    (read : Document → Option α) :
    fields.withDefault name fallback read = (fields.get? name).elim (some fallback) read := by
  unfold withDefault
  cases fields.get? name <;> rfl

end Fields

inductive Wording.Allows (wording : Wording) (name : String) : Option Document → Option Document → Prop
  | same (field) : Allows wording name field field
  | null {part} (isPart : (name, part) ∈ wording.parts) : Allows wording name none (some .null)
  | leaveOut {value} (isSilent : (name, value) ∈ wording.silent) : Allows wording name (some value) none
  | within {part before after} (isPart : (name, part) ∈ wording.parts)
      (inner : Reworded part before after) :
      Allows wording name (some (.table before)) (some (.table after))

def Wording.Carries (wording : Wording) (before after : List (Option String × Document)) : Prop :=
  ∀ known, knownMembers wording.names before = some known →
    ∃ other, knownMembers wording.names after = some other ∧
      ∀ name, wording.Allows name (Fields.get? ⟨known⟩ name) (Fields.get? ⟨other⟩ name)

namespace Wording
variable {wording : Wording} {members : List (Option String × Document)} {name : String}

theorem carries_reorder {others : List (Option String × Document)} (same : members.Perm others) :
    wording.Carries members others := by
  intro known found
  rw [Document.knownMembers_eq_some_iff] at found
  obtain ⟨readable, rfl, distinct⟩ := found
  have sameKnown := same.filterMap (Document.known? wording.names)
  have distinctOthers := (sameKnown.map Prod.fst).nodup_iff.1 distinct
  refine ⟨_, Document.knownMembers_eq_some_iff.2 ⟨?_, rfl, distinctOthers⟩, fun name => ?_⟩
  · exact fun member inside => readable member (same.mem_iff.2 inside)
  · have field : Fields.get? ⟨members.filterMap (Document.known? wording.names)⟩ name =
        Fields.get? ⟨others.filterMap (Document.known? wording.names)⟩ name := by
      refine Option.ext fun value => ?_
      rw [Fields.get?_eq_some_iff distinct, Fields.get?_eq_some_iff distinctOthers, sameKnown.mem_iff]
    rw [field]
    exact .same _

theorem knownMembers_cons {value : Document} :
    knownMembers wording.names ((some name, value) :: members) =
      (knownMembers wording.names members).bind fun known =>
        if name ∈ wording.names then
          if (Fields.get? ⟨known⟩ name).isSome then none else some ((name, value) :: known)
        else some known := by
  refine congrArg (Option.bind (knownMembers wording.names members)) (funext fun known => ?_)
  have found : (known.any fun member => member.1 == name) = (Fields.get? ⟨known⟩ name).isSome := by
    rw [Fields.get?, Option.isSome_map, Bool.eq_iff_iff, List.find?_isSome, List.any_eq_true]
  rw [found, List.contains_eq_mem]
  simp only [decide_eq_true_eq]
  rfl

theorem carries_add (foreign : name ∉ wording.names) {value : Document} :
    wording.Carries members ((some name, value) :: members) := by
  intro known found
  refine ⟨known, ?_, fun name => .same _⟩
  rw [knownMembers_cons, found, Option.bind_some, if_neg foreign]

theorem get?_of_absent {known : List (String × Document)}
    (found : knownMembers wording.names members = some known)
    (absent : ∀ member ∈ members, member.1 ≠ some name) : Fields.get? ⟨known⟩ name = none := by
  obtain ⟨-, rfl, distinct⟩ := Document.knownMembers_eq_some_iff.1 found
  refine Option.eq_none_iff_forall_ne_some.2 fun value inside => ?_
  rw [Fields.get?_eq_some_iff distinct, List.mem_filterMap] at inside
  obtain ⟨⟨_ | other, _⟩, member, isKnown⟩ := inside
  · cases isKnown
  · by_cases declared : other ∈ wording.names
    · simp only [Document.known?, Option.bind_some, if_pos declared, Option.some.injEq,
        Prod.mk.injEq] at isKnown
      exact absent _ member (congrArg some isKnown.1)
    · simp [Document.known?, declared] at isKnown

theorem carries_null {part : Wording} (isPart : (name, part) ∈ wording.parts)
    (absent : ∀ member ∈ members, member.1 ≠ some name) :
    wording.Carries members ((some name, .null) :: members) := by
  intro known found
  have missing := get?_of_absent found absent
  rw [knownMembers_cons, found, Option.bind_some]
  by_cases declared : name ∈ wording.names
  · rw [if_pos declared, missing]
    refine ⟨_, rfl, fun other => ?_⟩
    rw [Fields.get?_cons]
    split
    · rename_i same
      subst same
      rw [missing]
      exact .null isPart
    · exact .same _
  · rw [if_neg declared]
    exact ⟨_, rfl, fun other => .same _⟩

theorem front_cases {value : Document} {known : List (String × Document)}
    (found : knownMembers wording.names ((some name, value) :: members) = some known) :
    ∃ rest, knownMembers wording.names members = some rest ∧
      ((name ∈ wording.names ∧ Fields.get? ⟨rest⟩ name = none ∧ known = (name, value) :: rest) ∨
        (name ∉ wording.names ∧ known = rest)) := by
  rw [knownMembers_cons, Option.bind_eq_some_iff] at found
  obtain ⟨rest, others, found⟩ := found
  refine ⟨rest, others, ?_⟩
  split at found
  · rename_i declared
    split at found
    · cases found
    · rename_i missing
      cases found
      exact .inl ⟨declared, by simpa using missing, rfl⟩
  · rename_i foreign
    cases found
    exact .inr ⟨foreign, rfl⟩

theorem carries_leaveOut {value : Document} (isSilent : (name, value) ∈ wording.silent) :
    wording.Carries ((some name, value) :: members) members := by
  intro known found
  obtain ⟨rest, others, ⟨-, missing, rfl⟩ | ⟨-, rfl⟩⟩ := front_cases found
  · refine ⟨rest, others, fun other => ?_⟩
    rw [Fields.get?_cons]
    split
    · rename_i same
      subst same
      rw [missing]
      exact .leaveOut isSilent
    · exact .same _
  · exact ⟨_, others, fun other => .same _⟩

theorem carries_within {part : Wording} (isPart : (name, part) ∈ wording.parts)
    {before after : List (Option String × Document)} (inner : Reworded part before after) :
    wording.Carries ((some name, .table before) :: members) ((some name, .table after) :: members) := by
  intro known found
  obtain ⟨rest, others, ⟨declared, missing, rfl⟩ | ⟨foreign, rfl⟩⟩ := front_cases found
  · rw [knownMembers_cons, others, Option.bind_some, if_pos declared, missing]
    refine ⟨_, rfl, fun other => ?_⟩
    rw [Fields.get?_cons, Fields.get?_cons]
    split
    · rename_i same
      subst same
      exact .within isPart inner
    · exact .same _
  · rw [knownMembers_cons, others, Option.bind_some, if_neg foreign]
    exact ⟨_, rfl, fun other => .same _⟩

end Wording

/-! ## Readers -/

def Wording.Heeds {α : Type} (wording : Wording) (sense : Fields → Option α) : Prop :=
  ∀ before after : Fields, (∀ name, wording.Allows name (before.get? name) (after.get? name)) →
    ∀ value, sense before = some value → sense after = some value

section
variable {α : Type} {sense : Fields → Option α} {value : α}

theorem Wording.Heeds.carried {wording : Wording} {before after : List (Option String × Document)}
    (heeds : wording.Heeds sense) (carries : wording.Carries before after)
    (read : ((Document.table before).fields? Json.conventions wording.names).bind sense = some value) :
    ((Document.table after).fields? Json.conventions wording.names).bind sense = some value := by
  simp only [Document.fields?, Option.bind_map, Option.bind_eq_some_iff] at read ⊢
  obtain ⟨known, found, read⟩ := read
  obtain ⟨other, foundToo, allows⟩ := carries known found
  exact ⟨other, foundToo, heeds ⟨known⟩ ⟨other⟩ allows value read⟩

theorem Reworded.reads {wording : Wording} {before after : List (Option String × Document)}
    (reworded : Reworded wording before after) (heeds : wording.Heeds sense)
    (read : ((Document.table before).fields? Json.conventions wording.names).bind sense = some value) :
    ((Document.table after).fields? Json.conventions wording.names).bind sense = some value := by
  induction reworded with
  | reorder same => exact heeds.carried (Wording.carries_reorder same) read
  | add foreign => exact heeds.carried (Wording.carries_add foreign) read
  | null isPart absent => exact heeds.carried (Wording.carries_null isPart absent) read
  | leaveOut isSilent => exact heeds.carried (Wording.carries_leaveOut isSilent) read
  | within isPart inner => exact heeds.carried (Wording.carries_within isPart inner) read
  | trans _ _ first second => exact second heeds (first heeds read)

end

namespace Wording.Heeds
variable {α β : Type} {wording : Wording}

theorem pure (value : α) : wording.Heeds fun _ => some value :=
  fun _ _ _ _ same => same

theorem bind {first : Fields → Option α} {next : α → Fields → Option β} (heeds : wording.Heeds first)
    (later : ∀ value, wording.Heeds (next value)) :
    wording.Heeds fun fields => (first fields).bind fun value => next value fields := by
  intro before after allows value read
  obtain ⟨middle, one, other⟩ := Option.bind_eq_some_iff.1 read
  refine Option.bind_eq_some_iff.2 ⟨middle, heeds before after allows middle one, ?_⟩
  exact later middle before after allows value other

variable {name : String} {read : Document → Option α}

theorem field (sense : Option Document → Option α)
    (heeds : ∀ before after, wording.Allows name before after → ∀ value, sense before = some value →
      sense after = some value) :
    wording.Heeds fun fields => sense (fields.get? name) :=
  fun _ _ allows => heeds _ _ (allows name)

theorem required (scalar : ∀ part, (name, part) ∉ wording.parts)
    (spoken : ∀ value, (name, value) ∉ wording.silent) :
    wording.Heeds fun fields => fields.required name read := by
  refine field (fun field => field.bind read) fun before after allowed value found => ?_
  cases allowed with
  | same => exact found
  | null isPart => exact absurd isPart (scalar _)
  | leaveOut isSilent => exact absurd isSilent (spoken _)
  | within isPart => exact absurd isPart (scalar _)

theorem withDefault {fallback : α} (scalar : ∀ part, (name, part) ∉ wording.parts)
    (silent : ∀ value, (name, value) ∈ wording.silent → read value = some fallback) :
    wording.Heeds fun fields => fields.withDefault name fallback read := by
  simp only [Fields.withDefault_eq_elim]
  refine field (fun field => field.elim (some fallback) read) ?_
  intro before after allowed value found
  cases allowed with
  | same => exact found
  | null isPart => exact absurd isPart (scalar _)
  | leaveOut isSilent => exact (silent _ isSilent).symm.trans found
  | within isPart => exact absurd isPart (scalar _)

theorem optional (spoken : ∀ value, (name, value) ∉ wording.silent)
    (alike : ∀ part, (name, part) ∈ wording.parts → ∀ before after, Reworded part before after →
      ∀ value, read (.table before) = some value → read (.table after) = some value) :
    wording.Heeds fun fields => fields.optional name read := by
  simp only [Fields.optional, Fields.withDefault_eq_elim]
  refine field (fun field => field.elim (some none) (Document.nullable? read)) ?_
  intro before after allowed value found
  cases allowed with
  | same => exact found
  | null isPart => exact found
  | leaveOut isSilent => exact absurd isSilent (spoken _)
  | within isPart inner =>
      obtain ⟨part, readPart, rfl⟩ := Option.map_eq_some_iff.1 found
      exact Option.map_eq_some_iff.2 ⟨part, alike _ isPart _ _ inner _ readPart, rfl⟩

end Wording.Heeds

/-! ## The records of a message -/

section
variable {before after : List (Option String × Document)}

theorem Identity.ofDocument?_reworded (reworded : Reworded .identity before after)
    {identity : Identity} (read : ofDocument? (.table before) = some identity) :
    ofDocument? (.table after) = some identity := by
  refine reworded.reads ?_ read
  exact .bind (.required nofun nofun) fun _ => .bind (.required nofun nofun) fun _ => .pure _

theorem ClaimedAddress.ofDocument?_reworded (reworded : Reworded .claim before after)
    {claim : ClaimedAddress} (read : ofDocument? (.table before) = some claim) :
    ofDocument? (.table after) = some claim := by
  refine reworded.reads ?_ read
  refine .bind (.withDefault nofun ?_) fun _ => .bind (.withDefault nofun ?_) fun _ => .pure _
  · simp [Wording.claim]
  · simpa [Wording.claim] using Document.uint16?_nat 0

theorem Request.ofDocument?_reworded (reworded : Reworded .request before after)
    {request : Request} (read : ofDocument? (.table before) = some request) :
    ofDocument? (.table after) = some request := by
  refine reworded.reads ?_ read
  refine .bind (.withDefault ?_ ?_) fun _ => .bind (.optional ?_ ?_) fun _ =>
    .bind (.optional ?_ ?_) fun _ => .bind (.optional ?_ ?_) fun _ =>
    .bind (.optional ?_ ?_) fun _ => .pure _
  case refine_2 => simpa [Wording.request] using Document.uint32?_nat 0
  case refine_4 | refine_6 =>
    simpa [Wording.request] using fun _ _ inner _ => Identity.ofDocument?_reworded inner
  case refine_8 | refine_10 =>
    simpa [Wording.request] using fun _ _ inner _ => ClaimedAddress.ofDocument?_reworded inner
  all_goals simp [Wording.request]

theorem Verdict.ofDocument?_zero : ofDocument? (.int 0) = some .direct := rfl

theorem Response.ofDocument?_reworded (reworded : Reworded .response before after)
    {response : Response} (read : ofDocument? (.table before) = some response) :
    ofDocument? (.table after) = some response := by
  refine reworded.reads ?_ read
  refine .bind (.withDefault ?_ ?_) fun _ => .bind (.withDefault ?_ ?_) fun _ =>
    .bind (.optional ?_ ?_) fun _ => .bind (.optional ?_ ?_) fun _ =>
    .bind (.optional ?_ ?_) fun _ => .bind (.withDefault ?_ ?_) fun _ =>
    .bind (.withDefault ?_ ?_) fun _ => .bind (.withDefault ?_ ?_) fun _ => .pure _
  case refine_2 => simpa [Wording.response] using Document.uint32?_nat 0
  case refine_4 => simp [Wording.response, Verdict.ofDocument?_zero]
  case refine_6 | refine_8 =>
    simpa [Wording.response] using fun _ _ inner _ => Identity.ofDocument?_reworded inner
  case refine_10 =>
    simpa [Wording.response] using fun _ _ inner _ => ClaimedAddress.ofDocument?_reworded inner
  all_goals simp [Wording.response]

end

namespace Message

/-- That the document of a message is another one in other words. -/
inductive Rewords : Document → Document → Prop
  | request {before after} (reworded : Reworded .request before after) :
      Rewords (.table [(some "request", .table before)]) (.table [(some "request", .table after)])
  | response {before after} (reworded : Reworded .response before after) :
      Rewords (.table [(some "response", .table before)]) (.table [(some "response", .table after)])

theorem ofDocument?_rewords {before after : Document} (rewords : Rewords before after)
    {message : Message} (read : ofDocument? before = some message) :
    ofDocument? after = some message := by
  cases rewords with
  | request reworded =>
      obtain ⟨body, readBody, rfl⟩ := Option.map_eq_some_iff.1 read
      exact Option.map_eq_some_iff.2 ⟨body, Request.ofDocument?_reworded reworded readBody, rfl⟩
  | response reworded =>
      obtain ⟨body, readBody, rfl⟩ := Option.map_eq_some_iff.1 read
      exact Option.map_eq_some_iff.2 ⟨body, Response.ofDocument?_reworded reworded readBody, rfl⟩

end Message

/-! ## What is refused -/

/-- That a record has a name that is no text, or one that it declares twice, or that a record in it
has. -/
inductive Wording.Faulty : Wording → Document → Prop
  | unreadable {wording members value} (member : (none, value) ∈ members) :
      Faulty wording (.table members)
  | twice {wording members name} (declared : name ∈ wording.names)
      (several : 2 ≤ (members.map Prod.fst).count (some name)) : Faulty wording (.table members)
  | within {wording members name part document} (isPart : (name, part) ∈ wording.parts)
      (member : (some name, document) ∈ members) (inner : Faulty part document) :
      Faulty wording (.table members)

theorem Document.count_known? {names : List String} {name : String} (declared : name ∈ names)
    (members : List (Option String × Document)) :
    ((members.filterMap (known? names)).map Prod.fst).count name =
      (members.map Prod.fst).count (some name) := by
  induction members with
  | nil => rfl
  | cons member rest ih =>
      obtain ⟨_ | other, value⟩ := member
      · simpa [known?] using ih
      · by_cases isKnown : other ∈ names
        · simp [known?, isKnown, List.count_cons, ih]
        · have different : other ≠ name := by
            rintro rfl
            exact isKnown declared
          simp [known?, isKnown, ih, different]

theorem Document.eq_known_of_fields? {names : List String} {fields : Fields}
    {members : List (Option String × Document)}
    (found : (table members).fields? Json.conventions names = some fields) :
    (∀ member ∈ members, member.1.isSome) ∧ fields = ⟨members.filterMap (known? names)⟩ ∧
      ((members.filterMap (known? names)).map Prod.fst).Nodup := by
  obtain ⟨known, isKnown, rfl⟩ := Option.map_eq_some_iff.1 found
  obtain ⟨readable, rfl, distinct⟩ := knownMembers_eq_some_iff.1 isKnown
  exact ⟨readable, rfl, distinct⟩

namespace Wording.Faulty
variable {wording : Wording} {document : Document} {fields : Fields}

theorem exists_part (faulty : wording.Faulty document)
    (names : ∀ name ∈ wording.parts.map Prod.fst, name ∈ wording.names)
    (found : document.fields? Json.conventions wording.names = some fields) :
    ∃ name part inner, (name, part) ∈ wording.parts ∧ part.Faulty inner ∧
      fields.get? name = some inner := by
  cases faulty with
  | unreadable member =>
      obtain ⟨readable, -⟩ := Document.eq_known_of_fields? found
      cases readable _ member
  | @twice _ _ name declared several =>
      obtain ⟨-, rfl, distinct⟩ := Document.eq_known_of_fields? found
      have once := List.nodup_iff_count.1 distinct name
      rw [Document.count_known? declared] at once
      omega
  | @within _ _ name part inner isPart member faulty =>
      obtain ⟨-, rfl, distinct⟩ := Document.eq_known_of_fields? found
      refine ⟨name, part, inner, isPart, faulty, ?_⟩
      rw [Fields.get?_eq_some_iff distinct, List.mem_filterMap]
      exact ⟨_, member, if_pos (names name (List.mem_map.2 ⟨_, isPart, rfl⟩))⟩

theorem ne_null (faulty : wording.Faulty document) : document ≠ .null := by
  cases faulty <;> nofun

end Wording.Faulty

section
variable {document : Document}

theorem Fields.optional_faulty {α : Type} {read : Document → Option α} {part : Wording}
    (unread : ∀ {document}, part.Faulty document → read document = none) {fields : Fields} {name : String}
    (found : fields.get? name = some document) (faulty : part.Faulty document) :
    fields.optional name read = none := by
  have unread := unread faulty
  have present := faulty.ne_null
  rw [optional, withDefault_eq_elim, found]
  cases document <;> simp_all [Document.nullable?]

theorem Identity.ofDocument?_faulty (faulty : Wording.identity.Faulty document) :
    ofDocument? document = none := by
  refine Option.bind_eq_none_iff.2 fun fields found => ?_
  obtain ⟨_, _, _, isPart, -⟩ := faulty.exists_part (by decide) found
  cases isPart

theorem ClaimedAddress.ofDocument?_faulty (faulty : Wording.claim.Faulty document) :
    ofDocument? document = none := by
  refine Option.bind_eq_none_iff.2 fun fields found => ?_
  obtain ⟨_, _, _, isPart, -⟩ := faulty.exists_part (by decide) found
  cases isPart

theorem Request.ofDocument?_faulty (faulty : Wording.request.Faulty document) :
    ofDocument? document = none := by
  refine Option.eq_none_iff_forall_ne_some.2 fun request read => ?_
  obtain ⟨fields, found, read⟩ := Option.bind_eq_some_iff.1 read
  obtain ⟨number, -, read⟩ := Option.bind_eq_some_iff.1 read
  obtain ⟨sender, readSender, read⟩ := Option.bind_eq_some_iff.1 read
  obtain ⟨receiver, readReceiver, read⟩ := Option.bind_eq_some_iff.1 read
  obtain ⟨source, readSource, read⟩ := Option.bind_eq_some_iff.1 read
  obtain ⟨destination, readDestination, -⟩ := Option.bind_eq_some_iff.1 read
  obtain ⟨name, part, inner, isPart, faulty, present⟩ :=
    faulty.exists_part (by decide) found
  simp only [Wording.request, List.mem_cons, Prod.mk.injEq, List.not_mem_nil, or_false] at isPart
  rcases isPart with ⟨rfl, rfl⟩ | ⟨rfl, rfl⟩ | ⟨rfl, rfl⟩ | ⟨rfl, rfl⟩
  · simp [Fields.optional_faulty Identity.ofDocument?_faulty present faulty] at readSender
  · simp [Fields.optional_faulty Identity.ofDocument?_faulty present faulty] at readReceiver
  · simp [Fields.optional_faulty ClaimedAddress.ofDocument?_faulty present faulty] at readSource
  · simp [Fields.optional_faulty ClaimedAddress.ofDocument?_faulty present faulty] at readDestination

theorem Response.ofDocument?_faulty (faulty : Wording.response.Faulty document) :
    ofDocument? document = none := by
  refine Option.eq_none_iff_forall_ne_some.2 fun response read => ?_
  obtain ⟨fields, found, read⟩ := Option.bind_eq_some_iff.1 read
  obtain ⟨number, -, read⟩ := Option.bind_eq_some_iff.1 read
  obtain ⟨verdict, -, read⟩ := Option.bind_eq_some_iff.1 read
  obtain ⟨sender, readSender, read⟩ := Option.bind_eq_some_iff.1 read
  obtain ⟨receiver, readReceiver, read⟩ := Option.bind_eq_some_iff.1 read
  obtain ⟨observed, readObserved, -⟩ := Option.bind_eq_some_iff.1 read
  obtain ⟨name, part, inner, isPart, faulty, present⟩ :=
    faulty.exists_part (by decide) found
  simp only [Wording.response, List.mem_cons, Prod.mk.injEq, List.not_mem_nil, or_false] at isPart
  rcases isPart with ⟨rfl, rfl⟩ | ⟨rfl, rfl⟩ | ⟨rfl, rfl⟩
  · simp [Fields.optional_faulty Identity.ofDocument?_faulty present faulty] at readSender
  · simp [Fields.optional_faulty Identity.ofDocument?_faulty present faulty] at readReceiver
  · simp [Fields.optional_faulty ClaimedAddress.ofDocument?_faulty present faulty] at readObserved

end

namespace Message

/-- That a document has not the one member of a message, or that the record in it is faulty. -/
inductive Faulty : Document → Prop
  | extra {members} (several : members.length ≠ 1) : Faulty (.table members)
  | request {body} (faulty : Wording.request.Faulty body) : Faulty (.table [(some "request", body)])
  | response {body} (faulty : Wording.response.Faulty body) :
      Faulty (.table [(some "response", body)])

theorem ofDocument?_faulty {document : Document} (faulty : Faulty document) :
    ofDocument? document = none := by
  cases faulty with
  | extra several =>
      unfold ofDocument?
      split
      · rename_i same
        cases same
        exact absurd rfl several
      · rename_i same
        cases same
        exact absurd rfl several
      · rfl
  | request faulty => exact Option.map_eq_none_iff.2 (Request.ofDocument?_faulty faulty)
  | response faulty => exact Option.map_eq_none_iff.2 (Response.ofDocument?_faulty faulty)

end Message

namespace Datagram
open Json (Spells)

theorem decode_of_spells {document : Document} {text : List Char}
    (spelled : Spells (.element document) text) :
    decode (header ++ Utf8.encode text) =
      if maxSize < (header ++ Utf8.encode text).length then
        .error (.tooLarge (header ++ Utf8.encode text).length)
      else (Message.ofDocument? document).elim (.error .malformedBody) .ok := by
  rw [decode_header_append, decodeBody, Json.ofOctets?_of_spells spelled, Option.bind_some]
  cases Message.ofDocument? document <;> rfl

/-- The body of a datagram spells the document of its message, and every text of this document, also in
other words, is read as the message with the verdict of its code, which is the message itself unless
its verdict is an unrecognized code that has a verdict of its own. A text is refused if it has not just
the one member of a message, or if one of the records in it has a name that is no text, or twice a name
that it declares. -/
theorem decode_reworded :
    (∀ message : Message,
      (∃ text, body message = Utf8.encode text ∧ Spells (.element message.document) text) ∧
      (message.asRead = message ↔ message.isLasting) ∧
      ∀ document, Message.Rewords message.document document →
        ∀ text, Spells (.element document) text →
          let datagram := header ++ Utf8.encode text
          decode datagram =
            if 2048 < datagram.length then .error (.tooLarge datagram.length)
            else .ok message.asRead) ∧
    ∀ document, Message.Faulty document → ∀ text, Spells (.element document) text →
      let datagram := header ++ Utf8.encode text
      decode datagram =
        if 2048 < datagram.length then .error (.tooLarge datagram.length)
        else .error .malformedBody := by
  refine ⟨fun message => ⟨?_, Message.asRead_eq_self_iff, ?_⟩, ?_⟩
  · exact ⟨_, rfl, (Json.spells_render _ message.isIntegral_document).bare⟩
  · intro document rewords text spelled datagram
    have alone := Message.ofDocument?_document message.isLasting_asRead
    rw [Message.document_asRead] at alone
    have read := decode_of_spells spelled
    rwa [Message.ofDocument?_rewords rewords alone] at read
  · intro document faulty text spelled datagram
    have read := decode_of_spells spelled
    rwa [Message.ofDocument?_faulty faulty] at read

theorem decode_reworded_check :
    let members : List (Option String × Document) :=
      [(some "sender", .null), (some "since", .list [.int 2, .table []])]
    let document := Document.table [(some "request", .table members)]
    let doubled := Document.table [(some "request", .table
      ((some "request_number", .int 0) :: (some "request_number", .int 0) :: members))]
    let text := ' ' :: (Json.render document ++ ['\n'])
    Message.Rewords (Message.request {}).document document ∧ Spells (.element document) text ∧
      decode (header ++ Utf8.encode text) = .ok (.request {}) ∧
      Message.Faulty doubled ∧
      decode (header ++ Utf8.encode (Json.render doubled)) = .error .malformedBody := by
  intro members document doubled text
  have isPart : ("sender", Wording.identity) ∈ Wording.request.parts := by simp [Wording.request]
  have number : Reworded .request [(some "request_number", .nat 0)] [] :=
    .leaveOut (by simp [Wording.request])
  have sender : Reworded .request [] [(some "sender", .null)] := .null isPart nofun
  have since : Reworded .request [(some "sender", .null)]
      [(some "since", .list [.int 2, .table []]), (some "sender", .null)] := .add (by decide)
  have rewords : Message.Rewords (Message.request {}).document document :=
    .request (((number.trans sender).trans since).trans (.reorder (.swap _ _ _)))
  have front : Json.Gap [' '] := by decide
  have spelled : Spells (.element document) text :=
    .element front (Json.spells_render document rfl) (by decide)
  have declared : "request_number" ∈ Wording.request.names := by decide
  have faulty : Message.Faulty doubled := .request (.twice declared (by decide))
  obtain ⟨messages, refused⟩ := decode_reworded
  refine ⟨rewords, spelled, ?_, faulty, ?_⟩
  · rw [(messages (.request {})).2.2 document rewords text spelled, if_neg (by decide)]
    rfl
  · rw [refused doubled faulty _ (Json.spells_render doubled rfl).bare, if_neg (by decide)]

/-- A name that is half of a surrogate pair is no name of a field, and yet a record with it is
refused. -/
theorem surrogate_name_refused :
    let plain := Document.table [(some "request", .table [(some "request_number", .int 0)])]
    let widened := Document.table
      [(some "request", .table [(some "request_number", .int 0), (none, .int 1)])]
    (Message.request {}).document = plain ∧ Spells (.element widened) (Json.render widened) ∧
      (header ++ Utf8.encode (Json.render widened)).length ≤ 2048 ∧
      decode (header ++ Utf8.encode (Json.render widened)) = .error .malformedBody := by
  intro plain widened
  refine ⟨rfl, (Json.spells_render widened rfl).bare, by decide, ?_⟩
  rfl

end Datagram
end NatReach
