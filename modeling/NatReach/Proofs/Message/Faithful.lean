import NatReach.Proofs.Message.RoundTrip

namespace NatReach

namespace Verdict

def asRead (verdict : Verdict) : Verdict := ofCode verdict.code

theorem isLasting_ofCode (code : Int32) : (ofCode code).isLasting := by
  intro kept same
  unfold ofCode at same
  split at same
  · cases same
  split at same
  · cases same
  split at same
  · cases same
  split at same
  · cases same
  split at same
  · cases same
  cases same
  simp_all

theorem asRead_eq_self_iff {verdict : Verdict} : verdict.asRead = verdict ↔ verdict.isLasting :=
  ⟨fun same => same ▸ isLasting_ofCode verdict.code, ofCode_code⟩

end Verdict

namespace Message

/-- The message that the document of a message is read as. -/
def asRead : Message → Message
  | request body => request body
  | response body => response { body with verdict := body.verdict.asRead }

theorem document_asRead (message : Message) : message.asRead.document = message.document := by
  cases message with
  | request body => rfl
  | response body =>
      simp only [asRead, document, Response.document, Verdict.document, Verdict.asRead,
        Verdict.code_ofCode]

theorem isLasting_asRead (message : Message) : message.asRead.isLasting := by
  cases message with
  | request body => trivial
  | response body => exact Verdict.isLasting_ofCode _

theorem asRead_eq_self_iff {message : Message} : message.asRead = message ↔ message.isLasting := by
  cases message with
  | request body => exact ⟨fun _ => trivial, fun _ => rfl⟩
  | response body =>
      simp only [asRead, isLasting, ← Verdict.asRead_eq_self_iff]
      constructor
      · intro same
        exact congrArg Response.verdict (Message.response.inj same)
      · intro same
        rw [same]

end Message

/-! ## The code of a response -/

theorem Fields.withDefault_verdict (fields : Fields) (name : String) :
    fields.withDefault name .direct Verdict.ofDocument? =
      (fields.withDefault name 0 Document.int32?).map Verdict.ofCode := by
  unfold withDefault
  cases fields.get? name <;> rfl

/-- The code that the record of a response says, or leaves out. -/
def Response.writtenCode? (record : Document) : Option Int32 :=
  (record.fields? Json.conventions members).bind fun fields =>
    fields.withDefault "response" 0 Document.int32?

theorem Response.verdict_of_ofDocument? {record : Document} {response : Response}
    (read : ofDocument? record = some response) :
    ∃ code, writtenCode? record = some code ∧ response.verdict = Verdict.ofCode code := by
  unfold ofDocument? at read
  obtain ⟨fields, found, read⟩ := Option.bind_eq_some_iff.1 read
  obtain ⟨number, -, read⟩ := Option.bind_eq_some_iff.1 read
  obtain ⟨verdict, verdictRead, read⟩ := Option.bind_eq_some_iff.1 read
  obtain ⟨sender, -, read⟩ := Option.bind_eq_some_iff.1 read
  obtain ⟨receiver, -, read⟩ := Option.bind_eq_some_iff.1 read
  obtain ⟨observed, -, read⟩ := Option.bind_eq_some_iff.1 read
  obtain ⟨sourceIp, -, read⟩ := Option.bind_eq_some_iff.1 read
  obtain ⟨sourcePort, -, read⟩ := Option.bind_eq_some_iff.1 read
  obtain ⟨destinationIp, -, read⟩ := Option.bind_eq_some_iff.1 read
  cases read
  rw [Fields.withDefault_verdict, Option.map_eq_some_iff] at verdictRead
  obtain ⟨code, written, rfl⟩ := verdictRead
  exact ⟨code, by rw [writtenCode?, found, Option.bind_some, written], rfl⟩

theorem Message.response_of_ofDocument? {document : Document} {response : Response}
    (read : ofDocument? document = some (.response response)) :
    ∃ record, document = .table [(some "response", record)] ∧
      Response.ofDocument? record = some response := by
  unfold ofDocument? at read
  split at read
  · obtain ⟨body, -, same⟩ := Option.map_eq_some_iff.1 read
    cases same
  · obtain ⟨body, found, same⟩ := Option.map_eq_some_iff.1 read
    cases same
    exact ⟨_, rfl, found⟩
  · cases read

theorem Message.isLasting_of_ofDocument? {document : Document} {message : Message}
    (read : ofDocument? document = some message) : message.isLasting := by
  cases message with
  | request body => trivial
  | response body =>
      obtain ⟨record, -, readRecord⟩ := response_of_ofDocument? read
      obtain ⟨code, -, verdict⟩ := Response.verdict_of_ofDocument? readRecord
      have lasting := Verdict.isLasting_ofCode code
      rwa [← verdict] at lasting

/-! ## Datagrams -/

namespace Datagram

theorem length_header_append (octets : List UInt8) :
    (header ++ octets).length = 5 + octets.length := by
  rw [List.length_append]
  rfl

theorem decode_header_append (octets : List UInt8) :
    decode (header ++ octets) =
      if maxSize < (header ++ octets).length then .error (.tooLarge (header ++ octets).length)
      else decodeBody octets := by
  have front : header ++ octets = 0x4E :: 0x41 :: 0x54 :: 0x50 :: version :: octets := rfl
  unfold decode
  split
  · rfl
  · rw [front]
    simp [magic]

theorem decodeBody_eq_ok_iff {octets : List UInt8} {message : Message} :
    decodeBody octets = .ok message ↔
      ∃ document, Json.ofOctets? octets = some document ∧
        Message.ofDocument? document = some message := by
  unfold decodeBody
  rw [← Option.bind_eq_some_iff]
  cases (Json.ofOctets? octets).bind Message.ofDocument? <;> simp

theorem decode_eq_ok_iff {datagram : List UInt8} {message : Message} :
    decode datagram = .ok message ↔
      ∃ octets, datagram = header ++ octets ∧ datagram.length ≤ maxSize ∧
        decodeBody octets = .ok message := by
  constructor
  · intro read
    unfold decode at read
    split at read
    · cases read
    · rename_i fits
      split at read
      · rename_i a b c d peerVersion octets
        split at read
        · cases read
        · rename_i ours
          split at read
          · cases read
          · rename_i current
            rw [Decidable.not_not] at ours current
            refine ⟨octets, ?_, Nat.not_lt.1 fits, read⟩
            rw [header, ← ours, ← current]
            rfl
      · cases read
  · rintro ⟨octets, rfl, fits, read⟩
    rw [decode_header_append, if_neg (Nat.not_lt.2 fits), read]

theorem body_asRead (message : Message) : body message.asRead = body message := by
  rw [body, body, Message.document_asRead]

theorem decodeBody_body_asRead (message : Message) : decodeBody (body message) = .ok message.asRead := by
  rw [← body_asRead]
  exact decodeBody_body message.isLasting_asRead

def writtenCode? (datagram : List UInt8) : Option Int32 :=
  match Json.ofOctets? (datagram.drop header.length) with
  | some (.table [(some "response", record)]) => Response.writtenCode? record
  | _ => none

theorem isLasting_of_decode {datagram : List UInt8} {message : Message}
    (read : decode datagram = .ok message) : message.isLasting := by
  obtain ⟨octets, -, -, readBody⟩ := decode_eq_ok_iff.1 read
  obtain ⟨document, -, readDocument⟩ := decodeBody_eq_ok_iff.1 readBody
  exact Message.isLasting_of_ofDocument? readDocument

theorem writtenCode?_of_decode {datagram : List UInt8} {response : Response}
    (read : decode datagram = .ok (.response response)) :
    writtenCode? datagram = some response.verdict.code := by
  obtain ⟨octets, rfl, -, readBody⟩ := decode_eq_ok_iff.1 read
  obtain ⟨document, found, readDocument⟩ := decodeBody_eq_ok_iff.1 readBody
  obtain ⟨record, rfl, readRecord⟩ := Message.response_of_ofDocument? readDocument
  obtain ⟨code, written, verdict⟩ := Response.verdict_of_ofDocument? readRecord
  rw [writtenCode?, List.drop_left, found, verdict, Verdict.code_ofCode]
  exact written

theorem encode_cases (message : Message) :
    (5 + (body message).length ≤ 2048 ∧ encode message = .ok (header ++ body message)) ∨
      (2048 < 5 + (body message).length ∧
        encode message = .error (.tooLarge (5 + (body message).length))) := by
  have size := length_header_append (body message)
  unfold encode
  dsimp only
  rw [size]
  by_cases fits : 5 + (body message).length ≤ 2048
  · exact .inl ⟨fits, if_pos fits⟩
  · exact .inr ⟨Nat.lt_of_not_le fits, if_neg fits⟩

/-- A message has a datagram exactly if header and body are not too long for one, and what lasts of it
is read back from there. A message that was read lasts, its verdict has the code that was written, and
unless its own datagram would be too long, now that nothing is left out, it is read back from it. -/
theorem read_back_both_ways :
    (∀ message,
      ((∃ datagram, encode message = .ok datagram) ↔ 5 + (body message).length ≤ 2048) ∧
      (message.isLasting → ∀ datagram, encode message = .ok datagram →
        decode datagram = .ok message)) ∧
    ∀ datagram message, decode datagram = .ok message →
      message.isLasting ∧
      (∀ response, message = .response response →
        writtenCode? datagram = some response.verdict.code) ∧
      (encode message = .error (.tooLarge (5 + (body message).length)) ∨
        ∃ again, encode message = .ok again ∧ decode again = .ok message) := by
  constructor
  · intro message
    refine ⟨?_, fun lasting datagram encoded => decode_encode lasting encoded⟩
    rcases encode_cases message with ⟨fits, encoded⟩ | ⟨long, refused⟩
    · simp [fits, encoded]
    · simp [Nat.not_le.2 long, refused]
  · intro datagram message read
    have lasting := isLasting_of_decode read
    refine ⟨lasting, ?_, ?_⟩
    · rintro response rfl
      exact writtenCode?_of_decode read
    · rcases encode_cases message with ⟨-, encoded⟩ | ⟨-, refused⟩
      · exact .inr ⟨_, encoded, decode_encode lasting encoded⟩
      · exact .inl refused

def unknownCode : List UInt8 :=
  header ++ Utf8.encode "\x7b\"response\":\x7b\"response\":42\x7d\x7d".toList

theorem read_back_both_ways_unknownCode :
    let message := Message.response { verdict := .unrecognized 42 }
    decode unknownCode = .ok message ∧ message.isLasting ∧ writtenCode? unknownCode = some 42 ∧
      5 + (body message).length ≤ 2048 ∧
      ∃ again, encode message = .ok again ∧ again ≠ unknownCode ∧ decode again = .ok message := by
  intro message
  have read : decode unknownCode = .ok message := rfl
  have size : (body message).length = 133 := by decide +kernel
  have longer : unknownCode.length = 33 := by decide +kernel
  obtain ⟨whole, readBack⟩ := read_back_both_ways
  obtain ⟨lasting, written, -⟩ := readBack unknownCode message read
  obtain ⟨fits, readAgain⟩ := whole message
  obtain ⟨again, encoded⟩ := fits.2 (by omega)
  refine ⟨read, lasting, written _ rfl, by omega, again, encoded, ?_, readAgain lasting again encoded⟩
  rintro rfl
  have same := (encode_eq_ok_iff.1 encoded).1
  have lengths := congrArg List.length same
  rw [length_header_append] at lengths
  omega

end Datagram
end NatReach
