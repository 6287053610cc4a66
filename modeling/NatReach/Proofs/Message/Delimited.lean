import NatReach.Proofs.Json.Ends
import NatReach.Proofs.Message.Faithful

/-!
# Datagrams end where they end

Nothing in a datagram says how long it is, and yet no part of one is read as a message, and what stands
behind one is not passed over unless it is blank. So a buffer never gives one of several datagrams
that came into it: its header has an octet that stands nowhere in a message.
-/
namespace NatReach

namespace Datagram

theorem exists_members (message : Message) : ∃ members, message.document = .table members := by
  cases message <;> exact ⟨_, rfl⟩

theorem decodeBody_of_unread {octets : List UInt8} (unread : Json.ofOctets? octets = none) :
    decodeBody octets = .error .malformedBody := by
  rw [decodeBody, unread]
  rfl

/-! ## Cut or followed -/

section
variable {message : Message} {datagram : List UInt8}

theorem decodeBody_prefix {front back : List UInt8} (parts : body message = front ++ back)
    (nonempty : back ≠ []) : decodeBody front = .error .malformedBody := by
  obtain ⟨members, table⟩ := exists_members message
  have integral := message.isIntegral_document
  rw [body, table] at parts
  rw [table] at integral
  exact decodeBody_of_unread (Json.ofOctets?_prefix integral parts nonempty)

theorem decodeBody_append (message : Message) (more : List UInt8) :
    decodeBody (body message ++ more) =
      if more.all Json.blanks.contains then .ok message.asRead else .error .malformedBody := by
  obtain ⟨members, table⟩ := exists_members message
  have integral := message.isIntegral_document
  rw [table] at integral
  have read := Json.ofOctets?_append integral more
  rw [← table] at read
  split
  · rename_i allBlank
    have alone := decodeBody_body_asRead message
    have same := Json.ofOctets?_append integral []
    rw [if_pos allBlank] at read
    rw [if_pos (by simp), List.append_nil, ← table] at same
    rw [decodeBody, body, same] at alone
    rw [decodeBody, body, read]
    exact alone
  · rename_i notBlank
    rw [if_neg notBlank] at read
    exact decodeBody_of_unread read

theorem decode_of_short {octets : List UInt8} (short : octets.length < 5) :
    decode octets = .error (.truncated octets.length) := by
  have fits : ¬ maxSize < octets.length := by
    have : maxSize = 2048 := rfl
    omega
  unfold decode
  rw [if_neg fits]
  split
  · simp only [List.length_cons] at short
    omega
  · rfl

theorem decode_prefix (encoded : encode message = .ok datagram) {front back : List UInt8}
    (parts : datagram = front ++ back) (nonempty : back ≠ []) :
    decode front =
      .error (if front.length < 5 then .truncated front.length else .malformedBody) := by
  obtain ⟨rfl, fits⟩ := encode_eq_ok_iff.1 encoded
  split
  · rename_i short
    exact decode_of_short short
  · rename_i long
    have headerLength : header.length = 5 := rfl
    -- the cut is behind the header
    rcases List.append_eq_append_iff.1 parts with ⟨read, rfl, rest⟩ | ⟨rest, whole, -⟩
    · have shorter : (header ++ read).length ≤ maxSize := by
        rw [rest] at fits
        simp only [List.length_append] at fits ⊢
        omega
      rw [decode_header_append, if_neg (Nat.not_lt.2 shorter), decodeBody_prefix rest nonempty]
    · have lengths := congrArg List.length whole
      rw [List.length_append] at lengths
      have nothing : rest = [] := List.eq_nil_of_length_eq_zero (by omega)
      subst nothing
      rw [List.append_nil] at whole
      subst whole
      rfl

theorem decode_append (encoded : encode message = .ok datagram) (more : List UInt8) :
    decode (datagram ++ more) =
      if 2048 < (datagram ++ more).length then .error (.tooLarge (datagram ++ more).length)
      else if more.all Json.blanks.contains then .ok message.asRead
      else .error .malformedBody := by
  obtain ⟨rfl, -⟩ := encode_eq_ok_iff.1 encoded
  rw [List.append_assoc, decode_header_append, decodeBody_append]
  rfl

end

/-! ## Buffers -/

/-- That octets hold the datagrams of some messages in their order, and perhaps other octets before,
between and behind them. -/
inductive Holds : List UInt8 → List Message → Prop
  | nothing (buffer : List UInt8) : Holds buffer []
  | fill {buffer messages} (holds : Holds buffer messages) (octets : List UInt8) :
      Holds (buffer ++ octets) messages
  | encode {buffer messages message datagram} (holds : Holds buffer messages)
      (encoded : encode message = .ok datagram) : Holds (buffer ++ datagram) (messages ++ [message])

namespace Holds
variable {buffer : List UInt8} {messages : List Message}

theorem length (holds : Holds buffer messages) (nonempty : messages ≠ []) : 5 ≤ buffer.length := by
  induction holds with
  | nothing => contradiction
  | fill _ octets ih =>
      rw [List.length_append]
      exact Nat.le_add_right_of_le (ih nonempty)
  | encode _ encoded _ =>
      obtain ⟨rfl, -⟩ := encode_eq_ok_iff.1 encoded
      rw [List.length_append, length_header_append]
      omega

theorem exists_version (holds : Holds buffer messages) (several : 2 ≤ messages.length) :
    ∃ front back, buffer = front ++ version :: back ∧ 5 ≤ front.length := by
  induction holds with
  | nothing => cases several
  | fill _ octets ih =>
      obtain ⟨front, back, rfl, long⟩ := ih several
      exact ⟨front, back ++ octets, by rw [List.append_assoc, List.cons_append], long⟩
  | @encode buffer messages message datagram holds encoded ih =>
      obtain ⟨rfl, -⟩ := encode_eq_ok_iff.1 encoded
      have first : messages ≠ [] := by
        rintro rfl
        simp at several
      have long := holds.length first
      refine ⟨buffer ++ magic, body message, ?_, ?_⟩
      · simp [header]
      · rw [List.length_append]
        omega

/-- A buffer with more than one datagram gives no message, since the version of the protocol is a
control, which stands nowhere in a message. -/
theorem refused (holds : Holds buffer messages) (several : 2 ≤ messages.length) :
    ∃ reason, decode buffer = .error reason := by
  obtain ⟨front, back, rfl, long⟩ := holds.exists_version several
  cases read : decode (front ++ version :: back) with
  | error reason => exact ⟨reason, rfl⟩
  | ok message =>
      obtain ⟨octets, split, -, readBody⟩ := decode_eq_ok_iff.1 read
      have past : header.length ≤ front.length := long
      have rest := congrArg (List.drop header.length) split
      rw [List.drop_left, List.drop_append_of_le_length past] at rest
      have inside : version ∈ octets := by
        rw [← rest]
        exact List.mem_append_right _ List.mem_cons_self
      obtain ⟨document, found, -⟩ := decodeBody_eq_ok_iff.1 readBody
      rw [Json.ofOctets?_of_control inside (by decide) (by decide)] at found
      cases found

end Holds

def await (messages : List Message) : BufferStep → List Message
  | .fill _ => messages
  | .encode message =>
    match encode message with
    | .ok _ => messages ++ [message]
    | .error _ => messages
  | .decode => []

/-- The messages whose datagrams are in a buffer after some steps. -/
def waiting (steps : List BufferStep) : List Message := steps.foldl await []

theorem act_encode_of_ok (buffer : List UInt8) {message : Message} {datagram : List UInt8}
    (encoded : encode message = .ok datagram) :
    act buffer (.encode message) = (.ok none, buffer ++ datagram) := by
  simp [act, encodeInto, encoded, Except.map]

theorem act_encode_of_error (buffer : List UInt8) {message : Message} {reason : DatagramError}
    (refused : encode message = .error reason) :
    act buffer (.encode message) = (.error reason, buffer) := by
  simp [act, encodeInto, refused, Except.map]

theorem act_decode {buffer : List UInt8} (nonempty : buffer ≠ []) :
    act buffer .decode = ((decode buffer).map some, []) := by
  simp [act, decodeFrom, nonempty]

theorem Holds.act {buffer : List UInt8} {messages : List Message} (holds : Holds buffer messages)
    (step : BufferStep) : Holds (Datagram.act buffer step).2 (await messages step) := by
  cases step with
  | fill octets => exact holds.fill octets
  | encode message =>
      cases encoded : Datagram.encode message with
      | ok datagram =>
          rw [act_encode_of_ok buffer encoded]
          simpa only [await, encoded] using holds.encode encoded
      | error reason =>
          rw [act_encode_of_error buffer encoded]
          simpa only [await, encoded] using holds
  | decode => exact .nothing _

theorem holds_waiting (steps : List BufferStep) (buffer : List UInt8) :
    Holds (bufferAfter steps buffer) (waiting steps) := by
  have later (messages : List Message) (buffer : List UInt8) (holds : Holds buffer messages) :
      Holds (bufferAfter steps buffer) (steps.foldl await messages) := by
    induction steps generalizing messages buffer with
    | nil => exact holds
    | cons step rest ih => exact ih _ _ (holds.act step)
  exact later [] buffer (.nothing buffer)

/-- A datagram that is cut anywhere is refused, as truncated if the header is cut and else for its
message. Nothing may stand behind a datagram but blanks, with which it is read as before, and if that
makes it too long it is refused for its length. So in every course of a buffer, a message that is
refused leaves it as it is and any other one adds its datagram; reading empties it, whatever is in it;
and if more than one datagram came into it since, none of them is read. -/
theorem datagrams_end_themselves :
    (∀ message datagram, encode message = .ok datagram →
      (∀ front back, datagram = front ++ back → back ≠ [] →
        decode front =
          .error (if front.length < 5 then .truncated front.length else .malformedBody)) ∧
      (∀ more, more ≠ [] →
        decode (datagram ++ more) =
          if 2048 < (datagram ++ more).length then .error (.tooLarge (datagram ++ more).length)
          else if more.all Json.blanks.contains then .ok message.asRead
          else .error .malformedBody) ∧
      (message.asRead = message ↔ message.isLasting)) ∧
    ∀ steps start, let buffer := bufferAfter steps start
      (∀ message reason, encode message = .error reason →
        act buffer (.encode message) = (.error reason, buffer)) ∧
      (∀ message datagram, encode message = .ok datagram →
        act buffer (.encode message) = (.ok none, buffer ++ datagram)) ∧
      (buffer ≠ [] → act buffer .decode = ((decode buffer).map some, [])) ∧
      (2 ≤ (waiting steps).length → ∃ reason, act buffer .decode = (.error reason, [])) := by
  constructor
  · intro message datagram encoded
    refine ⟨?_, fun more _ => decode_append encoded more, Message.asRead_eq_self_iff⟩
    exact fun front back parts nonempty => decode_prefix encoded parts nonempty
  · intro steps start buffer
    refine ⟨fun message reason refused => act_encode_of_error buffer refused,
      fun message datagram encoded => act_encode_of_ok buffer encoded, act_decode, ?_⟩
    intro several
    have holds := holds_waiting steps start
    obtain ⟨reason, refused⟩ := holds.refused several
    have nonempty : buffer ≠ [] := by
      intro empty
      have long : 5 ≤ buffer.length := holds.length (List.ne_nil_of_length_pos (by omega))
      rw [empty] at long
      cases long
    have refused : decode buffer = .error reason := refused
    exact ⟨reason, by rw [act_decode nonempty, refused]; rfl⟩

theorem datagrams_end_themselves_twoChecks :
    let message := Message.request {}
    ∃ front, encode message = .ok (front ++ [125]) ∧ 5 ≤ front.length ∧
      decode front = .error .malformedBody ∧
      decode (front ++ [125] ++ [32]) = .ok message ∧
      decode (front ++ [125] ++ [125]) = .error .malformedBody ∧
      ∃ reason, act (bufferAfter [.encode message, .encode message] []) .decode =
        (.error reason, []) := by
  intro message
  have size : (header ++ body message).length = 37 := by decide
  have cut : header ++ body message = (header ++ body message).take 36 ++ [125] := by decide
  have encoded : encode message = .ok ((header ++ body message).take 36 ++ [125]) := by
    rw [← cut]
    exact encode_eq_ok_iff.2 ⟨rfl, by rw [size]; decide⟩
  have short : ((header ++ body message).take 36).length = 36 := by
    rw [List.length_take, size]
    rfl
  generalize (header ++ body message).take 36 = front at encoded short
  obtain ⟨ends, buffers⟩ := datagrams_end_themselves
  obtain ⟨cutIsRefused, followed, lasts⟩ := ends message _ encoded
  have asRead : message.asRead = message := lasts.2 trivial
  have within (octet : UInt8) : ¬ 2048 < (front ++ [125] ++ [octet]).length := by simp [short]
  refine ⟨front, encoded, by omega, ?_, ?_, ?_, (buffers _ []).2.2.2 ?_⟩
  · rw [cutIsRefused front [125] rfl (by simp), short]
    rfl
  · rw [followed [32] (by simp), if_neg (within 32), if_pos (by decide), asRead]
  · rw [followed [125] (by simp), if_neg (within 125), if_neg (by decide)]
  · simp [waiting, await, encoded]

/-- A success that is written as an unrecognized code is read as the success, with and without a blank
behind it. -/
theorem followed_not_lasting :
    let message := Message.response { verdict := .unrecognized 0 }
    ∃ datagram, encode message = .ok datagram ∧ (datagram ++ [32]).length ≤ 2048 ∧
      [32].all Json.blanks.contains ∧ decode (datagram ++ [32]) = .ok (.response {}) ∧
      decode (datagram ++ [32]) ≠ .ok message := by
  intro message
  have size : (header ++ body message).length = 137 := by decide +kernel
  have encoded : encode message = .ok (header ++ body message) :=
    encode_eq_ok_iff.2 ⟨rfl, by rw [size]; decide⟩
  have fits : (header ++ body message ++ [32]).length ≤ 2048 := by
    rw [List.length_append, size]
    decide
  have read : decode (header ++ body message ++ [32]) = .ok (.response {}) := by
    rw [decode_append encoded, if_neg (Nat.not_lt.2 fits), if_pos (by decide)]
    rfl
  refine ⟨_, encoded, fits, by decide, read, ?_⟩
  rw [read]
  simp [message]

end Datagram
end NatReach
