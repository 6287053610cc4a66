import NatReach.Engine.Basic
import NatReach.Proofs.Message.RoundTrip

namespace NatReach
namespace Endpoint
variable {home : Endpoint} {request : Request} {source : SocketAddress} {usual : Family}

theorem answer_acknowledges :
    (home.answer request source usual).number = request.number ∧
      (home.answer request source usual).sender = some home.identity := by
  unfold answer
  split
  · split
    · exact ⟨rfl, rfl⟩
    · split <;> exact ⟨rfl, rfl⟩
  · exact ⟨rfl, rfl⟩

theorem receiver_of_isSuccess (success : (home.answer request source usual).verdict.isSuccess = true) :
    request.receiver = some home.identity := by
  unfold answer at success
  split at success
  · rename_i receiver origin target sender receives _ _ _
    split at success
    · cases success
    · rename_i cluster
      split at success
      · cases success
      · rename_i cable
        rw [ne_eq, Decidable.not_not] at cluster cable
        rw [receives, identity, ← cluster, ← cable]
  · cases success

theorem isLasting_answer : (home.answer request source usual).verdict.isLasting := by
  intro code unrecognized
  unfold answer at unrecognized
  split at unrecognized
  · split at unrecognized
    · cases unrecognized
    · split at unrecognized
      · cases unrecognized
      · rw [compare] at unrecognized
        dsimp only at unrecognized
        split at unrecognized <;> cases unrecognized
  · cases unrecognized

end Endpoint

namespace Engine

theorem usable_eq_ok_iff {response : Response} {name : String} {nat : Bool} :
    usable response = .ok (name, nat) ↔
      ∃ sender, response.sender = some sender ∧ sender.endpoint = name ∧
        response.receiver.isSome ∧ response.observed.isSome ∧
        response.verdict = if nat then .altered else .direct := by
  unfold usable
  cases response.sender with
  | none => simp [throw, throwThe, MonadExceptOf.throw]
  | some sender =>
      cases response.receiver with
      | none => simp [throw, throwThe, MonadExceptOf.throw, bind, Except.bind]
      | some receiver =>
          cases response.observed with
          | none => simp [throw, throwThe, MonadExceptOf.throw, bind, Except.bind]
          | some observed =>
              cases nat <;> cases verdict : response.verdict <;>
                simp [Verdict.isSuccess, throw, throwThe, MonadExceptOf.throw, pure, Except.pure]

end Engine
end NatReach
