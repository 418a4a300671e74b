/-
  Core/ClientResults.lean --- what it means at the server that a method of
  `FarBusClient` returned what it did.

  A method sends its command, waits for the reply that the pump hands it, and makes a
  result of that.  The reply is the one the session said to this very command, and what
  the session says is so: thus an `Ok` tells of something the server did, and an error
  why it did not.
-/
import FarBus.Core.ControlReplies
import FarBus.Core.ReplyMeaning

set_option autoImplicit false

namespace FarBus.Core

open FarBus.Foundation
open FarBus.Protocol

/-! ## The ends of the methods -/

section

variable {platform : Platform} {start w w' : World} {history : ServerHistory} {s : Nat}

end

/-! ## A call and the server -/

/-- A client that has just been connected to `server`. -/
def LinkedWorld.connectedTo (server : World) : LinkedWorld :=
  { server := { server with sessions := server.sessions ++ [{}] }, session := server.sessions.length }

/-- The whole history of a server with `past` before the client was connected. -/
def wholeHistory (server : World) (past : ServerHistory) (history : LinkedHistory) : ServerHistory :=
  serverHistory history ++ ⟨server, .accept, (LinkedWorld.connectedTo server).server⟩ :: past

/-- Before the call was answered, `P` was so of the session at the other end of the link,
in what was then the history of the server. -/
def BeforeAnswer (server : World) (past : ServerHistory) (history : LinkedHistory) (call : Nat)
    (P : Nat → ServerHistory → Prop) : Prop :=
  ∃ later t earlier since before, history = later ++ t :: earlier ∧
    call ∈ (poppedReplies t).map Prod.fst ∧
    wholeHistory server past earlier = since ++ before ∧ P t.pre.session before

section

variable {platform : Platform} {start server : World} {past : ServerHistory} {w w' : LinkedWorld}
  {history : LinkedHistory} {call : Nat} {req : ControlRequest} {msg : Message}
  {P Q : Nat → ServerHistory → Prop}

theorem BeforeAnswer.imp (h : BeforeAnswer server past history call P)
    (hPQ : ∀ s before, P s before → Q s before) : BeforeAnswer server past history call Q := by
  obtain ⟨later, t, earlier, since, before, hcut, hpopped, hwhole, hP⟩ := h
  exact ⟨later, t, earlier, since, before, hcut, hpopped, hwhole, hPQ _ _ hP⟩

/-- The errors that a call gets from its own side of the link. -/
def ClientError.OfConnection : ClientError → Prop
  | .closed | .frame _ => True
  | _ => False

/-- No answer is an error but of the connection. -/
def ofConnection (answers : Answers Message) : Prop :=
  ∀ call err, answers.lookup call = some (.error err) → err.OfConnection

/-- Every control call that failed failed for the connection. -/
def ClientWorld.FailsOfConnection (w : ClientWorld) : Prop :=
  ∀ (call : Nat) req err, w.controls[call]? = some ⟨req, some (.error err)⟩ → err.OfConnection

theorem ClientWorld.FailsOfConnection.tell {w : ClientWorld} (h : w.FailsOfConnection) {told : Told}
    (htold : ofConnection told.controls) : (w.tell told).FailsOfConnection := by
  intro call req err hcall
  rcases of_deliver hcall with hbefore | ⟨-, hnow⟩
  · exact h call req err hbefore
  · exact htold call err hnow

theorem ClientWorld.FailsOfConnection.append {w : ClientWorld} (h : w.FailsOfConnection)
    {req : ControlRequest} {answer : Option (Except ClientError Message)}
    (hanswer : ∀ err, answer = some (.error err) → err.OfConnection) :
    ({ w with controls := w.controls ++ [⟨req, answer⟩] } : ClientWorld).FailsOfConnection := by
  intro call req' err hcall
  rcases Nat.lt_or_ge call w.controls.length with hlt | hge
  · rw [List.getElem?_append_left hlt] at hcall
    exact h call req' err hcall
  · rw [List.getElem?_append_right hge, List.getElem?_singleton] at hcall
    split at hcall
    · cases hcall
      exact hanswer err rfl
    · cases hcall

theorem TokenRequest.message_injective {req asked : TokenRequest}
    (h : req.message = asked.message) : req = asked := by
  cases req <;> cases asked <;> cases h <;> rfl

/-- An error in reply to a request with a token. -/
theorem ReplyMeans.refused {s : Nat} {before : ServerHistory} {code : ErrorCode} {detail : String}
    (means : ReplyMeans platform s before (.error code detail)) {asked : TokenRequest}
    (request : lastRequest s before = some asked.message) :
    Refused s before asked ∨ ∃ req, asked = .attach req ∧ NotExported s before req := by
  rcases means with ⟨req, hrefused⟩ | ⟨req, hnot⟩ | ⟨msg, hmsg, hunserved⟩
  · have hsame := Option.some.inj (request.symm.trans hrefused.1)
    rw [TokenRequest.message_injective hsame]
    exact .inl hrefused
  · have ⟨owner, hauth, _⟩ := hnot
    have hsame := Option.some.inj (request.symm.trans hauth.1)
    exact .inr ⟨req, TokenRequest.message_injective hsame, hnot⟩
  · obtain rfl := Option.some.inj (request.symm.trans hmsg)
    cases asked <;> cases hunserved

end

namespace Sample

/-- The client greets the server and pairs. -/
def pairs : List LinkedAction :=
  [.client (.control (.hello peer)), .client (.control (.pair peer pinHash))] ++
  List.replicate 2 (.client (.take (.ok ()))) ++
  [.deliver, .server (.advance 0 (draw 9)), .deliver] ++
  List.replicate 4 (.server (.advance 0 (draw 9))) ++
  List.replicate 2 .write ++ List.replicate 2 (.client .read)

end Sample

end FarBus.Core
