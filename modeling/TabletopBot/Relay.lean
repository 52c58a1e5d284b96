import TabletopBot.Config.Settings
import TabletopBot.Http.Network
import TabletopBot.Http.Status

/-! # Relaying announcements

The relay takes notifications off their queue one after the other and posts each to the chat platform's
webhook. A delivery that fails is given up and the next one follows. Without a webhook address a
notification counts as delivered.
-/

namespace TabletopBot

structure Notification where
  channelId : Nat
  content : String
deriving DecidableEq, Repr

inductive DeliveryFault where
  /-- The request was refused or not answered. -/
  | request
  /-- The answer does not tell of success. -/
  | status (code : Nat)
deriving DecidableEq, Repr

/-- The wording of a status fault; a failed request has no wording of its own. -/
def DeliveryFault.message? : DeliveryFault → Option String
  | .request => none
  | .status code => some ("notification webhook returned " ++ Http.Status.render code)

namespace Relay

open Http (AddressRules)

def body (notification : Notification) : Json.Value :=
  .object [("content", .string notification.content)]

def deliver [AddressRules] (settings : NotifySettings) (notification : Notification) :
    StateM Http.Network (Except DeliveryFault Unit) := do
  match settings.webhookUrl with
  | none => pure (.ok ())
  | some address =>
    match ← Http.post (Http.Url.parse? address) none (body notification) with
    | none => pure (.error .request)
    | some response =>
      if Http.Status.isSuccess response.status then pure (.ok ())
      else pure (.error (.status response.status))

theorem deliver_nobody [AddressRules] (settings : NotifySettings) (notification : Notification)
    (sent : List Http.Request) : (deliver settings notification ⟨.nobody, sent⟩).2 = ⟨.nobody, sent⟩ := by
  rw [deliver]
  cases settings.webhookUrl with
  | none => rfl
  | some address =>
    simp only [bind, StateT.bind, Http.post_nobody]
    rfl

def run [AddressRules] (settings : NotifySettings) : List Notification → StateM Http.Network Unit
  | [] => pure ()
  | notification :: rest => do
    let _ ← deliver settings notification
    run settings rest

end Relay

end TabletopBot
