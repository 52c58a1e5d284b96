import TabletopBot.Bot
import TabletopBot.Webhook.Router

/-! # The server

The webhook and the relay at work together. Requests come one after the other; the relay takes every
notification off the queue before the next request arrives, and on shutdown nothing is left to deliver.
-/

namespace TabletopBot

structure Server where
  resources : Resources
  notify : NotifySettings

namespace Server

/-- A header value as it arrives, without spaces and tabs at its ends. -/
def headerValue (text : String) : String :=
  let isOuter (char : Char) : Bool := char == ' ' || char == '\t'
  String.ofList ((text.toList.dropWhile isOuter).reverse.dropWhile isOuter).reverse

/-- Answers a request and relays what it announced. -/
def handle {σ : Type} [Chance σ] [Http.AddressRules] (server : Server)
    (request : Webhook.Request) : StateM (Surroundings σ) Webhook.Outcome := do
  let arrived := { request with contentType := request.contentType.map headerValue }
  let (outcome, queue) ← Surroundings.withChance
    (Webhook.respond server.resources.announcements server.notify.channelId arrived {})
  Surroundings.withNetwork (Relay.run server.notify queue.waiting)
  pure outcome

theorem handle_of_respond {σ : Type} [Chance σ] [Http.AddressRules] {server : Server}
    {request : Webhook.Request} {source last : σ} {outcome : Webhook.Outcome} {queue : Webhook.Queue}
    (ran : Webhook.respond server.resources.announcements server.notify.channelId
      { request with contentType := request.contentType.map headerValue } {} source =
        ((outcome, queue), last)) (network : Http.Network) :
    server.handle request ⟨source, network⟩ =
      (outcome, ⟨last, (Relay.run server.notify queue.waiting network).2⟩) := by
  rw [handle]
  generalize (Webhook.respond server.resources.announcements server.notify.channelId
    { request with contentType := request.contentType.map headerValue } {} : StateM σ _) = respond
    at ran ⊢
  change ((respond source).1.1,
    (⟨(respond source).2, (Relay.run server.notify (respond source).1.2.waiting network).2⟩ :
      Surroundings σ)) = _
  rw [ran]

end Server

end TabletopBot
