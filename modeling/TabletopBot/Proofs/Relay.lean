import TabletopBot.Relay
import TabletopBot.Proofs.Http.Attempt

/-! # What the relay posts

Where a webhook is configured, the delivery of a notification is one attempt: its content is posted to the
webhook, without any authorization. Where none is configured nothing is attempted.
-/

namespace TabletopBot.Relay

open Http (AddressRules Attempt Direct Fate Makes Reaction fates remaining requests)

/-- Posting a notification to a webhook. -/
def deliveryAttempt (address : String) (notification : Notification) : Attempt where
  method := .post
  address := address
  body := some (.object [("content", .string notification.content)])

/-- The attempts for notifications in order. -/
def deliveryAttempts (settings : NotifySettings) (notifications : List Notification) : List Attempt :=
  settings.webhookUrl.elim [] fun address => notifications.map (deliveryAttempt address)

/-- What a delivery comes to: only an answer that tells of success counts. -/
def resultOf : Fate → Except DeliveryFault Unit
  | .refused => .error .request
  | .unanswered => .error .request
  | .answered response =>
    if 200 ≤ response.status ∧ response.status < 300 then .ok () else .error (.status response.status)

section

variable [AddressRules] {settings : NotifySettings} {address : String} {reactions : List Reaction}

/-- What the deliveries of notifications in order come to. -/
def results (settings : NotifySettings) (notifications : List Notification)
    (reactions : List Reaction) : List (Except DeliveryFault Unit) :=
  if settings.webhookUrl.isSome then
    (fates (deliveryAttempts settings notifications) reactions).map resultOf
  else notifications.map fun _ => .ok ()

theorem deliver_of_unset (unset : settings.webhookUrl = none) (notification : Notification) :
    deliver settings notification = pure (.ok ()) := by
  rw [deliver, unset]

theorem deliver_makes (configured : settings.webhookUrl = some address)
    (notification : Notification) (reactions : List Reaction) :
    Makes (deliver settings notification) reactions [deliveryAttempt address notification]
      (resultOf ((deliveryAttempt address notification).fate reactions)) := by
  have posted : Makes (Http.post (Http.Url.parse? address) none (body notification)) reactions
      [deliveryAttempt address notification]
      ((deliveryAttempt address notification).fate reactions).response? :=
    Http.post_makes address none (body notification)
  rw [deliver, configured]
  refine posted.bind_pure ?_
  cases (deliveryAttempt address notification).fate reactions with
  | refused => rfl
  | unanswered => rfl
  | answered response =>
    have success : Http.Status.isSuccess response.status = true ↔
        200 ≤ response.status ∧ response.status < 300 := by
      rw [Http.Status.isSuccess, Bool.and_eq_true, decide_eq_true_iff, decide_eq_true_iff]
    simp only [Fate.response?, resultOf, success]
    split
    · rfl
    · rfl

/-- A delivery behind others makes its attempt, if any, behind theirs, and has its own result. -/
theorem deliver_concat (settings : NotifySettings) (notifications : List Notification)
    (notification : Notification) (reactions : List Reaction) (sent : List Http.Request) :
    ∃ result, results settings (notifications ++ [notification]) reactions =
        results settings notifications reactions ++ [result] ∧
      deliver settings notification
        ⟨.script (remaining (deliveryAttempts settings notifications) reactions),
          sent ++ requests (deliveryAttempts settings notifications) reactions⟩ =
        (result, ⟨.script (remaining (deliveryAttempts settings (notifications ++ [notification]))
          reactions),
          sent ++ requests (deliveryAttempts settings (notifications ++ [notification])) reactions⟩) := by
  cases configured : settings.webhookUrl with
  | none =>
    refine ⟨.ok (), ?_, ?_⟩
    · simp only [results, configured, Option.isSome_none, Bool.false_eq_true, if_false, List.map_append,
        List.map_singleton]
    · simp only [deliver_of_unset configured, deliveryAttempts, configured, Option.elim_none]
      rfl
  | some address =>
    have attempts : deliveryAttempts settings (notifications ++ [notification]) =
        deliveryAttempts settings notifications ++ [deliveryAttempt address notification] := by
      simp only [deliveryAttempts, configured, Option.elim_some, List.map_append, List.map_singleton]
    refine ⟨resultOf ((deliveryAttempt address notification).fate
      (remaining (deliveryAttempts settings notifications) reactions)), ?_, ?_⟩
    · simp only [results, configured, Option.isSome_some, if_true, attempts, Http.fates_append,
        List.map_append]
      rfl
    · rw [(deliver_makes configured notification _).run, attempts, Http.remaining_append,
        Http.requests_append, List.append_assoc]

/-- To a webhook that can be used and sends nobody on goes one post for each notification. -/
theorem requests_deliveryAttempts (direct : Direct reactions)
    (configured : settings.webhookUrl = some address) {url : Http.Url}
    (usable : Http.Url.parse? address = some url) (short : url.render.length ≤ 65534)
    (notifications : List Notification) :
    requests (deliveryAttempts settings notifications) reactions =
      notifications.map fun notification => {
        method := .post, url := url.render, contentType := some "application/json"
        body := some (.object [("content", .string notification.content)]) } := by
  have posted (notification : Notification) :
      (deliveryAttempt address notification).outgoing?.map Http.Outgoing.toRequest = some {
        method := .post, url := url.render, contentType := some "application/json"
        body := some (.object [("content", .string notification.content)]) } := by
    have sendable : url.isSendable = true := decide_eq_true short
    rw [Attempt.outgoing?, Attempt.url?, deliveryAttempt, usable]
    simp only [Option.map_some, Option.elim_none, Option.bind_eq_bind, Option.bind_some, sendable,
      Option.all_none, Bool.and_self, if_true]
    rfl
  rw [Http.requests_of_direct direct, deliveryAttempts, configured, Option.elim_some,
    List.filterMap_map, ← List.filterMap_eq_map]
  exact congrArg (List.filterMap · notifications) (funext posted)

end

end TabletopBot.Relay
