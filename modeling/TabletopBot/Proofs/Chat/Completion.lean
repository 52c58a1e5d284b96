import TabletopBot.Chat.Client
import TabletopBot.Proofs.Http.Attempt

/-! # What the language model is asked

With a key, asking for a completion is one attempt, and what comes of it depends on the choices that the
answer offers. Without a key nothing is attempted.
-/

namespace TabletopBot.Chat

open Http (AddressRules Attempt Fate Makes Reaction Response)

def completionAttempt (settings : ChatSettings) (manner : Manner) (key question : String) : Attempt where
  method := .post
  address := Http.addressBelow settings.baseUrl "/chat/completions"
  authorization := some ("Bearer " ++ key)
  body := some (.object [
    ("model", .string settings.model),
    ("messages", .list [
      .object [("role", .string "system"), ("content", .string manner.system)],
      .object [("role", .string "user"), ("content", .string question)]]),
    ("max_tokens", .number manner.maxTokens 0),
    ("temperature", .number manner.temperature 1)])

/-- The answer tells of success and can be read, and these are the texts of its choices. -/
def Offers (fate : Fate) (choices : List String) : Prop :=
  ∃ response, fate = .answered response ∧ 200 ≤ response.status ∧ response.status < 300 ∧
    Json.decode completionRecord.decoder response.received = .ok choices

/-- What comes of an answer: the text of its first choice, or a fault that tells whether choices could be
read at all. -/
inductive Outcome (fate : Fate) : Except ChatFault String → Prop
  | chosen {choice : String} {others : List String} :
      Offers fate (choice :: others) → Outcome fate (.ok choice)
  | none : Offers fate [] → Outcome fate (.error .noChoices)
  | failed {fault : ChatFault} :
      (∀ choices, ¬Offers fate choices) → fault ≠ .noChoices → Outcome fate (.error fault)

theorem offers_unique {fate : Fate} {choices others : List String} (first : Offers fate choices)
    (second : Offers fate others) : choices = others := by
  obtain ⟨response, rfl, _, _, read⟩ := first
  obtain ⟨_, same, _, _, again⟩ := second
  cases same
  exact Except.ok.inj (read.symm.trans again)

theorem outcome_firstChoice {response : Response} (success : Http.Status.isSuccess response.status) :
    Outcome (.answered response) (firstChoice response.received) := by
  have range : 200 ≤ response.status ∧ response.status < 300 := by
    simpa [Http.Status.isSuccess] using success
  unfold firstChoice
  split
  · next fault unreadable =>
    refine .failed ?_ (by simp)
    rintro choices ⟨_, same, _, _, read⟩
    cases same
    rw [unreadable] at read
    contradiction
  · next read => exact .none ⟨response, rfl, range.1, range.2, read⟩
  · next choice others read => exact .chosen ⟨response, rfl, range.1, range.2, read⟩

section

variable [AddressRules] {settings : ChatSettings}

/-- Without a key there is nothing to attempt. -/
theorem complete_of_keyless (keyless : settings.apiKey = none) (manner : Manner) (question : String) :
    complete settings manner question = pure (.error .notConfigured) := by
  rw [complete, keyless]

theorem post_completion_makes (settings : ChatSettings) (manner : Manner) (key question : String)
    (reactions : List Reaction) :
    Makes (Http.post (completionUrl? settings) (some ("Bearer " ++ key))
        (completionBody settings manner question)) reactions
      [completionAttempt settings manner key question]
      ((completionAttempt settings manner key question).fate reactions).response? :=
  Http.post_makes (Http.addressBelow settings.baseUrl "/chat/completions") (some ("Bearer " ++ key))
    (completionBody settings manner question)

/-- With a key, a completion is one attempt. -/
theorem complete_makes {key : String} (configured : settings.apiKey = some key) (manner : Manner)
    (question : String) (reactions : List Reaction) :
    ∃ result, Makes (complete settings manner question) reactions
        [completionAttempt settings manner key question] result ∧
      Outcome ((completionAttempt settings manner key question).fate reactions) result := by
  have asked := post_completion_makes settings manner key question reactions
  have unread {fate : Fate} (silent : fate.response? = none) (choices : List String) :
      ¬Offers fate choices := by
    rintro ⟨response, rfl, _⟩
    cases silent
  rw [complete, configured]
  cases came : ((completionAttempt settings manner key question).fate reactions).response? with
  | none =>
    rw [came] at asked
    exact ⟨.error .request, asked.bind_pure rfl, .failed (unread came) (by simp)⟩
  | some response =>
    rw [came] at asked
    rw [Fate.response?_eq_some_iff.mp came]
    by_cases success : Http.Status.isSuccess response.status
    · exact ⟨_, asked.bind_pure (if_pos success), outcome_firstChoice success⟩
    · refine ⟨_, asked.bind_pure (if_neg success), .failed ?_ (by simp)⟩
      rintro choices ⟨_, same, least, most, _⟩
      cases same
      exact success (by simp [Http.Status.isSuccess, least, most])

end

end TabletopBot.Chat
