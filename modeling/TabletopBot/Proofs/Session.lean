import TabletopBot.Proofs.Dice.Report
import TabletopBot.Session

/-! # What a session lets through

The requests of a session share one source of chance, so a request could change the answers to all later
ones by drawing from it. A roll whose text is no throw is refused before anything is drawn, and a link is
only looked up. Such requests leave no trace: without them the others get the very same answers and make
the very same draws (`exchanges_without`).
-/

namespace TabletopBot.Session

/-- What one request is answered with, and the draws made for it together with what they gave. -/
structure Exchange where
  answer : Answer
  draws : List Answered
deriving DecidableEq, Repr

/-- The exchanges of a session, one for each request in order, and the source that is left. -/
def exchanges {σ : Type} [Chance σ] (resources : Resources) : List Step → σ → List Exchange × σ
  | [], source => ([], source)
  | step :: steps, source =>
    let (given, recorded) := Session.answer resources step (⟨source, []⟩ : Recorded σ)
    let (others, last) := exchanges resources steps recorded.source
    (⟨given, recorded.answers⟩ :: others, last)

/-- A request that can be left out: a roll whose text is no throw, or a link. -/
inductive Traceless : Step → Prop
  | refused {text user : String} {fault : Dice.ThrowFault}
      (rejected : Dice.Throw.parse text = .error fault) : Traceless (.roll text user)
  | link (user : String) : Traceless (.link user)

/-- What is left of a list when some places are taken out. -/
def without {α : Type} (removed : Nat → Bool) (items : List α) : List α :=
  (items.zipIdx.filter (!removed ·.2)).map (·.1)

theorem without_cons {α : Type} (removed : Nat → Bool) (item : α) (items : List α) :
    without removed (item :: items) =
      (if removed 0 then [] else [item]) ++ without (fun place => removed (place + 1)) items := by
  have later : (items.zipIdx 1).filter (!removed ·.2) =
      (items.zipIdx.filter fun entry => !removed (entry.2 + 1)).map fun entry =>
        (entry.1, entry.2 + 1) := by
    rw [← Nat.zero_add 1, List.zipIdx_succ, List.filter_map]
    rfl
  rw [without, List.zipIdx_cons, List.filter_cons, later]
  cases removed 0 with
  | false => simp [without]
  | true => simp [without]

section

variable {σ : Type} [Chance σ]

/-- A text that is no throw is refused without a draw. -/
theorem rollText_of_refused {text : String} {fault : Dice.ThrowFault}
    (rejected : Dice.Throw.parse text = .error fault) (user : String) (book : Dice.PhraseBook)
    (songs : Dice.SongBook) :
    (Dice.rollText text user book songs : StateM σ _) = pure (.error fault) := by
  simp only [Dice.rollText, rejected]

theorem roll_of_refused {text : String} {fault : Dice.ThrowFault}
    (rejected : Dice.Throw.parse text = .error fault) (resources : Resources) (user : String) :
    (Command.roll resources text user : StateM σ _) =
      pure (Reply.ofHint (Command.throwHint fault)) := by
  rw [Command.roll, rollText_of_refused rejected]
  rfl

/-- A roll of a throw shows every die, with a phrase that was drawn for it if it is critical. -/
theorem exists_rolled_yields {text : String} {throw : Dice.Throw}
    (accepted : Dice.Throw.parse text = .ok throw) (resources : Resources) (user : String)
    (source : σ) :
    ∃ (rolled : List (Dice.RolledDie throw.die resources.phrases)) (last : σ),
      rolled.length = throw.count ∧
      let separator := if throw.count > 1 then Dice.batchSeparator else ""
      let lines := rolled.flatMap (·.lines separator throw.modifier (resources.songs.linkFor user))
      Yields (Command.roll resources text user) (Command.roll resources text user) source
        (Reply.ofText ("\n".intercalate lines)) last
        (rolled.map (fun die => .face throw.die.sides die.face) ++
          rolled.filterMap (·.phraseDraw?)) := by
  obtain ⟨rolled, last, count, reported⟩ :=
    Dice.exists_rollText_yields accepted user resources.phrases resources.songs source
  refine ⟨rolled, last, count, ?_⟩
  intro separator lines
  have replied : Yields (Command.roll resources text user) (Command.roll resources text user) source
      (Reply.ofText ("\n".intercalate lines)) last _ := reported.bind (.pure _ last)
  rwa [List.append_nil] at replied

theorem exists_roll_yields {text : String} {throw : Dice.Throw}
    (accepted : Dice.Throw.parse text = .ok throw) (resources : Resources) (user : String)
    (source : σ) : ∃ content last draws,
      Yields (Command.roll resources text user) (Command.roll resources text user) source
        (Reply.ofText content) last draws := by
  obtain ⟨rolled, last, _, replied⟩ := exists_rolled_yields accepted resources user source
  exact ⟨_, last, _, replied⟩

theorem answer_yields (resources : Resources) (step : Step) (source : σ) :
    ∃ given last draws, Yields (Session.answer resources step) (Session.answer resources step)
      source given last draws := by
  cases step with
  | roll text user =>
    simp only [Session.answer]
    cases read : Dice.Throw.parse text with
    | error fault =>
      rw [roll_of_refused read, roll_of_refused read]
      exact ⟨_, _, _, .pure _ source⟩
    | ok throw =>
      obtain ⟨_, _, _, rolled⟩ := exists_roll_yields read resources user source
      exact ⟨_, _, _, rolled.map Answer.ofReply⟩
  | weather =>
    have chosen := Yields.drawItem resources.forecasts.messages resources.forecasts.nonempty source
    exact ⟨_, _, _, (chosen.map Reply.ofText).map Answer.ofReply⟩
  | newPage author url =>
    have chosen :=
      Yields.drawItem resources.announcements.messages resources.announcements.nonempty source
    exact ⟨_, _, _, (chosen.map (Webhook.announcementText · author url)).map (Answer.mk · false)⟩
  | phrase critical =>
    have chosen := Yields.drawItem (resources.phrases.phrases critical)
      (resources.phrases.phrases_nonempty critical) source
    exact ⟨_, _, _, chosen.map (Answer.mk · false)⟩
  | link user => exact ⟨_, _, _, .pure _ source⟩

theorem exchanges_cons {resources : Resources} {step : Step} {source last : σ} {given : Answer}
    {draws : List Answered}
    (yields : Yields (Session.answer resources step) (Session.answer resources step) source given
      last draws) (steps : List Step) :
    exchanges resources (step :: steps) source =
      (⟨given, draws⟩ :: (exchanges resources steps last).1, (exchanges resources steps last).2) := by
  rw [exchanges, yields.recorded_run, List.nil_append]

/-- The exchanges are those of the run of a session: its answers are theirs, and its draws are theirs one
after the other. -/
theorem run_yields (resources : Resources) (steps : List Step) (source : σ) :
    Yields (run resources steps) (run resources steps) source
      ((exchanges resources steps source).1.map (·.answer)) (exchanges resources steps source).2
      ((exchanges resources steps source).1.flatMap (·.draws)) := by
  induction steps generalizing source with
  | nil => exact .pure [] source
  | cons step steps ih =>
    obtain ⟨given, middle, draws, first⟩ := answer_yields resources step source
    rw [exchanges_cons first]
    exact first.bind ((ih middle).map (given :: ·))

/-- A request that can be left out draws nothing. -/
theorem Traceless.answer_yields {step : Step} (traceless : Traceless step) (resources : Resources)
    (source : σ) : ∃ given,
      Yields (Session.answer resources step) (Session.answer resources step) source given source [] := by
  cases traceless with
  | refused rejected =>
    simp only [Session.answer]
    rw [roll_of_refused rejected, roll_of_refused rejected]
    exact ⟨_, .pure _ source⟩
  | link user => exact ⟨_, .pure _ source⟩

/-- Without requests that can be left out, the exchanges are those of the others. -/
theorem exchanges_without (resources : Resources) {steps : List Step} {removed : Nat → Bool}
    (traceless : ∀ place step, steps[place]? = some step → removed place = true → Traceless step)
    (source : σ) :
    exchanges resources (without removed steps) source =
      (without removed (exchanges resources steps source).1, (exchanges resources steps source).2) := by
  induction steps generalizing removed source with
  | nil => rfl
  | cons step steps ih =>
    have others : ∀ place later, steps[place]? = some later → removed (place + 1) = true →
        Traceless later := fun place later found => traceless (place + 1) later (by simpa using found)
    cases first : removed 0 with
    | true =>
      obtain ⟨given, yields⟩ := (traceless 0 step rfl first).answer_yields resources source
      rw [exchanges_cons yields, without_cons, without_cons, first, if_pos rfl, List.nil_append, ih others]
      rfl
    | false =>
      obtain ⟨given, middle, draws, yields⟩ := answer_yields resources step source
      rw [exchanges_cons yields, without_cons, without_cons, first, if_neg Bool.false_ne_true,
        List.singleton_append, exchanges_cons yields, ih others]
      rfl

/-- A session runs as its exchanges say. Any rolls whose text is no throw and any links can be taken out
of it, and the exchanges of all other requests stay as they are, and so does the source that is left. A
roll of a text that is no throw is answered to the asking user alone, with a hint that the fault of the
text decides; a roll of a throw is answered to everybody. -/
theorem session_without_traceless (resources : Resources) (steps : List Step)
    (source : σ) :
    Yields (run resources steps) (run resources steps) source
      ((exchanges resources steps source).1.map (·.answer)) (exchanges resources steps source).2
      ((exchanges resources steps source).1.flatMap (·.draws)) ∧
    (∀ removed : Nat → Bool,
      (∀ place step, steps[place]? = some step → removed place = true → Traceless step) →
      exchanges resources (without removed steps) source =
        (without removed (exchanges resources steps source).1,
          (exchanges resources steps source).2)) ∧
    (∀ text user fault, Dice.Throw.parse text = .error fault →
      Session.answer resources (.roll text user) source =
        (⟨Command.throwHint fault, true⟩, source)) ∧
    (∀ text user throw, Dice.Throw.parse text = .ok throw →
      (Session.answer resources (.roll text user) source).1.ephemeral = false) := by
  refine ⟨run_yields resources steps source, ?_, ?_, ?_⟩
  · intro removed traceless
    exact exchanges_without resources traceless source
  · intro text user fault rejected
    rw [Session.answer, roll_of_refused rejected]
    rfl
  · intro text user throw accepted
    obtain ⟨content, last, draws, rolled⟩ := exists_roll_yields accepted resources user source
    have shown : Session.answer resources (.roll text user) source =
        (Answer.ofReply (Reply.ofText content), last) := (rolled.map Answer.ofReply).plain_run
    rw [shown]
    rfl

end

/-- A refused roll in front of everything and a link in between: the forecast and the two dice do not
notice. -/
theorem session_without_refused_roll_and_link :
    let resources : Resources := {
      phrases := ⟨["Yes!", "Glorious!"], ["Ouch."], by decide, by decide⟩
      songs := {}
      forecasts := ⟨["Rain.", "Sun.", "Fog."], by decide⟩
      announcements := ⟨["New page!"], by decide⟩ }
    let steps : List Step := [.roll "3d7" "sasha", .weather, .link "sasha", .roll "2d20" "yarna"]
    let source : Script := { faces := [20, 3], picks := [1, 5] }
    exchanges resources [.weather, .roll "2d20" "yarna"] source =
        (without (fun place => place == 0 || place == 2) (exchanges resources steps source).1,
          (exchanges resources steps source).2) ∧
      Session.answer resources (.roll "3d7" "sasha") source =
        (⟨"Allowed dice are d4, d6, d8, d10, d12, d20, and d100.", true⟩, source) ∧
      (Session.answer resources (.roll "2d20" "yarna") source).1.ephemeral = false := by
  intro resources steps source
  have rejected : Dice.Throw.parse "3d7" = .error (.unsupportedDie "7") := by rfl
  have accepted : Dice.Throw.parse "2d20" = .ok ⟨2, .d20, 0, by decide, by decide, by decide⟩ := by rfl
  obtain ⟨_, others, refused, rolled⟩ := session_without_traceless resources steps source
  refine ⟨others (fun place => place == 0 || place == 2) ?_, refused _ _ _ rejected,
    rolled _ _ _ accepted⟩
  intro place step found out
  match place with
  | 0 =>
    cases found
    exact .refused rejected
  | 2 =>
    cases found
    exact .link "sasha"
  | 1 => cases out
  | place + 3 => cases out

end TabletopBot.Session
