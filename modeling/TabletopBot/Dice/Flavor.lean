import TabletopBot.Chance
import TabletopBot.Dice.Die

/-! # Critical phrases and songs

What is said beside a critical face. A phrase book holds at least one phrase for either kind, so that
choosing never fails. A song book gives every user a link: the user's own song or the house song.
-/

namespace TabletopBot.Dice

inductive FlavorFault where
  /-- The list for this kind of critical face is empty. -/
  | noPhrases (critical : Critical)
deriving DecidableEq, Repr

def Critical.label : Critical → String
  | .success => "success"
  | .failure => "failure"

def FlavorFault.message : FlavorFault → String
  | .noPhrases critical => "flavor table has no " ++ critical.label ++ " phrases"

/-- The phrases for critical faces, at least one of each kind. -/
structure PhraseBook where
  success : List String
  failure : List String
  success_nonempty : 0 < success.length
  failure_nonempty : 0 < failure.length
deriving Repr

namespace PhraseBook

/-- The phrase book of two lists; the successes are looked at first. -/
def ofLists (success failure : List String) : Except FlavorFault PhraseBook :=
  if someSuccess : 0 < success.length then
    if someFailure : 0 < failure.length then .ok ⟨success, failure, someSuccess, someFailure⟩
    else .error (.noPhrases .failure)
  else .error (.noPhrases .success)

theorem ofLists_eq_ok_iff {success failure : List String} {book : PhraseBook} :
    ofLists success failure = .ok book ↔ book.success = success ∧ book.failure = failure := by
  unfold ofLists
  constructor
  · intro made
    split at made
    · split at made
      · cases made
        exact ⟨rfl, rfl⟩
      · cases made
    · cases made
  · rintro ⟨rfl, rfl⟩
    rw [dif_pos book.success_nonempty, dif_pos book.failure_nonempty]

def phrases (book : PhraseBook) : Critical → List String
  | .success => book.success
  | .failure => book.failure

theorem phrases_nonempty (book : PhraseBook) (critical : Critical) :
    0 < (book.phrases critical).length := by
  cases critical
  · exact book.success_nonempty
  · exact book.failure_nonempty

def choose {σ : Type} [Chance σ] (book : PhraseBook) (critical : Critical) : StateM σ String :=
  drawItem (book.phrases critical) (book.phrases_nonempty critical)

end PhraseBook

def defaultLinkBase : String := "https://open.spotify.com/track/"

def defaultFallback : String := "7yU7FlMnnLHEnOVxMmQLCQ?si=3f3693f8cef847ef"

/-- Songs by user, in the order they were written down, with a song for everybody else. -/
structure SongBook where
  entries : List (String × String) := []
  fallback : String := defaultFallback
  linkBase : String := defaultLinkBase
deriving DecidableEq, Repr

namespace SongBook

/-- The song written down last for exactly this user. -/
def song? (book : SongBook) (user : String) : Option String := book.entries.reverse.lookup user

def linkFor (book : SongBook) (user : String) : String :=
  book.linkBase ++ (book.song? user).getD book.fallback

end SongBook

end TabletopBot.Dice
