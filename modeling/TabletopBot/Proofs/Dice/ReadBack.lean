import Mathlib.Data.List.DropRight
import Mathlib.Data.List.Basic
import TabletopBot.Text.Cut
import TabletopBot.Proofs.Dice.Report
import TabletopBot.Proofs.Text.Decimal

/-! # Reading a report back

The lines of a report give back the faces that were rolled, whatever phrases and links stand in them: a
line is read from its end, where its number is, and the link behind a natural 20 is passed over. With a
modifier the end of a line is an equation, and a true one. Dice without critical faces have nothing but
numbers in their lines, so that their report can be read as one text.
-/

namespace TabletopBot.Text

/-- The number at the end of a text, and what stands in front of it. -/
def lastNumber? (chars : List Char) : Option (List Char × Nat) :=
  (natOfDigits? (chars.rtakeWhile isDigit)).map fun value => (chars.rdropWhile isDigit, value)

/-- The sign at the end of a text, as whether it is a minus, and what stands in front of it. -/
def lastSign? (chars : List Char) : Option (List Char × Bool) :=
  match chars.getLast? with
  | some '+' => some (chars.dropLast, false)
  | some '-' => some (chars.dropLast, true)
  | _ => none

/-- The number at the end of a text with the minus sign it may have, and what stands in front of it. -/
def lastInt? (chars : List Char) : Option (List Char × Int) := do
  let (front, value) ← lastNumber? chars
  match lastSign? front with
  | some (front, true) => some (front, -value)
  | _ => some (front, value)

/-- The number at the beginning of a text. -/
def firstNumber? (chars : List Char) : Option Nat := natOfDigits? (chars.takeWhile isDigit)

theorem lastNumber?_append {front : List Char} (ending : ∀ last ∈ front.getLast?, isDigit last = false)
    (value : Nat) : lastNumber? (front ++ decimalDigits value) = some (front, value) := by
  have digits : ∀ char ∈ (decimalDigits value).reverse, isDigit char = true :=
    fun char member => isDigit_of_mem_decimalDigits (List.mem_reverse.mp member)
  rw [← List.head?_reverse] at ending
  rw [lastNumber?, List.rtakeWhile, List.rdropWhile, List.reverse_append,
    takeWhile_append_of_stop digits ending, dropWhile_append_of_stop digits ending,
    List.reverse_reverse, List.reverse_reverse, natOfDigits?_decimalDigits]
  rfl

theorem lastSign?_concat (front : List Char) (negative : Bool) :
    lastSign? (front ++ [if negative then '-' else '+']) = some (front, negative) := by
  rw [lastSign?, List.getLast?_concat, List.dropLast_concat]
  cases negative <;> rfl

theorem lastInt?_append {front : List Char} (ending : ∀ last ∈ front.getLast?, isDigit last = false)
    (unsigned : lastSign? front = none) (value : Int) :
    lastInt? (front ++ decimalInt value) = some (front, value) := by
  rw [lastInt?, decimalInt]
  split
  · next negative =>
    have sign : lastSign? (front ++ ['-']) = some (front, true) := lastSign?_concat front true
    have magnitude : lastNumber? (front ++ ['-'] ++ decimalDigits value.natAbs) =
        some (front ++ ['-'], value.natAbs) := by
      refine lastNumber?_append ?_ _
      rw [List.getLast?_concat]
      rintro last ⟨⟩
      decide
    rw [List.append_assoc, List.singleton_append] at magnitude
    rw [magnitude]
    simp only [bind, Option.bind, sign]
    rw [Int.ofNat_natAbs_of_nonpos (Int.le_of_lt negative), Int.neg_neg]
  · next positive =>
    rw [lastNumber?_append ending]
    simp only [bind, Option.bind, unsigned]
    rw [Int.natAbs_of_nonneg (Int.not_lt.mp positive)]

theorem firstNumber?_append {rest : List Char} (beginning : ∀ first ∈ rest.head?, isDigit first = false)
    (value : Nat) : firstNumber? (decimalDigits value ++ rest) = some value := by
  rw [firstNumber?, takeWhile_append_of_stop (fun _ => isDigit_of_mem_decimalDigits) beginning,
    natOfDigits?_decimalDigits]

end TabletopBot.Text

namespace TabletopBot.Dice

open Text (lastNumber? lastSign? lastInt? firstNumber?)

/-- What is worked out in a line with a modifier: the face, the modifier by its sign and its magnitude,
and the total. -/
structure Equation where
  face : Nat
  negative : Bool
  magnitude : Nat
  total : Int
deriving DecidableEq, Repr

/-- The total is the face with the modifier added or taken away. -/
def Equation.Holds (equation : Equation) : Prop :=
  equation.total =
    if equation.negative then (equation.face : Int) - equation.magnitude
    else equation.face + equation.magnitude

/-- The equation at the end of a line. -/
def Equation.read? (line : String) : Option Equation := do
  let front ← line.toList.dropSuffix? ".".toList
  let (front, total) ← lastInt? front
  let front ← front.dropSuffix? ") = ".toList
  let (front, magnitude) ← lastNumber? front
  let (front, negative) ← lastSign? front
  let front ← front.dropSuffix? " (".toList
  let (_, face) ← lastNumber? front
  return ⟨face, negative, magnitude, total⟩

/-- The face that a die's line shows. -/
def readFace? (modifier : Int) (line : String) : Option Nat :=
  if modifier = 0 then do
    let front ← line.toList.dropSuffix? ".".toList
    let (_, face) ← lastNumber? front
    return face
  else (Equation.read? line).map Equation.face

/-- The faces that the lines of a report show; the line behind a success is a link. -/
def readFaces? (die : Die) (modifier : Int) : List String → Option (List Nat)
  | [] => some []
  | line :: lines => do
    let face ← readFace? modifier line
    if die.critical? face = some .success then
      match lines with
      | [] => none
      | _ :: others => return face :: (← readFaces? die modifier others)
    else return face :: (← readFaces? die modifier lines)

/-- The faces that a report of dice without critical faces shows, as one text: the numbers at the
beginning of its text lines. -/
def readText (text : String) : List Nat := (text.toList.splitOn '\n').filterMap firstNumber?

theorem toList_bodyText_zero (face : Nat) :
    (bodyText 0 face).toList = Text.decimalDigits face ++ ".".toList := by
  have shown : toString face = String.ofList (Text.decimalDigits face) := rfl
  rw [bodyText, if_pos rfl, String.toList_append, shown, String.toList_ofList]

theorem toList_bodyText {modifier : Int} (modified : modifier ≠ 0) (face : Nat) :
    (bodyText modifier face).toList = Text.decimalDigits face ++ " (".toList ++
      [if decide (modifier < 0) = true then '-' else '+'] ++ Text.decimalDigits modifier.natAbs ++
      ") = ".toList ++ Text.decimalInt (face + modifier) ++ ".".toList := by
  rw [← resultText_eq_bodyText, resultText, if_neg modified]
  simp only [String.toList_append, String.toList_ofList, decide_eq_true_eq]
  split <;> rfl

theorem dropSuffix?_append (front ending : List Char) :
    (front ++ ending).dropSuffix? ending = some front :=
  List.dropSuffix?_eq_some_iff.mpr ⟨ending, rfl, beq_self_eq_true ending⟩

/-- A line with a modifier ends in the equation of its face. -/
theorem read?_of_modified {line : String} {front : List Char} {modifier : Int} {face : Nat}
    (modified : modifier ≠ 0) (ending : ∀ last ∈ front.getLast?, Text.isDigit last = false)
    (shape : line.toList = front ++ (bodyText modifier face).toList) :
    Equation.read? line = some ⟨face, decide (modifier < 0), modifier.natAbs, face + modifier⟩ := by
  have opening : ∀ last ∈ (front ++ Text.decimalDigits face ++ " (".toList ++
      [if decide (modifier < 0) = true then '-' else '+']).getLast?, Text.isDigit last = false := by
    rw [List.getLast?_concat]
    rintro last ⟨⟩
    split <;> decide
  have closing (before : List Char) : ∀ last ∈ (before ++ ") = ".toList).getLast?,
      Text.isDigit last = false := by
    rw [List.getLast?_append_of_ne_nil _ (by decide)]
    rintro last ⟨⟩
    decide
  have unsigned (before : List Char) : lastSign? (before ++ ") = ".toList) = none := by
    rw [lastSign?, List.getLast?_append_of_ne_nil _ (by decide)]
    rfl
  rw [toList_bodyText modified] at shape
  simp only [← List.append_assoc] at shape
  simp only [Equation.read?, shape, dropSuffix?_append, Text.lastInt?_append (closing _) (unsigned _),
    Text.lastNumber?_append opening, Text.lastSign?_concat, Text.lastNumber?_append ending,
    Option.bind_eq_bind, Option.bind_some]
  rfl

theorem readFace?_eq {line : String} {front : List Char} {face : Nat} (modifier : Int)
    (ending : ∀ last ∈ front.getLast?, Text.isDigit last = false)
    (shape : line.toList = front ++ (bodyText modifier face).toList) :
    readFace? modifier line = some face := by
  rw [readFace?]
  split
  · next unmodified =>
    rw [unmodified, toList_bodyText_zero, ← List.append_assoc] at shape
    simp only [shape, dropSuffix?_append, Text.lastNumber?_append ending, Option.bind_eq_bind,
      Option.bind_some]
    rfl
  · next modified =>
    rw [read?_of_modified modified ending shape]
    rfl

/-- A separator that ends in no digit, so that a number behind it can be told from it. -/
def Separates (separator : String) : Prop :=
  ∀ last ∈ separator.toList.getLast?, Text.isDigit last = false

theorem separates_separator (faces : List Nat) :
    Separates (if faces.length > 1 then batchSeparator else "") := by
  split
  · rintro last ⟨⟩
    decide
  · rintro last ⟨⟩

namespace RolledDie

variable {die : Die} {book : PhraseBook}

/-- What stands before a critical face ends in a space. -/
theorem separates_critical (separator phrase : String) :
    Separates (separator ++ ("**" ++ phrase ++ "** Natural ")) := by
  rw [Separates, ← String.append_assoc, String.toList_append,
    List.getLast?_append_of_ne_nil _ (by decide)]
  rintro last ⟨⟩
  decide

/-- The line of a die ends in the text of its face with no digit in front of it, and a link follows it
for a success alone. -/
theorem exists_line {separator : String} (separates : Separates separator) (modifier : Int)
    (link : String) (rolled : RolledDie die book) :
    ∃ line front, rolled.lines separator modifier link =
        line :: (if die.critical? rolled.face = some .success then [link] else []) ∧
      line.toList = front ++ (bodyText modifier rolled.face).toList ∧
      ∀ last ∈ front.getLast?, Text.isDigit last = false := by
  cases rolled with
  | twenty isD20 index =>
    have success : die.critical? 20 = some .success := by rw [isD20]; rfl
    refine ⟨_, _, ?_, String.toList_append, separates_critical separator book.success[index]⟩
    rw [face, if_pos success]
    rfl
  | one isD20 index =>
    have failure : die.critical? 1 = some .failure := by rw [isD20]; rfl
    refine ⟨_, _, ?_, String.toList_append, separates_critical separator book.failure[index]⟩
    rw [face, if_neg (by rw [failure]; decide)]
    rfl
  | ordinary face uncritical =>
    refine ⟨_, _, ?_, String.toList_append, separates⟩
    rw [RolledDie.face, if_neg (by rw [critical?_eq_none uncritical]; decide)]
    rfl

/-- With a modifier the line of a die ends in an equation that holds, of its face and the modifier. -/
theorem exists_equation {separator : String} (separates : Separates separator) {modifier : Int}
    (modified : modifier ≠ 0) (link : String) (rolled : RolledDie die book) :
    ∃ line links equation, rolled.lines separator modifier link = line :: links ∧
      Equation.read? line = some equation ∧ equation.Holds ∧ equation.face = rolled.face ∧
      equation.negative = decide (modifier < 0) ∧ equation.magnitude = modifier.natAbs ∧
      equation.total = rolled.face + modifier := by
  obtain ⟨line, front, lines, shape, ending⟩ := rolled.exists_line separates modifier link
  refine ⟨line, _, _, lines, read?_of_modified modified ending shape, ?_, rfl, rfl, rfl, rfl⟩
  simp only [Equation.Holds, decide_eq_true_eq]
  split <;> omega

end RolledDie

/-- The lines of dice give back their faces, one after the other. -/
theorem readFaces?_flatMap_lines {die : Die} {book : PhraseBook} {separator : String}
    (separates : Separates separator) (modifier : Int) (link : String)
    (rolled : List (RolledDie die book)) :
    readFaces? die modifier (rolled.flatMap (·.lines separator modifier link)) =
      some (rolled.map (·.face)) := by
  induction rolled with
  | nil => rfl
  | cons first others ih =>
    obtain ⟨line, front, lines, shape, ending⟩ := first.exists_line separates modifier link
    rw [List.flatMap_cons, lines, List.cons_append, readFaces?, readFace?_eq modifier ending shape]
    simp only [Option.bind_eq_bind, Option.bind_some, List.map_cons]
    split
    · simp only [List.singleton_append, ih, Option.bind_some]
      rfl
    · simp only [List.nil_append, ih, Option.bind_some]
      rfl

theorem firstNumber?_bodyText (modifier : Int) (face : Nat) :
    firstNumber? (bodyText modifier face).toList = some face := by
  by_cases modified : modifier = 0
  · rw [modified, toList_bodyText_zero]
    exact Text.firstNumber?_append (by rintro first ⟨⟩; decide) face
  · rw [toList_bodyText modified]
    simp only [List.append_assoc]
    exact Text.firstNumber?_append (by rintro first ⟨⟩; decide) face

theorem newline_not_mem_decimalDigits (value : Nat) : '\n' ∉ Text.decimalDigits value :=
  fun member => absurd (Text.isDigit_of_mem_decimalDigits member) (by decide)

theorem newline_not_mem_bodyText (modifier : Int) (face : Nat) :
    '\n' ∉ (bodyText modifier face).toList := by
  have total (value : Int) : '\n' ∉ Text.decimalInt value := by
    rw [Text.decimalInt]
    split
    · rw [List.mem_cons, not_or]
      exact ⟨by decide, newline_not_mem_decimalDigits _⟩
    · exact newline_not_mem_decimalDigits _
  by_cases modified : modifier = 0
  · rw [modified, toList_bodyText_zero, List.mem_append, not_or]
    exact ⟨newline_not_mem_decimalDigits face, by decide⟩
  · have sign : '\n' ∉ [if decide (modifier < 0) = true then '-' else '+'] := by
      split <;> decide
    rw [toList_bodyText modified]
    simp only [List.mem_append, not_or]
    exact ⟨⟨⟨⟨⟨⟨newline_not_mem_decimalDigits face, by decide⟩, sign⟩,
      newline_not_mem_decimalDigits _⟩, by decide⟩, total _⟩, by decide⟩

/-- Text lines of joined lines are those of each line. -/
theorem splitOn_intercalate {lines : List (List Char)} (nonempty : lines ≠ []) :
    (['\n'].intercalate lines).splitOn '\n' = lines.flatMap (·.splitOn '\n') := by
  induction lines with
  | nil => exact absurd rfl nonempty
  | cons line lines ih =>
    cases lines with
    | nil => simp
    | cons next lines =>
      rw [List.intercalate_cons_cons, List.append_assoc, List.singleton_append, List.flatMap_cons,
        ← ih (List.cons_ne_nil next lines)]
      exact List.splitOnP_append_cons line _ (by decide)

/-- The separator stands on a text line of its own, which does not begin with a number. -/
theorem filterMap_splitOn_line (faces : List Nat) (modifier : Int) (face : Nat) :
    ((((if faces.length > 1 then batchSeparator else "") ++ bodyText modifier face).toList).splitOn
      '\n').filterMap firstNumber? = [face] := by
  have body : (bodyText modifier face).toList.splitOn '\n' = [(bodyText modifier face).toList] := by
    refine List.splitOnP_eq_singleton fun char member => beq_eq_false_iff_ne.mpr ?_
    rintro rfl
    exact newline_not_mem_bodyText modifier face member
  have number : [(bodyText modifier face).toList].filterMap firstNumber? = [face] :=
    List.filterMap_cons_some (firstNumber?_bodyText modifier face)
  rw [String.toList_append]
  split
  · have apart : (batchSeparator.toList ++ (bodyText modifier face).toList).splitOn '\n' =
        "---".toList.splitOn '\n' ++ (bodyText modifier face).toList.splitOn '\n' :=
      List.splitOnP_append_cons "---".toList _ (by decide)
    have nothing : ("---".toList.splitOn '\n').filterMap firstNumber? = [] := by decide
    rw [apart, List.filterMap_append, nothing, body, number]
    rfl
  · rw [String.toList_empty, List.nil_append, body, number]

/-- Joined lines of dice without critical faces give back the faces. -/
theorem readText_render (faces : List Nat) (modifier : Int) (shown : List Nat) :
    readText (Report.render ⟨shown.map fun face =>
      (if faces.length > 1 then batchSeparator else "") ++ bodyText modifier face⟩) = shown := by
  by_cases nothing : shown = []
  · subst nothing
    rfl
  · have nonempty : (shown.map fun face => ((if faces.length > 1 then batchSeparator else "") ++
        bodyText modifier face).toList) ≠ [] := by simpa using nothing
    rw [readText, Report.render, String.toList_intercalate, List.map_map]
    change (List.splitOn '\n' (['\n'].intercalate (shown.map _))).filterMap firstNumber? = shown
    rw [Function.comp_def, splitOn_intercalate nonempty, List.flatMap_map, List.filterMap_flatMap]
    simp only [filterMap_splitOn_line, List.flatMap_singleton']

/-- Where no face is critical the lines of a report are those of the faces. -/
theorem flatMap_lines_of_ne_d20 {die : Die} {book : PhraseBook} (ordinary : die ≠ .d20)
    (separator : String) (modifier : Int) (link : String) (rolled : List (RolledDie die book)) :
    rolled.flatMap (·.lines separator modifier link) =
      (rolled.map (·.face)).map fun face => separator ++ bodyText modifier face := by
  induction rolled with
  | nil => rfl
  | cons first others ih =>
    rw [List.flatMap_cons, ih]
    cases first with
    | twenty isD20 | one isD20 => exact absurd isD20 ordinary
    | ordinary face _ => rfl

section

variable {σ : Type} [Chance σ]

/-- The lines of a report are those of dice with the faces it is made of. -/
theorem exists_rolled_ofFaces (throw : Throw) (faces : List Nat) (book : PhraseBook) (songs : SongBook)
    (user : String) (source : σ) :
    ∃ rolled : List (RolledDie throw.die book), rolled.map (·.face) = faces ∧
      (Report.ofFaces throw faces book songs user source).1.lines =
        rolled.flatMap (·.lines (if faces.length > 1 then batchSeparator else "") throw.modifier
          (songs.linkFor user)) := by
  obtain ⟨rolled, last, shown, reported⟩ := allLines_yields throw
    (if faces.length > 1 then batchSeparator else "") book songs user faces source
  exact ⟨rolled, shown, congrArg Prod.fst reported.plain_run⟩

theorem readFaces?_ofFaces (throw : Throw) (faces : List Nat) (book : PhraseBook) (songs : SongBook)
    (user : String) (source : σ) :
    readFaces? throw.die throw.modifier (Report.ofFaces throw faces book songs user source).1.lines =
      some faces := by
  obtain ⟨rolled, rfl, lines⟩ := exists_rolled_ofFaces throw faces book songs user source
  rw [lines]
  exact readFaces?_flatMap_lines (separates_separator _) throw.modifier _ rolled

/-- Every report is read back, whatever the faces, the phrases, the links and the source of chance. Two
reports on one throw with the same lines are on the same faces. With a modifier the line of each die ends
in an equation that holds, of its face and the modifier; and where no face is critical the text of the
report is enough. -/
theorem ofFaces_reads_back (throw : Throw) (faces : List Nat) (book : PhraseBook) (songs : SongBook)
    (user : String) (source : σ) :
    let report := (Report.ofFaces throw faces book songs user source).1
    readFaces? throw.die throw.modifier report.lines = some faces ∧
    (∀ (τ : Type) [Chance τ] (others : List Nat) (otherBook : PhraseBook) (otherSongs : SongBook)
      (otherUser : String) (otherSource : τ),
      (Report.ofFaces throw others otherBook otherSongs otherUser otherSource).1.lines = report.lines →
        others = faces) ∧
    (throw.modifier ≠ 0 → ∃ rolled : List (RolledDie throw.die book),
      rolled.map (·.face) = faces ∧
      report.lines = rolled.flatMap (·.lines (if faces.length > 1 then "---\n" else "") throw.modifier
        (songs.linkFor user)) ∧
      ∀ die ∈ rolled, ∃ line links equation,
        die.lines (if faces.length > 1 then "---\n" else "") throw.modifier (songs.linkFor user) =
          line :: links ∧
        Equation.read? line = some equation ∧ equation.Holds ∧ equation.face = die.face ∧
        equation.negative = decide (throw.modifier < 0) ∧
        equation.magnitude = throw.modifier.natAbs ∧
        equation.total = die.face + throw.modifier) ∧
    (throw.die ≠ .d20 → readText report.render = faces) := by
  intro report
  have read := readFaces?_ofFaces throw faces book songs user source
  refine ⟨read, ?_, ?_, ?_⟩
  · intro τ _ others otherBook otherSongs otherUser otherSource same
    have again := readFaces?_ofFaces throw others otherBook otherSongs otherUser otherSource
    rw [same] at again
    exact Option.some.inj (again.symm.trans read)
  · intro modified
    obtain ⟨rolled, shown, lines⟩ := exists_rolled_ofFaces throw faces book songs user source
    refine ⟨rolled, shown, lines, fun die _ => ?_⟩
    exact die.exists_equation (separates_separator faces) modified (songs.linkFor user)
  · intro ordinary
    obtain ⟨rolled, shown, lines⟩ := exists_rolled_ofFaces throw faces book songs user source
    rw [flatMap_lines_of_ne_d20 ordinary, shown] at lines
    have text := readText_render faces throw.modifier faces
    rwa [← lines] at text

/-- Two dice with totals below zero: their equations are read with the minus signs, and another song book
does not matter. -/
theorem ofFaces_reads_back_below_zero :
    let throw : Throw := ⟨2, .d6, -10, by decide, by decide, by decide⟩
    let book : PhraseBook := ⟨["20. **Yes!** Natural 7"], ["Ouch."], by decide, by decide⟩
    let report := (Report.ofFaces throw [2, 6] book {} "sasha" ({ faces := [], picks := [] } : Script)).1
    (throw.modifier ≠ 0 ∧ ∃ rolled : List (RolledDie throw.die book),
      rolled.map (·.face) = [2, 6] ∧
      report.lines = rolled.flatMap (·.lines "---\n" throw.modifier
        (({} : SongBook).linkFor "sasha"))) ∧
    (throw.die ≠ .d20 ∧ readText report.render = [2, 6]) ∧
    ((Report.ofFaces throw [2, 6] book { fallback := "abc" } "bard"
      ({ faces := [], picks := [1] } : Script)).1.lines = report.lines ∧ [2, 6] = [2, 6]) := by
  intro throw book report
  obtain ⟨-, others, equations, text⟩ := ofFaces_reads_back throw [2, 6] book {} "sasha"
    ({ faces := [], picks := [] } : Script)
  have modified : throw.modifier ≠ 0 := by decide
  have ordinary : throw.die ≠ .d20 := by decide
  have same : (Report.ofFaces throw [2, 6] book { fallback := "abc" } "bard"
      ({ faces := [], picks := [1] } : Script)).1.lines = report.lines := by decide
  obtain ⟨rolled, shown, lines, -⟩ := equations modified
  exact ⟨⟨modified, rolled, shown, lines⟩, ⟨ordinary, text ordinary⟩,
    ⟨same, others Script [2, 6] book { fallback := "abc" } "bard" _ same⟩⟩

example : readFaces? .d20 0 ["---\n**7. Natural 3** Natural 20.", "---\n5.", "---\n**1.\n4** Natural 1."] =
    some [20, 1] := by decide

example : Equation.read? "---\n**+3 = 9.** Natural 1 (-12) = -11." = some ⟨1, true, 12, -11⟩ := by decide

end

end TabletopBot.Dice
