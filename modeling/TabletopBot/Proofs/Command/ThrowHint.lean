import TabletopBot.Command.Roll
import TabletopBot.Proofs.Text.Quoted

/-! # What is said about a text that is no throw

The wordings of two faults are never the same. A number that is wrong is quoted at the end of what is said
about it, so that the text in the quotes can be read back, and what the user is told is one line without
control characters, whatever was typed (`message_reads_back`).
-/

namespace TabletopBot.Dice

/-- A message ends with its first quotation, which is that of a text. -/
def EndsQuoting (message text : String) : Prop :=
  ∃ written, Text.Quoted.quotation? message.toList = some (written, []) ∧
    Text.Quoted.decode written = some text.toList

theorem NumberPart.label_injective : Function.Injective NumberPart.label := by
  intro first second same
  cases first with
  | count =>
    cases second with
    | count => rfl
    | sides | modifier => exact absurd same (by decide)
  | sides =>
    cases second with
    | sides => rfl
    | count | modifier => exact absurd same (by decide)
  | modifier =>
    cases second with
    | modifier => rfl
    | count | sides => exact absurd same (by decide)

theorem colon_not_mem_label (part : NumberPart) : ':' ∉ part.label.toList := by
  cases part with
  | count | sides | modifier => decide

/-- Each kind of fault has a first letter of its own. -/
def ThrowFault.initial : ThrowFault → Char
  | .noDieMarker => 'm'
  | .unsupportedDie _ => 'u'
  | .badNumber _ _ => 'i'

theorem head?_message (fault : ThrowFault) : fault.message.toList.head? = some fault.initial := by
  cases fault with
  | noDieMarker => rfl
  | unsupportedDie text =>
    have opening : "unsupported die size: ".toList.head? = some 'u' := by rfl
    change ("unsupported die size: " ++ text).toList.head? = some 'u'
    rw [String.toList_append, List.head?_append, opening, Option.some_or]
  | badNumber part text =>
    have opening : "invalid ".toList.head? = some 'i' := by rfl
    change ("invalid " ++ part.label ++ ": " ++ Text.quoted text).toList.head? = some 'i'
    simp only [String.toList_append, List.head?_append, opening, Option.some_or]

theorem toList_message_badNumber (part : NumberPart) (text : String) :
    (ThrowFault.badNumber part text).message.toList =
      "invalid ".toList ++ (part.label.toList ++ ':' :: ' ' :: (Text.quoted text).toList) := by
  have colon : ": ".toList = [':', ' '] := by rfl
  change ("invalid " ++ part.label ++ ": " ++ Text.quoted text).toList = _
  simp only [String.toList_append, List.append_assoc, colon, List.cons_append, List.nil_append]

theorem toList_throwHint_badNumber (part : NumberPart) (text : String) :
    (Command.throwHint (.badNumber part text)).toList = "Invalid format or numbers! ".toList ++
      ("invalid ".toList ++ (part.label.toList ++ ':' :: ' ' :: (Text.quoted text).toList)) := by
  change ("Invalid format or numbers! " ++ (ThrowFault.badNumber part text).message).toList = _
  rw [String.toList_append, toList_message_badNumber]

/-- The name of the number ends at the colon, and the rest is the quotation. -/
theorem badNumber_inj_of_message_eq {part other : NumberPart} {text said : String}
    (same : (ThrowFault.badNumber part text).message = (ThrowFault.badNumber other said).message) :
    part = other ∧ text = said := by
  have chars := congrArg String.toList same
  rw [toList_message_badNumber, toList_message_badNumber, List.append_right_inj] at chars
  have cut := congrArg (Text.cutAt? ':') chars
  rw [Text.cutAt?_append (colon_not_mem_label part), Text.cutAt?_append (colon_not_mem_label other),
    Option.some.injEq, Prod.mk.injEq, List.cons.injEq] at cut
  obtain ⟨labels, -, quotations⟩ := cut
  constructor
  · exact NumberPart.label_injective (String.toList_inj.mp labels)
  · exact Text.Quoted.quoted_injective (String.toList_inj.mp quotations)

theorem message_injective : Function.Injective ThrowFault.message := by
  intro first second same
  have start := congrArg (fun message => message.toList.head?) same
  simp only [head?_message, Option.some.injEq] at start
  cases first with
  | noDieMarker =>
    cases second with
    | noDieMarker => rfl
    | unsupportedDie | badNumber => simp [ThrowFault.initial] at start
  | unsupportedDie text =>
    cases second with
    | unsupportedDie other => exact congrArg _ ((String.append_right_inj _).mp same)
    | noDieMarker | badNumber => simp [ThrowFault.initial] at start
  | badNumber part text =>
    cases second with
    | badNumber other said =>
      obtain ⟨rfl, rfl⟩ := badNumber_inj_of_message_eq same
      rfl
    | noDieMarker | unsupportedDie => simp [ThrowFault.initial] at start

theorem EndsQuoting.of_toList {message text : String} {front : List Char} (unquoted : '"' ∉ front)
    (shape : message.toList = front ++ (Text.quoted text).toList) : EndsQuoting message text := by
  have quotation := Text.Quoted.quotation?_append unquoted text []
  rw [List.append_nil, ← shape] at quotation
  exact ⟨_, quotation, Text.Quoted.decode_encode text.toList⟩

theorem quote_not_mem_opening (part : NumberPart) :
    '"' ∉ "invalid ".toList ++ (part.label.toList ++ [':', ' ']) := by
  cases part with
  | count | sides | modifier => decide

theorem endsQuoting_message (part : NumberPart) (text : String) :
    EndsQuoting (ThrowFault.badNumber part text).message text := by
  refine .of_toList (quote_not_mem_opening part) ?_
  simp only [toList_message_badNumber, List.append_assoc, List.cons_append, List.nil_append]

theorem endsQuoting_throwHint (part : NumberPart) (text : String) :
    EndsQuoting (Command.throwHint (.badNumber part text)) text := by
  have unquoted : '"' ∉ "Invalid format or numbers! ".toList ++
      ("invalid ".toList ++ (part.label.toList ++ [':', ' '])) := by
    rw [List.mem_append, not_or]
    exact ⟨by decide, quote_not_mem_opening part⟩
  refine .of_toList unquoted ?_
  simp only [toList_throwHint_badNumber, List.append_assoc, List.cons_append, List.nil_append]

theorem visible_throwHint (fault : ThrowFault) :
    Text.Visible (Command.throwHint fault).toList = true := by
  cases fault with
  | noDieMarker | unsupportedDie => exact (by decide : Text.Visible Command.allowedDice.toList = true)
  | badNumber part text =>
    have opening : Text.Visible "Invalid format or numbers! ".toList = true := by decide
    have invalid : Text.Visible "invalid ".toList = true := by decide
    have label : Text.Visible part.label.toList = true := by
      cases part with
      | count | sides | modifier => decide
    rw [toList_throwHint_badNumber, Text.visible_append, Text.visible_append, Text.visible_append,
      Text.visible_cons, Text.visible_cons, opening, invalid, label, Text.Quoted.visible_quoted]
    decide

/-- Messages that are the same are about the same fault. What is said about a number, to the user as well,
ends with its only quotation, from which the text that is wrong can be read back. Nothing that the user is
told has a control character in it, or a character that ends a line. -/
theorem message_reads_back :
    Function.Injective ThrowFault.message ∧
    (∀ part text, EndsQuoting (ThrowFault.badNumber part text).message text ∧
      EndsQuoting (Command.throwHint (.badNumber part text)) text) ∧
    ∀ fault, ∀ char ∈ (Command.throwHint fault).toList,
      Text.isControl char = false ∧ Text.isLineBreak char = false := by
  refine ⟨message_injective, ?_, ?_⟩
  · intro part text
    exact ⟨endsQuoting_message part text, endsQuoting_throwHint part text⟩
  · intro fault char member
    have visible := Bool.eq_false_iff.mp (Text.visible_iff.mp (visible_throwHint fault) char member)
    constructor
    · exact Bool.eq_false_iff.mpr fun control => visible (Text.isInvisible_of_isControl control)
    · exact Bool.eq_false_iff.mpr fun breaks => visible (Text.isInvisible_of_isLineBreak breaks)

end TabletopBot.Dice
