import TabletopBot.Json.Token

/-! # Typed JSON decoding

Decoders read a value of a known type from the front of a token list, from left to right, and stop at
the first problem. A record may be written as an object, where unknown fields are skipped and a known
one must not occur twice, or as the list of its fields in order, where fields at the end that have a
default may be missing. Skipped values have to be well formed, to any depth.
-/

namespace TabletopBot.Json

/-- Reads a value from the front of the tokens and returns the tokens behind it. -/
abbrev Decoder (α : Type) := List Token → Except Problem (α × List Token)

/-- The characters of string pieces, with `none` for bytes that belong to no character. Surrogates have
to come in pairs. -/
def joinPieces (unfinished : Option Problem) :
    List StringPiece → Except Problem (List (Option Char))
  | [] =>
    match unfinished with
    | some problem => .error problem
    | none => .ok []
  | .char char :: pieces => (some char :: ·) <$> joinPieces unfinished pieces
  | .illFormed :: pieces => (none :: ·) <$> joinPieces unfinished pieces
  | .surrogate high :: pieces =>
    if high < 0xDC00 then
      match pieces with
      | .surrogate low :: rest =>
        if 0xDC00 ≤ low then
          (some (Char.ofNat (0x10000 + (high - 0xD800) * 0x400 + (low - 0xDC00))) :: ·) <$>
            joinPieces unfinished rest
        else .error .malformed
      | [] => .error (unfinished.getD .malformed)
      | _ => .error .malformed
    else .error .malformed

/-- The text of a string literal that is kept. Ill-formed UTF-8 is noticed at the closing quote. -/
def keptText (pieces : List StringPiece) (unfinished : Option Problem) :
    Except Problem (List Char) := do
  let symbols ← joinPieces unfinished pieces
  match symbols.mapM id with
  | some chars => .ok chars
  | none => .error .malformed

/-- The problem with a value that stands where another type is expected: what is wrong with the value
itself comes first. -/
def unexpected : List Token → Problem
  | [] => .endOfText
  | .string pieces unfinished :: _ =>
    match keptText pieces unfinished with
    | .ok _ => .mismatch
    | .error problem => problem
  | .number number :: _ => if number.isTooLarge then .malformed else .mismatch
  | .brokenNumber atEnd :: _ => if atEnd then .endOfText else .malformed
  | .brokenWord problem :: _ => problem
  | .word _ :: _ => .mismatch
  | .openBrace :: _ => .mismatch
  | .openBracket :: _ => .mismatch
  | _ => .malformed

def string : Decoder String
  | .string pieces unfinished :: rest => do
    let chars ← keptText pieces unfinished
    .ok (String.ofList chars, rest)
  | tokens => .error (unexpected tokens)

/-- Reads a whole number below a limit, written without sign, fraction and exponent. -/
def natBelow (limit : Nat) : Decoder Nat
  | .number number :: rest =>
    if number.isTooLarge then .error .malformed
    else if number.negative ∨ !number.integral ∨ limit ≤ number.significand then .error .mismatch
    else .ok (number.significand, rest)
  | tokens => .error (unexpected tokens)

def optional {α : Type} (decoder : Decoder α) : Decoder (Option α)
  | .word .null :: rest => .ok (none, rest)
  | tokens => do
    let (value, rest) ← decoder tokens
    .ok (some value, rest)

/-- What is open around a value that is skipped. -/
inductive Enclosure where
  | list
  | object
deriving DecidableEq, Repr

/-- What has to come next while a value is skipped. -/
inductive Expected where
  | value
  | valueOrEnd
  | key
  | keyOrEnd
  | colon
  | commaOrEnd
deriving DecidableEq, Repr

/-- Passes over the rest of the enclosed values and returns what is behind the outermost one. -/
def skipFrom (enclosing : List Enclosure) (expected : Expected) :
    List Token → Except Problem (List Token)
  | [] => .error .endOfText
  | token :: rest =>
    match expected, token with
    | .value, .openBracket | .valueOrEnd, .openBracket =>
      skipFrom (.list :: enclosing) .valueOrEnd rest
    | .value, .openBrace | .valueOrEnd, .openBrace => skipFrom (.object :: enclosing) .keyOrEnd rest
    | .value, .string _ none | .valueOrEnd, .string _ none
    | .value, .number _ | .valueOrEnd, .number _
    | .value, .word _ | .valueOrEnd, .word _ =>
      match enclosing with
      | [] => .ok rest
      | _ :: _ => skipFrom enclosing .commaOrEnd rest
    | .value, .brokenWord problem | .valueOrEnd, .brokenWord problem => .error problem
    | .value, .string _ (some problem) | .valueOrEnd, .string _ (some problem)
    | .key, .string _ (some problem) | .keyOrEnd, .string _ (some problem) => .error problem
    | .key, .string _ none | .keyOrEnd, .string _ none => skipFrom enclosing .colon rest
    | .colon, .colon => skipFrom enclosing .value rest
    | .commaOrEnd, .comma =>
      match enclosing with
      | .object :: _ => skipFrom enclosing .key rest
      | _ => skipFrom enclosing .value rest
    | .valueOrEnd, .closeBracket | .keyOrEnd, .closeBrace =>
      match enclosing with
      | [] | [_] => .ok rest
      | _ :: outer => skipFrom outer .commaOrEnd rest
    | .commaOrEnd, .closeBracket =>
      match enclosing with
      | [.list] => .ok rest
      | .list :: outer => skipFrom outer .commaOrEnd rest
      | _ => .error .malformed
    | .commaOrEnd, .closeBrace =>
      match enclosing with
      | [.object] => .ok rest
      | .object :: outer => skipFrom outer .commaOrEnd rest
      | _ => .error .malformed
    | _, _ => .error .malformed

def skipValue (tokens : List Token) : Except Problem (List Token) := skipFrom [] .value tokens

def skipColon : List Token → Except Problem (List Token)
  | [] => .error .endOfText
  | .colon :: rest => .ok rest
  | _ => .error .malformed

/-- Where a reader stands between the items of a list or an object. -/
inductive Turn where
  /-- Nothing has been read behind the opening bracket. -/
  | first
  /-- An item has been read. -/
  | later
deriving DecidableEq, Repr

/-- Passes over what separates list items: the tokens of the next item, or `none` and what is behind the
closing bracket. -/
def nextItem (turn : Turn) : List Token → Except Problem (Bool × List Token)
  | [] => .error .endOfText
  | .closeBracket :: rest => .ok (false, rest)
  | token :: rest =>
    match turn, token with
    | .first, _ => .ok (true, token :: rest)
    | .later, .comma =>
      match rest with
      | [] => .error .endOfText
      | .closeBracket :: _ => .error .malformed
      | _ => .ok (true, rest)
    | .later, _ => .error .malformed

/-- Passes over what separates the fields of an object and over the next key: the key and what is behind
it, or `none` and what is behind the closing brace. -/
def nextKey (turn : Turn) : List Token → Except Problem (Option String × List Token)
  | [] => .error .endOfText
  | .closeBrace :: rest => .ok (none, rest)
  | token :: rest =>
    match turn, token with
    | .first, .string _ _ => key (token :: rest)
    | .later, .comma => key rest
    | _, _ => .error .malformed
where
  /-- Reads the key itself. -/
  key : List Token → Except Problem (Option String × List Token)
    | [] => .error .endOfText
    | .string pieces unfinished :: rest => do
      let chars ← keptText pieces unfinished
      .ok (some (String.ofList chars), rest)
    | _ => .error .malformed

/-- The items of a list behind its opening bracket. The bound is the number of tokens, of which every
item uses up at least one. -/
def itemsWithin {α : Type} (decoder : Decoder α) : Nat → Turn → Decoder (List α)
  | 0, _, _ => .error .endOfText
  | bound + 1, turn, tokens => do
    let (more, rest) ← nextItem turn tokens
    if more then
      let (item, behind) ← decoder rest
      let (items, left) ← itemsWithin decoder bound .later behind
      .ok (item :: items, left)
    else .ok ([], rest)

def list {α : Type} (decoder : Decoder α) : Decoder (List α)
  | .openBracket :: rest => itemsWithin decoder (rest.length + 1) .first rest
  | tokens => .error (unexpected tokens)

/-- The fields of an object behind its opening brace, in the order written. -/
def pairsWithin {α : Type} (decoder : Decoder α) : Nat → Turn → Decoder (List (String × α))
  | 0, _, _ => .error .endOfText
  | bound + 1, turn, tokens => do
    let (key, rest) ← nextKey turn tokens
    match key with
    | none => .ok ([], rest)
    | some key =>
      let behind ← skipColon rest
      let (value, left) ← decoder behind
      let (pairs, last) ← pairsWithin decoder bound .later left
      .ok ((key, value) :: pairs, last)

/-- Reads an object whose values all have the same type, as its fields in the order written. -/
def pairs {α : Type} (decoder : Decoder α) : Decoder (List (String × α))
  | .openBrace :: rest => pairsWithin decoder (rest.length + 1) .first rest
  | tokens => .error (unexpected tokens)

/-- A field of a record that is read into a draft. -/
structure Field (δ : Type) where
  name : String
  /-- The draft holds this field already. -/
  known : δ → Bool
  /-- Reads the field into the draft. -/
  read : δ → Decoder δ

/-- A record type: its fields in order, the draft that none was read into, and the finished record,
which is missing as long as a field without a default is. -/
structure Record (δ α : Type) where
  fields : List (Field δ)
  start : δ
  finish : δ → Option α

namespace Record

variable {δ α : Type}

def close (record : Record δ α) (draft : δ) (rest : List Token) : Except Problem (α × List Token) :=
  match record.finish draft with
  | some value => .ok (value, rest)
  | none => .error .mismatch

/-- The fields of a record written as an object. -/
def objectWithin (record : Record δ α) : Nat → Turn → δ → Decoder α
  | 0, _, _, _ => .error .endOfText
  | bound + 1, turn, draft, tokens => do
    let (key, rest) ← nextKey turn tokens
    match key with
    | none => record.close draft rest
    | some key =>
      match record.fields.find? (·.name == key) with
      | none =>
        let behind ← skipColon rest
        let left ← skipValue behind
        objectWithin record bound .later draft left
      | some field =>
        if field.known draft then .error .mismatch
        else
          let behind ← skipColon rest
          let (next, left) ← field.read draft behind
          objectWithin record bound .later next left

/-- The fields of a record written as a list. -/
def listFrom (record : Record δ α) : List (Field δ) → Turn → δ → Decoder α
  | [], _, draft, tokens =>
    match tokens with
    | [] => .error .endOfText
    | .closeBracket :: rest => record.close draft rest
    | _ => .error .malformed
  | field :: fields, turn, draft, tokens => do
    let (more, rest) ← nextItem turn tokens
    if more then
      let (next, left) ← field.read draft rest
      listFrom record fields .later next left
    else record.close draft rest

def decoder (record : Record δ α) : Decoder α
  | .openBrace :: rest => record.objectWithin (rest.length + 1) .first record.start rest
  | .openBracket :: rest => record.listFrom record.fields .first record.start rest
  | tokens => .error (unexpected tokens)

end Record

/-- Reads a whole text as one value; nothing but white space may follow it. -/
def decode {α : Type} (decoder : Decoder α) (bytes : List UInt8) : Except Problem α := do
  let (value, rest) ← decoder (Token.scan bytes)
  if rest.isEmpty then .ok value else .error .malformed

end TabletopBot.Json
