/-! # Media types

The part of a content type that tells whether a body is JSON: `application/json`, or a type of
`application` whose structured suffix is `json`, in any case and with any well-formed parameters.
-/

namespace TabletopBot.Webhook.MediaType

/-- The characters of names: letters, digits and some signs. -/
def isToken (char : Char) : Bool :=
  char.isAlphanum || "!#$%&'*+-.^_`|~".toList.contains char

/-- The characters that may stand in a quoted parameter value. -/
def isQuotable (char : Char) : Bool := 31 < char.toNat && char.toNat ≠ 127

/-- A quoted value behind its first character, up to the closing quote and the semicolon or end behind
it; what is behind the semicolon. -/
def quotedRest? : List Char → Option (List Char)
  | [] => none
  | '"' :: rest =>
    match rest.dropWhile (· == ' ') with
    | [] => some []
    | ';' :: behind => some behind
    | _ => none
  | char :: rest => if isQuotable char then quotedRest? rest else none

/-- The value of a parameter, up to the semicolon or end behind it; what is behind the semicolon. A
value without quotes may be empty only at the end, and one in quotes is not empty. -/
def valueRest? : List Char → Option (List Char)
  | '"' :: first :: rest => if isQuotable first then quotedRest? rest else none
  | '"' :: [] => none
  | chars =>
    let value := chars.takeWhile isToken
    match chars.drop value.length with
    | [] => some []
    | ';' :: behind => if value.isEmpty then none else some behind
    | _ => none

/-- Parameters are well formed, given a bound on their number: names with values, separated by
semicolons, with spaces before the names. -/
def areParameters : Nat → List Char → Bool
  | 0, chars => chars.isEmpty
  | bound + 1, chars =>
    let start := chars.dropWhile (· == ' ')
    if start.isEmpty then true
    else
      let name := start.takeWhile isToken
      match start.drop name.length with
      | '=' :: rest =>
        !name.isEmpty &&
          match valueRest? rest with
          | some behind => areParameters bound behind
          | none => false
      | _ => false

/-- A subtype tells of JSON by itself or by what follows its last plus sign. -/
def isJsonSubtype (subtype : List Char) : Bool :=
  let reversedSuffix := subtype.reverse.takeWhile (· != '+')
  let before := (subtype.reverse.drop (reversedSuffix.length + 1)).reverse
  if reversedSuffix.length = subtype.length ∨ before.isEmpty then subtype == "json".toList
  else before == "json".toList || reversedSuffix.reverse == "json".toList

def isJson (contentType : String) : Bool :=
  let chars := contentType.toList.map Char.toLower
  let type := chars.takeWhile isToken
  match chars.drop type.length with
  | '/' :: rest =>
    let subtype := rest.takeWhile isToken
    type == "application".toList && isJsonSubtype subtype &&
      chars.all (fun char => char = '\t' || (32 ≤ char.toNat && char.toNat < 127)) &&
      match rest.drop subtype.length with
      | [] => true
      | ';' :: parameters => !subtype.isEmpty && areParameters parameters.length parameters
      | _ => false
  | _ => false

end TabletopBot.Webhook.MediaType
