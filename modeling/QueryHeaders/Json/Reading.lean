import QueryHeaders.Json.Basic
import QueryHeaders.Text.Digit

/-!
Reading JSON text.

`read` accepts one value with blanks around it. Collections may be nested up to a given depth. A
numeral without fraction and exponent is a whole number if 64 bits hold it, with the sign or
without; any other numeral is taken with as many leading digits as 64 bits hold, and the result of
scaling them by the power of ten is rounded once more.
-/
namespace QueryHeaders.Json

/-- Why a text is no JSON. -/
inductive ReadError where
  | endOfText
  | unexpected (c : Char)
  | controlCharacter
  | unknownEscape
  | loneSurrogate
  | numberOutOfRange
  | tooDeep
  | trailingText
  deriving DecidableEq, Repr

def ReadError.message : ReadError → String
  | .endOfText => "unexpected end of text"
  | .unexpected c => "unexpected character '" ++ c.toString ++ "'"
  | .controlCharacter => "control character in a string"
  | .unknownEscape => "unknown escape in a string"
  | .loneSurrogate => "half of a surrogate pair in a string"
  | .numberOutOfRange => "number out of range"
  | .tooDeep => "collections nested too deeply"
  | .trailingText => "text after the value"

def isGap (c : Char) : Bool :=
  c == ' ' || c == '\t' || c == '\n' || c == '\r'

def skipGap (cs : List Char) : List Char := cs.dropWhile isGap

def unexpected {α : Type} : List Char → Except ReadError α
  | [] => .error .endOfText
  | c :: _ => .error (.unexpected c)

/-! ## Numbers -/

/-- Appends digits to a number as long as it stays below `2 ^ 64`, and counts the digits taken. -/
def takeDigits (value taken : Nat) : List Char → Nat × Nat
  | [] => (value, taken)
  | c :: rest =>
      let next := value * 10 + Text.digitValue c
      if next < Binary64.powerOfTwo 64 then takeDigits next (taken + 1) rest else (value, taken)

def powerOfTen (n : Nat) : Binary64 := .ofDecimal false 1 n

/-- `digits * 10 ^ power`, rounded after each step; three steps reach zero from any number. -/
def scale (negative : Bool) (digits : Nat) (power : Int) : Except ReadError Binary64 :=
  let start := Binary64.ofNat negative digits
  if digits = 0 then .ok start
  else if 308 < power then .error .numberOutOfRange
  else if 0 ≤ power then
    match start.mul (powerOfTen power.toNat) with
    | .infinite _ => .error .numberOutOfRange
    | x => .ok x
  else if -308 ≤ power then .ok (start.div (powerOfTen (-power).toNat))
  else
    let lower := start.div (powerOfTen 308)
    if -616 ≤ power then .ok (lower.div (powerOfTen (-power - 308).toNat))
    else .ok (.zero negative)

/-- The number of the digits before the point, after it and in the exponent. -/
def numberOf (negative : Bool) (whole : List Char) (fraction : Option (List Char))
    (exponent : Option Int) : Except ReadError Json :=
  let (value, taken) := takeDigits 0 0 whole
  match fraction, exponent with
  | none, none =>
      if taken = whole.length ∧ !negative then .ok (.int value)
      else if taken = whole.length ∧ 0 < value ∧ value ≤ Binary64.powerOfTwo 63 then .ok (.int (-value))
      else return .float (← scale negative value (whole.length - taken))
  | _, _ => do
      let (value, places) := takeDigits value 0 (fraction.getD [])
      return .float (← scale negative value
        ((whole.length - taken : Nat) - places + exponent.getD 0))

def readExponent : List Char → Except ReadError (Option Int × List Char)
  | 'e' :: rest | 'E' :: rest =>
      let (negative, rest) := match rest with
        | '-' :: r => (true, r)
        | '+' :: r => (false, r)
        | r => (false, r)
      let digits := rest.takeWhile Text.isDigit
      if digits.isEmpty then unexpected rest
      else
        let n : Int := Nat.ofDigitChars 10 digits 0
        .ok (some (if negative then -n else n), rest.dropWhile Text.isDigit)
  | rest => .ok (none, rest)

def readFraction : List Char → Except ReadError (Option (List Char) × List Char)
  | '.' :: rest =>
      let digits := rest.takeWhile Text.isDigit
      if digits.isEmpty then unexpected rest
      else .ok (some digits, rest.dropWhile Text.isDigit)
  | rest => .ok (none, rest)

def readNumber (cs : List Char) : Except ReadError (Json × List Char) := do
  let (negative, rest) := match cs with
    | '-' :: r => (true, r)
    | r => (false, r)
  let whole := rest.takeWhile Text.isDigit
  if whole.isEmpty then unexpected rest
  else if whole.head? = some '0' ∧ 1 < whole.length then unexpected (whole.drop 1)
  else do
    let (fraction, rest) ← readFraction (rest.dropWhile Text.isDigit)
    let (exponent, rest) ← readExponent rest
    return (← numberOf negative whole fraction exponent, rest)

/-! ## Strings -/

def readHex4? : List Char → Option (Nat × List Char)
  | a :: b :: c :: d :: rest => (Text.hexadecimal? [a, b, c, d]).map fun n => (n, rest)
  | _ => none

/-- The character of an escape, after `\u`. -/
def readUnicode (cs : List Char) : Except ReadError (Char × List Char) :=
  match readHex4? cs with
  | none => .error .unknownEscape
  | some (n, rest) =>
      if 0xDC00 ≤ n ∧ n ≤ 0xDFFF then .error .loneSurrogate
      else if 0xD800 ≤ n ∧ n ≤ 0xDBFF then
        match rest with
        | '\\' :: 'u' :: more =>
            match readHex4? more with
            | none => .error .unknownEscape
            | some (low, rest) =>
                if 0xDC00 ≤ low ∧ low ≤ 0xDFFF then
                  .ok (Char.ofNat (0x10000 + (n - 0xD800) * 0x400 + (low - 0xDC00)), rest)
                else .error .loneSurrogate
        | _ => .error .loneSurrogate
      else .ok (Char.ofNat n, rest)

def simpleEscape? : Char → Option Char
  | '"' => some '"'
  | '\\' => some '\\'
  | '/' => some '/'
  | 'b' => some '\x08'
  | 'f' => some '\x0c'
  | 'n' => some '\n'
  | 'r' => some '\r'
  | 't' => some '\t'
  | _ => none

/-- Reads the rest of a string; `done` holds its characters so far, the last one first. -/
def readString : (fuel : Nat) → (done : List Char) → List Char → Except ReadError (String × List Char)
  | 0, _, _ => .error .endOfText
  | _ + 1, _, [] => .error .endOfText
  | fuel + 1, done, c :: rest =>
      if c = '"' then .ok (String.ofList done.reverse, rest)
      else if c = '\\' then
        match rest with
        | 'u' :: more =>
            match readUnicode more with
            | .error e => .error e
            | .ok (u, rest) => readString fuel (u :: done) rest
        | e :: more =>
            match simpleEscape? e with
            | none => .error .unknownEscape
            | some u => readString fuel (u :: done) more
        | [] => .error .endOfText
      else if c.toNat < 0x20 then .error .controlCharacter
      else readString fuel (c :: done) rest

/-! ## Values -/

def readWord (word : String) (v : Json) (cs : List Char) : Except ReadError (Json × List Char) :=
  if word.toList.isPrefixOf cs then .ok (v, cs.drop word.length)
  else unexpected cs

mutual
/-- Reads a value; the fuel bounds the number of characters left, `depth` the nesting allowed. -/
def readValue : (fuel depth : Nat) → List Char → Except ReadError (Json × List Char)
  | 0, _, _ => .error .endOfText
  | fuel + 1, depth, cs =>
      match skipGap cs with
      | [] => .error .endOfText
      | '"' :: rest => do
          let (s, rest) ← readString (rest.length + 1) [] rest
          return (.string s, rest)
      | '[' :: rest =>
          match depth with
          | 0 => .error .tooDeep
          | depth + 1 =>
              match skipGap rest with
              | ']' :: rest => .ok (.array [], rest)
              | rest => do
                  let (items, rest) ← readItems fuel depth rest
                  return (.array items, rest)
      | '{' :: rest =>
          match depth with
          | 0 => .error .tooDeep
          | depth + 1 =>
              match skipGap rest with
              | '}' :: rest => .ok (.object [], rest)
              | rest => do
                  let (members, rest) ← readMembers fuel depth rest
                  return (ofMembers members, rest)
      | c :: rest =>
          if c = 't' then readWord "true" (.bool true) (c :: rest)
          else if c = 'f' then readWord "false" (.bool false) (c :: rest)
          else if c = 'n' then readWord "null" .null (c :: rest)
          else readNumber (c :: rest)

def readItems : (fuel depth : Nat) → List Char → Except ReadError (List Json × List Char)
  | 0, _, _ => .error .endOfText
  | fuel + 1, depth, cs => do
      let (v, rest) ← readValue fuel depth cs
      match skipGap rest with
      | ']' :: rest => return ([v], rest)
      | ',' :: rest =>
          let (vs, rest) ← readItems fuel depth rest
          return (v :: vs, rest)
      | rest => unexpected rest

def readMembers : (fuel depth : Nat) → List Char → Except ReadError (List (String × Json) × List Char)
  | 0, _, _ => .error .endOfText
  | fuel + 1, depth, cs =>
      match skipGap cs with
      | '"' :: rest => do
          let (name, rest) ← readString (rest.length + 1) [] rest
          match skipGap rest with
          | ':' :: rest =>
              let (v, rest) ← readValue fuel depth rest
              match skipGap rest with
              | '}' :: rest => return ([(name, v)], rest)
              | ',' :: rest =>
                  let (vs, rest) ← readMembers fuel depth rest
                  return ((name, v) :: vs, rest)
              | rest => unexpected rest
          | rest => unexpected rest
      | rest => unexpected rest
end

/-- Reads a text that holds one value, with collections nested at most `depth` deep. -/
def read (depth : Nat) (s : String) : Except ReadError Json := do
  let cs := s.toList
  let (v, rest) ← readValue (2 * cs.length + 2) depth cs
  if (skipGap rest).isEmpty then return v else throw .trailingText

end QueryHeaders.Json
