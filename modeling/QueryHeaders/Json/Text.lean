import QueryHeaders.Json.Basic
import QueryHeaders.Decimal.Numeral

/-!
The compact text of a JSON value: no blanks, members in their order, characters beyond ASCII as
they are. A number that is not finite has no JSON text and is written `null`.
-/
namespace QueryHeaders.Json

/-- JSON numerals sign their exponents and give them two digits. -/
def numeralStyle : NumeralStyle := ⟨true, 2⟩

def hexDigit (n : Nat) : Char := Nat.digitChar n

/-- One character between the quotes of a string. -/
def escapeChar (c : Char) : List Char :=
  if c = '"' then ['\\', '"']
  else if c = '\\' then ['\\', '\\']
  else if c = '\n' then ['\\', 'n']
  else if c = '\r' then ['\\', 'r']
  else if c = '\t' then ['\\', 't']
  else if c = '\x08' then ['\\', 'b']
  else if c = '\x0c' then ['\\', 'f']
  else if c.toNat < 0x20 then ['\\', 'u', '0', '0', hexDigit (c.toNat / 16), hexDigit (c.toNat % 16)]
  else [c]

def stringChars (s : String) : List Char :=
  '"' :: (s.toList.flatMap escapeChar ++ ['"'])

/-- The text of a string. -/
def quote (s : String) : String := String.ofList (stringChars s)

def floatChars : Binary64 → List Char
  | .finite negative m e => Binary64.finiteChars numeralStyle negative m e
  | _ => ['n', 'u', 'l', 'l']

mutual
def chars : Json → List Char
  | .null => ['n', 'u', 'l', 'l']
  | .bool true => ['t', 'r', 'u', 'e']
  | .bool false => ['f', 'a', 'l', 's', 'e']
  | .int n => (toString n).toList
  | .float x => floatChars x
  | .string s => stringChars s
  | .array items => '[' :: (itemsChars items ++ [']'])
  | .object members => '{' :: (membersChars members ++ ['}'])

def itemsChars : List Json → List Char
  | [] => []
  | [v] => v.chars
  | v :: rest => v.chars ++ ',' :: itemsChars rest

def membersChars : List (String × Json) → List Char
  | [] => []
  | [(name, v)] => stringChars name ++ ':' :: v.chars
  | (name, v) :: rest => stringChars name ++ ':' :: (v.chars ++ ',' :: membersChars rest)
end

/-- The compact text. -/
def text (v : Json) : String := String.ofList v.chars

end QueryHeaders.Json
