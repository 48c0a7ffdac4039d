import QueryHeaders.Yaml.Value.Basic
import QueryHeaders.Yaml.Glyph
import QueryHeaders.Yaml.Node.Basic

/-!
What plain text means: null, a truth value, a number, or itself.

A whole number is written in decimal, or with a base mark in base 16, 8 or 2, and has a sign or
none. Decimal digits after a zero make text. Whole numbers from `-2 ^ 63` up to `2 ^ 64` are kept
exactly; beyond them, up to 128 bits, there is no value, and still larger ones in decimal are
floating point numbers. Text that is no finite floating point number stays text.
-/
namespace QueryHeaders.Yaml.Plain

def isNull (s : String) : Bool := ["null", "Null", "NULL", "~"].contains s

def bool? (s : String) : Option Bool :=
  if ["true", "True", "TRUE"].contains s then some true
  else if ["false", "False", "FALSE"].contains s then some false
  else none

/-! ## Whole numbers -/

/-- A zero followed by digits, with a sign or none. -/
def isZeroPadded (cs : List Char) : Bool :=
  let digits := match cs with
    | '-' :: rest | '+' :: rest => rest
    | cs => cs
  match digits with
  | '0' :: d :: rest => (d :: rest).all Text.isDigit
  | _ => false

def digitIn? (base : Nat) (c : Char) : Option Nat :=
  match Text.hexValue? c with
  | some n => if n < base then some n else none
  | none => none

/-- The number of digits in a base; there has to be one. -/
def digits? (base : Nat) (cs : List Char) : Option Nat :=
  if cs.isEmpty then none
  else cs.foldlM (fun n c => (digitIn? base c).map (n * base + ·)) 0

/-- The base of a number after its sign, and its digits. -/
def baseOf : List Char → Nat × List Char
  | '0' :: 'x' :: rest => (16, rest)
  | '0' :: 'o' :: rest => (8, rest)
  | '0' :: 'b' :: rest => (2, rest)
  | rest => (10, rest)

/-- The whole number that is written. -/
def integer? (cs : List Char) : Option Int :=
  let (negative, digits) := match cs with
    | '-' :: rest => (true, rest)
    | '+' :: rest => (false, rest)
    | rest => (false, rest)
  let (base, digits) := baseOf digits
  if isZeroPadded cs then none
  else (digits? base digits).map fun n => if negative then -n else n

/-! ## Floating point numbers -/

/-- The digits, fraction and exponent of a number without its sign. -/
def decimal? (negative : Bool) (cs : List Char) : Option Binary64 :=
  let whole := cs.takeWhile Text.isDigit
  let rest := cs.dropWhile Text.isDigit
  let (fraction, rest) := match rest with
    | '.' :: rest => (rest.takeWhile Text.isDigit, rest.dropWhile Text.isDigit)
    | rest => ([], rest)
  if whole.isEmpty && fraction.isEmpty then none
  else
    let exponent? : Option Int := match rest with
      | [] => some 0
      | 'e' :: rest | 'E' :: rest =>
          match rest with
          | '-' :: ds => (digits? 10 ds).map fun n => -(n : Int)
          | '+' :: ds => (digits? 10 ds).map Int.ofNat
          | ds => (digits? 10 ds).map Int.ofNat
      | _ => none
    match exponent?, digits? 10 (whole ++ fraction) with
    | some e, some n =>
        let x := Binary64.ofDecimal negative n (e - fraction.length)
        if x.isFinite then some x else none
    | _, _ => none

def float? (cs : List Char) : Option Binary64 :=
  let (negative, digits) := match cs with
    | '-' :: rest => (true, rest)
    | '+' :: rest => (false, rest)
    | rest => (false, rest)
  let word := String.ofList digits
  if [".inf", ".Inf", ".INF"].contains word then some (.infinite negative)
  else if [".nan", ".NaN", ".NAN"].contains (String.ofList cs) then some .nan
  else decimal? negative digits

/-! ## All together -/

/-- The value of a whole number, if it is in range. -/
def ofInteger (n : Int) : Except Error Value :=
  if -(Binary64.powerOfTwo 63 : Int) ≤ n ∧ n < Binary64.powerOfTwo 64 then .ok (.int n)
  else .error ⟨.integerOutOfRange, none⟩

/-- Whether a whole number is kept as one, in range or not. -/
def fitsInteger (n : Int) : Bool :=
  -(Binary64.powerOfTwo 127 : Int) ≤ n ∧ n < Binary64.powerOfTwo 128

def integerValue? (s : String) : Option (Except Error Value) :=
  match integer? s.toList with
  | some n => if fitsInteger n then some (ofInteger n) else none
  | none => none

/-- The value of plain text. -/
def value (s : String) : Except Error Value :=
  if s.isEmpty || isNull s then .ok .null
  else
    match bool? s with
    | some b => .ok (.bool b)
    | none =>
        match integerValue? s with
        | some r => r
        | none =>
            if isZeroPadded s.toList then .ok (.string s)
            else
              match float? s.toList with
              | some x => .ok (.float x)
              | none => .ok (.string s)

/-! ## Tags -/

/-- The tags that force a type. -/
def stringOf (t : Tag) : Option String := String.fromUTF8? ⟨t.toArray⟩

def standardTag (name : String) : String := "tag:yaml.org,2002:" ++ name

def required {α : Type} (r : Option α) (f : α → Value) : Except Error Value :=
  match r with
  | some a => .ok (f a)
  | none => .error ⟨.mismatchedTag, none⟩

/-- The value of a scalar whose tag does not make it a tagged value. -/
def scalarValue (tag : Option Tag) (text : String) (style : ScalarStyle) : Except Error Value :=
  match tag with
  | none => if style = .plain then value text else .ok (.string text)
  | some t =>
      match stringOf t with
      | none => if style = .plain ∧ t.head? = some 33 then value text else .ok (.string text)
      | some name =>
          if name = standardTag "bool" then required (bool? text) .bool
          else if name = standardTag "int" then
            match integerValue? text with
            | some r => r
            | none => .error ⟨.mismatchedTag, none⟩
          else if name = standardTag "float" then required (float? text.toList) .float
          else if name = standardTag "null" then
            if isNull text then .ok .null else .error ⟨.mismatchedTag, none⟩
          else .ok (.string text)

/-- Removes a mark before a name. -/
def dropMark (t : Tag) : Tag :=
  match t with
  | 33 :: b :: rest => b :: rest
  | t => t

/-- The name of a tag that makes a tagged value. A mark before it is no part of it, not even a
second one. -/
def ownTag? (tag : Option Tag) : Option String :=
  match tag with
  | some (33 :: rest) => stringOf (dropMark (dropMark (33 :: rest)))
  | _ => none

end QueryHeaders.Yaml.Plain
