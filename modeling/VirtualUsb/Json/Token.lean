import VirtualUsb.Json.Basic
import VirtualUsb.Text.Hex
import VirtualUsb.Text.Utf16

/-!
# JSON tokens

The words of a JSON text. The rules are strict: no leading zeros, no raw control characters in a
string, no other blanks than space, tab, line feed and carriage return.
-/

namespace VirtualUsb

/-- A word of a JSON text. -/
inductive Token
  | openBracket
  | closeBracket
  | openBrace
  | closeBrace
  | comma
  | colon
  | scalar (value : Json)
  | string (text : Option String)

namespace Token

/-! ## Strings -/

/-- The UTF-16 unit of four hexadecimal digits. -/
def hexUnit (a b c d : Char) : Option UInt16 := do
  return UInt16.ofNat
    (((← Hex.value? a) * 16 + (← Hex.value? b)) * 256 + (← Hex.value? c) * 16 + (← Hex.value? d))

/-- The unit that a letter stands for behind a backslash. -/
def escaped : Char → Option UInt16
  | '"' => some 0x22
  | '\\' => some 0x5C
  | '/' => some 0x2F
  | 'b' => some 0x08
  | 'f' => some 0x0C
  | 'n' => some 0x0A
  | 'r' => some 0x0D
  | 't' => some 0x09
  | _ => none

/-- Reads a string up to its closing quote: its units behind those in `units`, which stand in
reverse, and the rest of the text. -/
def stringBody (units : List UInt16) : List Char → Option (List UInt16 × List Char)
  | '"' :: rest => some (units.reverse, rest)
  | '\\' :: 'u' :: a :: b :: c :: d :: rest => do stringBody ((← hexUnit a b c d) :: units) rest
  | '\\' :: c :: rest => do stringBody ((← escaped c) :: units) rest
  | c :: rest =>
    if c.toNat < 0x20 then none else stringBody ((Utf16.units c).reverse ++ units) rest
  | [] => none

/-! ## Numbers -/

/-- Whether a character can stand in a number. -/
def isNumeric (c : Char) : Bool := c.isDigit || c ∈ ['+', '-', '.', 'e', 'E']

def afterDigits : List Char → Option (List Char)
  | c :: rest => if c.isDigit then some (rest.dropWhile Char.isDigit) else none
  | [] => none

/-- What follows the whole part of a number, which has no leading zero. -/
def afterWhole : List Char → Option (List Char)
  | '0' :: rest => some rest
  | cs => afterDigits cs

def afterFraction : List Char → Option (List Char)
  | '.' :: rest => afterDigits rest
  | cs => some cs

def afterExponent : List Char → Option (List Char)
  | e :: rest =>
    if e = 'e' ∨ e = 'E' then
      match rest with
      | '+' :: digits | '-' :: digits => afterDigits digits
      | digits => afterDigits digits
    else some (e :: rest)
  | [] => some []

/-- Whether some characters are a number without a sign. -/
def isUnsigned (cs : List Char) : Bool :=
  ((afterWhole cs).bind afterFraction).bind afterExponent = some []

/-- The number of some decimal digits. -/
def digitsValue (cs : List Char) : Nat :=
  cs.foldl (fun n c => n * 10 + (c.toNat - '0'.toNat)) 0

/-- The number that some characters spell. -/
def numeral (cs : List Char) : Option Numeral :=
  match cs with
  | '-' :: rest => if isUnsigned rest then some (.other (String.ofList cs)) else none
  | _ =>
    if isUnsigned cs then
      if cs.all Char.isDigit then some (.natural (digitsValue cs))
      else some (.other (String.ofList cs))
    else none

/-! ## Texts -/

/-- The first token of a text, if it is not blank, and the rest. -/
def next : List Char → Option (Option Token × List Char)
  | [] => none
  | ' ' :: rest | '\t' :: rest | '\n' :: rest | '\r' :: rest => some (none, rest)
  | '[' :: rest => some (some openBracket, rest)
  | ']' :: rest => some (some closeBracket, rest)
  | '\x7b' :: rest => some (some openBrace, rest)
  | '\x7d' :: rest => some (some closeBrace, rest)
  | ',' :: rest => some (some comma, rest)
  | ':' :: rest => some (some colon, rest)
  | '"' :: rest => do
    let (units, rest) ← stringBody [] rest
    return (some (string ((Utf16.decode units).map String.ofList)), rest)
  | 'n' :: 'u' :: 'l' :: 'l' :: rest => some (some (scalar .null), rest)
  | 't' :: 'r' :: 'u' :: 'e' :: rest => some (some (scalar (.bool true)), rest)
  | 'f' :: 'a' :: 'l' :: 's' :: 'e' :: rest => some (some (scalar (.bool false)), rest)
  | c :: rest => do
    let n ← numeral (c :: rest.takeWhile isNumeric)
    return (some (scalar (.number n)), rest.dropWhile isNumeric)

/-- The tokens of a text behind those in `done`, which stand in reverse. Each token takes at least
one character, so `fuel` as large as the text is enough. -/
def scan (done : List Token) : Nat → List Char → Option (List Token)
  | _, [] => some done.reverse
  | 0, _ => none
  | fuel + 1, cs =>
    match next cs with
    | none => none
    | some (some t, rest) => scan (t :: done) fuel rest
    | some (none, rest) => scan done fuel rest

def ofText (text : String) : Option (List Token) :=
  let cs := text.toList
  scan [] cs.length cs

end Token

end VirtualUsb
