import VirtualUsb.Json.Basic
import VirtualUsb.Text.Hex

/-!
# Writing JSON

A value on one line. Quotes, backslashes and control characters are escaped and nothing else, by a
letter where there is one.
-/

namespace VirtualUsb.Json

/-- The characters that are escaped by a letter of their own, with these letters. -/
def letters : List (Char × Char) :=
  [('"', '"'), ('\\', '\\'), ('\x08', 'b'), ('\x0C', 'f'), ('\n', 'n'), ('\r', 'r'), ('\t', 't')]

/-- A character as it stands in a string. -/
def escape (c : Char) : String :=
  match letters.lookup c with
  | some letter => "\\" ++ letter.toString
  | none => if c.toNat < 0x20 then "\\u" ++ Hex.padded 4 c.toNat else c.toString

def quote (s : String) : String := s.foldl (fun out c => out ++ escape c) "\"" ++ "\""

/-- A string with its quotes; one without a text gets the replacement character. -/
def quote? (s : Option String) : String := quote (s.getD "\uFFFD")

def spell : Numeral → String
  | .natural n => toString n
  | .other spelling => spelling

mutual

/-- Writes a value behind a text. -/
def write (out : String) : Json → String
  | null => out ++ "null"
  | bool b => out ++ toString b
  | number n => out ++ spell n
  | string s => out ++ quote? s
  | array items => writeItems (out ++ "[") true items ++ "]"
  | object members => writeMembers (out ++ "\x7b") true members ++ "\x7d"

/-- Writes items with commas between them behind a text. -/
def writeItems (out : String) (first : Bool) : List Json → String
  | [] => out
  | v :: rest => writeItems (write (if first then out else out ++ ",") v) false rest

/-- Writes members with commas between them behind a text. -/
def writeMembers (out : String) (first : Bool) : List (Option String × Json) → String
  | [] => out
  | (k, v) :: rest =>
    writeMembers (write ((if first then out else out ++ ",") ++ quote? k ++ ":") v) false rest

end

/-- A value on one line. -/
def render (v : Json) : String := write "" v

end VirtualUsb.Json
