import VectorClient.Json.Basic
import VectorClient.Number.Text
import VectorClient.Text.Hex

/-!
# JSON text

Compact text: no blanks, and only quotes, backslashes and characters below the space are escaped.
-/

namespace VectorClient.Json

open Number

def escapeChar (c : Char) : List Char :=
  match c with
  | '"' => ['\\', '"']
  | '\\' => ['\\', '\\']
  | '\x08' => ['\\', 'b']
  | '\x0c' => ['\\', 'f']
  | '\n' => ['\\', 'n']
  | '\r' => ['\\', 'r']
  | '\t' => ['\\', 't']
  | c => if c.toNat < 0x20 then ['\\', 'u', '0', '0'] ++ Text.hexByte (UInt8.ofNat c.toNat) else [c]

def quote (s : String) : String :=
  String.ofList (['"'] ++ s.toList.flatMap escapeChar ++ ['"'])

mutual

def text : Json → String
  | .null => "null"
  | .bool b => if b then "true" else "false"
  | .int n => toString n
  | .double x => if x.isFinite then x.text .jsonDouble else "null"
  | .single x => if x.isFinite then x.text .jsonSingle else "null"
  | .string s => quote s
  | .array items => "[" ++ ",".intercalate (itemTexts items) ++ "]"
  | .object entries => "\x7b" ++ ",".intercalate (entryTexts entries) ++ "\x7d"

def itemTexts : List Json → List String
  | [] => []
  | j :: rest => j.text :: itemTexts rest

def entryTexts : List (String × Json) → List String
  | [] => []
  | (key, j) :: rest => (quote key ++ ":" ++ j.text) :: entryTexts rest

end

end VectorClient.Json
