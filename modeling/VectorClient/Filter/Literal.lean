import VectorClient.Date.Text
import VectorClient.Number.Text
import VectorClient.Text.Quoted
import VectorClient.Uuid

/-!
# Literals

The values that a target is compared with, and their text in messages.
-/

namespace VectorClient.Filter

open Number

/-- A disc on the globe; the distance is in metres. -/
structure GeoRange where
  latitude : Single
  longitude : Single
  distance : Single
deriving DecidableEq, Repr

inductive Literal
  | text (s : String)
  | int (n : Int64)
  | number (x : Double)
  | boolean (b : Bool)
  | date (d : Date)
  | uuid (id : Uuid)
  | textArray (values : List String)
  | intArray (values : List Int64)
  | numberArray (values : List Double)
  | booleanArray (values : List Bool)
  | dateArray (values : List Date)
  | uuidArray (values : List Uuid)
  | geoRange (range : GeoRange)
deriving DecidableEq, Repr

namespace Literal

def isArray : Literal → Bool
  | .textArray _ | .intArray _ | .numberArray _ | .booleanArray _ | .dateArray _ | .uuidArray _ =>
    true
  | _ => false

def tagged (type value : String) : String := type ++ "(" ++ value ++ ")"

def listed {α : Type} (text : α → String) (values : List α) : String :=
  "[" ++ ", ".intercalate (values.map text) ++ "]"

def numberText (x : Double) : String := x.text .literal

def singleText (x : Single) : String := x.text .literal

def intText (n : Int64) : String := toString n.toInt

def boolText (b : Bool) : String := if b then "true" else "false"

def quoted : Literal → String
  | .text s => tagged "Text" (Text.quoted s)
  | .int n => tagged "Int" (intText n)
  | .number x => tagged "Number" (numberText x)
  | .boolean b => tagged "Boolean" (boolText b)
  | .date d => tagged "Date" d.text
  | .uuid id => tagged "Uuid" id.text
  | .textArray values => tagged "TextArray" (listed Text.quoted values)
  | .intArray values => tagged "IntArray" (listed intText values)
  | .numberArray values => tagged "NumberArray" (listed numberText values)
  | .booleanArray values => tagged "BooleanArray" (listed boolText values)
  | .dateArray values => tagged "DateArray" (listed Date.text values)
  | .uuidArray values => tagged "UuidArray" (listed Uuid.text values)
  | .geoRange g =>
    tagged "GeoRange" ("GeoRange \x7b latitude: " ++ singleText g.latitude ++ ", longitude: " ++
      singleText g.longitude ++ ", distance: " ++ singleText g.distance ++ " \x7d")

end Literal

end VectorClient.Filter
