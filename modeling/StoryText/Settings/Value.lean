import StoryText.Toml.Basic

namespace StoryText.Settings

/-- What a setting is before it is decoded, together with the file it came from, if it came from
one. -/
inductive Value
  | null (origin : Option Text)
  | boolean (origin : Option Text) (b : Bool)
  | integer (origin : Option Text) (n : Int)
  | float (origin : Option Text) (x : Binary64)
  | string (origin : Option Text) (t : Text)
  | array (origin : Option Text) (items : List Value)
  | table (origin : Option Text) (fields : List (Text × Value))

namespace Value

def origin : Value → Option Text
  | null o | boolean o _ | integer o _ | float o _ | string o _ | array o _ | table o _ => o

def ofText (t : Text) : Value := string none t

mutual

def ofToml (file : Text) : Toml → Value
  | .string t => string (some file) t
  | .integer n => integer (some file) n
  | .float x => float (some file) x
  | .boolean b => boolean (some file) b
  | .dateTime t => string (some file) t
  | .array items => array (some file) (ofItems file items)
  | .table fields => table (some file) (ofFields file fields)

def ofItems (file : Text) : List Toml → List Value
  | [] => []
  | v :: vs => ofToml file v :: ofItems file vs

def ofFields (file : Text) : List (Text × Toml) → List (Text × Value)
  | [] => []
  | (k, v) :: fs => (k, ofToml file v) :: ofFields file fs

end

abbrev Fields := List (Text × Value)

def fields : Value → Fields
  | table _ fs => fs
  | _ => []

def get? (k : Text) (fs : Fields) : Option Value := (fs.find? fun f => f.1 == k).map Prod.snd

def put (k : Text) (v : Value) : Fields → Fields
  | [] => [(k, v)]
  | f :: fs => if f.1 = k then (k, v) :: fs else f :: put k v fs

theorem get?_put_self (k : Text) (v : Value) (fs : Fields) : get? k (put k v fs) = some v := by
  induction fs with
  | nil => simp [get?, put]
  | cons f fs ih =>
      by_cases h : f.1 = k
      · simp [get?, put, h]
      · simpa [get?, put, h] using ih

theorem get?_put_of_ne {k l : Text} (v : Value) (fs : Fields) (h : l ≠ k) :
    get? l (put k v fs) = get? l fs := by
  induction fs with
  | nil => simp [get?, put, Ne.symm h]
  | cons f fs ih =>
      by_cases hk : f.1 = k
      · simp [get?, put, hk, Ne.symm h]
      · by_cases hl : f.1 = l
        · simp [get?, put, hl, h]
        · simpa [get?, put, hk, hl] using ih

/-- A table with the fields of a value. One that is none gives way to an empty table that no file
holds. -/
def asTable : Value → Option Text × Fields
  | table o fs => (o, fs)
  | _ => (none, [])

def asArray : Value → Option Text × List Value
  | array o vs => (o, vs)
  | _ => (none, [])

end Value

end StoryText.Settings
