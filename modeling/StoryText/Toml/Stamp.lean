import StoryText.Toml.DateTime

namespace StoryText.Toml

/-- The name by which the first field of a table says that the table stands for a date or time. -/
def stampName : Text := "$__toml_private_datetime".toList

def stamp? (s : Text) : Option Text :=
  match dateTime? s with
  | some (t, []) => some t
  | _ => none

mutual

/-- The value with a date or time in the place of every table that stands for one. Such a table must
hold a stamp; the fields after the first are left out. -/
def dated? : Toml → Option Toml
  | table ((k, v) :: fs) =>
    if k = stampName then
      match v with
      | string t => (stamp? t).map dateTime
      | _ => none
    else do
      let v ← dated? v
      some (table ((k, v) :: (← datedFields? fs)))
  | array items => (datedItems? items).map array
  | v => some v

def datedItems? : List Toml → Option (List Toml)
  | [] => some []
  | v :: vs => do
    let v ← dated? v
    some (v :: (← datedItems? vs))

def datedFields? : List (Text × Toml) → Option (List (Text × Toml))
  | [] => some []
  | (k, v) :: fs => do
    let v ← dated? v
    some ((k, v) :: (← datedFields? fs))

end

end StoryText.Toml
