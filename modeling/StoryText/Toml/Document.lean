import StoryText.Toml.Stamp
import StoryText.Toml.Values

namespace StoryText.Toml

structure Document where
  fields : Draft.Fields := []
  current : List Text := []

namespace Document

def assign (d : Document) (k : Key) (v : Toml) : Option Document := do
  let fs ← Draft.within .way (fun _ fs => Draft.assign k (.value v) fs) d.current .header d.fields
  some { d with fields := fs }

def openTable (d : Document) (k : Key) : Option Document := do
  some ⟨← Draft.openTable k d.fields, k.way ++ [k.name]⟩

def openItem (d : Document) (k : Key) : Option Document := do
  some ⟨← Draft.openItem k d.fields, k.way ++ [k.name]⟩

def line? (d : Document) (s : Text) : Option (Document × Text) :=
  match skipWhite s with
  | '[' :: '[' :: s => do
    let (k, s) ← key? s
    match s with
    | ']' :: ']' :: s => some (← d.openItem k, ← lineEnd? s)
    | _ => none
  | '[' :: s => do
    let (k, s) ← key? s
    match s with
    | ']' :: s => some (← d.openTable k, ← lineEnd? s)
    | _ => none
  | s =>
    match lineEnd? s with
    | some s => some (d, s)
    | none => do
      let (k, s) ← key? s
      match s with
      | '=' :: s => do
        let (v, s) ← value? (s.length + 1) 0 (skipWhite s)
        some (← d.assign k v, ← lineEnd? s)
      | _ => none

def lines? : Nat → Document → Text → Option Document
  | _, d, [] => some d
  | 0, _, _ => none
  | n + 1, d, s => do
    let (d, s) ← d.line? s
    lines? n d s

end Document

/-- Reads a document: a table, with its tables in the order in which they were opened. A byte order
mark in front is left out, and tables that stand for dates are made dates, even the document. -/
def read? (s : Text) : Option Toml := do
  let s := (Text.after? ['\ufeff'] s).getD s
  let d ← Document.lines? s.length {} s
  dated? (.table (Draft.toFields d.fields))

end StoryText.Toml
