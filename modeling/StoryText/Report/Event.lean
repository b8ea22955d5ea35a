import StoryText.Text.Digits

namespace StoryText.Report

inductive Event
  | split (count : Nat)
  | tokenized (title : Text) (tokens : Nat)
  | unterminated (title value : Text)
  deriving DecidableEq, Repr

namespace Event

def message : Event → Text
  | split _ => "split passages".toList
  | tokenized _ _ => "tokenized passage".toList
  | unterminated _ _ => "unterminated string".toList

inductive Field
  | number (n : Nat)
  | text (t : Text)

def fields : Event → List (Text × Field)
  | split count => [("count".toList, .number count)]
  | tokenized title tokens => [("passage".toList, .text title), ("tokens".toList, .number tokens)]
  | unterminated title value => [("passage".toList, .text title), ("value".toList, .text value)]

def isWarning : Event → Bool
  | unterminated _ _ => true
  | _ => false

end Event

/-- Something computed together with the events on the way to it. A failure keeps the events before
it. -/
structure Traced (ε α : Type) where
  events : List Event
  result : Except ε α

namespace Traced

variable {ε α β : Type}

def pure (a : α) : Traced ε α := ⟨[], .ok a⟩

def emit (e : Event) : Traced ε Unit := ⟨[e], .ok ()⟩

def bind (x : Traced ε α) (f : α → Traced ε β) : Traced ε β :=
  match x.result with
  | .error e => ⟨x.events, .error e⟩
  | .ok a => ⟨x.events ++ (f a).events, (f a).result⟩

instance : Monad (Traced ε) where
  pure := Traced.pure
  bind := Traced.bind

@[simp]
theorem bind_ok (es : List Event) (a : α) (f : α → Traced ε β) :
    (⟨es, .ok a⟩ : Traced ε α) >>= f = ⟨es ++ (f a).events, (f a).result⟩ := rfl

@[simp]
theorem bind_error (es : List Event) (e : ε) (f : α → Traced ε β) :
    (⟨es, .error e⟩ : Traced ε α) >>= f = ⟨es, .error e⟩ := rfl

def ofExcept (r : Except ε α) : Traced ε α := ⟨[], r⟩

def mapError {δ : Type} (f : ε → δ) (x : Traced ε α) : Traced δ α := ⟨x.events, x.result.mapError f⟩

end Traced

end StoryText.Report
