import Mathlib
import StoryText.Settings.Layers

namespace StoryText.Settings

namespace Value

theorem get?_put (l k : Text) (v : Value) (fs : Fields) :
    get? l (put k v fs) = if k = l then some v else get? l fs := by
  split
  · next h => rw [h, get?_put_self]
  · next h => exact get?_put_of_ne v fs (Ne.symm h)

def isTable : Value → Bool
  | table _ _ => true
  | _ => false

def setAll (new fs : Fields) : Fields := new.foldl (fun fs f => setField f.1 f.2 fs) fs

theorem merge_cons (f : Text × Value) (new : Fields) (v : Value) :
    merge (f :: new) v = table v.asTable.1 (setAll (f :: new) v.asTable.2) := by
  induction new generalizing f v with
  | nil => rw [merge, merge]; rfl
  | cons g new ih => rw [merge, ih]; rfl

theorem merge_table (new : Fields) (o : Option Text) (fs : Fields) :
    merge new (table o fs) = table o (setAll new fs) := by
  cases new with
  | nil => rw [merge]; rfl
  | cons f new => rw [merge_cons]; rfl

theorem setPart_child (k : Text) (steps : List Step) (v old : Value) :
    setPart (.child k :: steps) v old =
      table old.asTable.1 (Path.set ⟨k, steps⟩ v old.asTable.2) := by
  cases steps with
  | nil => rw [setPart]; rfl
  | cons x steps => simp only [setPart]; rfl

end Value

open Value (Fields get? put setField setPart merge setAll isTable)

/-- What setting a field, or a part of it, makes of the value that the field has. -/
inductive Edit
  | whole (v : Value)
  | part (x : Step) (steps : List Step) (v : Value)

namespace Edit

def apply (old : Option Value) : Edit → Value
  | whole (.table _ new) => merge new (old.getD (.table none []))
  | whole v => v
  | part x steps v => setPart (x :: steps) v (old.getD (.null none))

def run (es : List Edit) (old : Option Value) : Option Value :=
  es.foldl (fun old e => some (e.apply old)) old

theorem run_append (es fs : List Edit) (old : Option Value) :
    run (es ++ fs) old = run fs (run es old) := List.foldl_append

end Edit

open Edit (run)

def Path.edit? (p : Path) (v : Value) (l : Text) : Option Edit :=
  match p.steps with
  | [] => if p.head.lowercase = l then some (.whole v) else none
  | x :: steps => if p.head = l then some (.part x steps v) else none

theorem setField_eq_put (k : Text) (v : Value) (fs : Fields) :
    setField k v fs = put k.lowercase ((Edit.whole v).apply (get? k.lowercase fs)) fs := by
  cases v with
  | table _ new => rw [setField]; rfl
  | _ => simp only [setField]; rfl

theorem get?_set (l : Text) (p : Path) (v : Value) (fs : Fields) :
    get? l (p.set v fs) = run (p.edit? v l).toList (get? l fs) := by
  obtain ⟨head, steps⟩ := p
  cases steps with
  | nil =>
      simp only [Path.set, Path.edit?, setField_eq_put, Value.get?_put]
      split
      · next h => rw [h]; rfl
      · rfl
  | cons x steps =>
      simp only [Path.set, Path.edit?, Value.get?_put]
      split
      · next h => rw [h]; rfl
      · rfl

namespace Edit

def fields (fs : Fields) : Edit → Fields
  | whole (.table _ new) => setAll new fs
  | part (.child k) steps v => Path.set ⟨k, steps⟩ v fs
  | _ => fs

def inner (l : Text) : Edit → List Edit
  | whole (.table _ new) => new.flatMap fun f => (Path.edit? ⟨f.1, []⟩ f.2 l).toList
  | part (.child k) steps v => (Path.edit? ⟨k, steps⟩ v l).toList
  | _ => []

theorem get?_setAll (l : Text) (new fs : Fields) :
    get? l (setAll new fs) =
      run (new.flatMap fun f => (Path.edit? ⟨f.1, []⟩ f.2 l).toList) (get? l fs) := by
  induction new generalizing fs with
  | nil => rfl
  | cons f new ih =>
      rw [List.flatMap_cons, run_append, ← get?_set]
      exact ih (setField f.1 f.2 fs)

theorem get?_fields (l : Text) (e : Edit) (fs : Fields) :
    get? l (e.fields fs) = run (e.inner l) (get? l fs) := by
  cases e with
  | whole v =>
      cases v with
      | table _ new => exact get?_setAll l new fs
      | _ => rfl
  | part x steps v =>
      cases x with
      | child k => exact get?_set l ⟨k, steps⟩ v fs
      | index _ => rfl

/-- Where an edit puts a table it keeps the fields of a table that is there. -/
theorem apply_of_isTable {e : Edit} (h : (e.apply none).isTable = true) :
    e.apply none = .table none (e.fields []) ∧
      ∀ o fs, e.apply (some (.table o fs)) = .table o (e.fields fs) := by
  cases e with
  | whole v =>
      cases v with
      | table _ new => exact ⟨Value.merge_table new none [], Value.merge_table new⟩
      | _ => cases h
  | part x steps v =>
      cases x with
      | child k =>
          exact ⟨Value.setPart_child k steps v _, fun o fs => Value.setPart_child k steps v _⟩
      | index i =>
          rw [apply, setPart] at h
          cases h

end Edit

namespace Section

def fields (s : Section) (fs : Fields) : Fields := (get? s.key fs).elim [] Value.fields

def value? (s : Section) (fs : Fields) : Option Value := get? s.field (s.fields fs)

def IsTabular (s : Section) (fs : Fields) : Prop := ∀ v ∈ get? s.key fs, v.isTable = true
  deriving Decidable

instance decidableForall (P : Section → Prop) [DecidablePred P] : Decidable (∀ s, P s) :=
  decidable_of_iff (P output ∧ P diagnostics ∧ P tokenizer)
    ⟨fun h s => by cases s <;> simp [h], fun h => ⟨h _, h _, h _⟩⟩

def edits (s : Section) (p : Path) (v : Value) : List Edit :=
  (p.edit? v s.key).toList.flatMap (Edit.inner s.field)

variable {s : Section} {fs : Fields}

theorem IsTabular.exists_table (h : s.IsTabular fs) :
    get? s.key fs = none ∧ s.fields fs = [] ∨
      ∃ o, get? s.key fs = some (.table o (s.fields fs)) := by
  rw [fields]
  cases hs : get? s.key fs with
  | none => exact .inl ⟨rfl, rfl⟩
  | some v =>
      cases v with
      | table o gs => exact .inr ⟨o, rfl⟩
      | _ => cases h _ hs

theorem value?_set {p : Path} {v : Value} (h : s.IsTabular (p.set v [])) (hfs : s.IsTabular fs) :
    s.IsTabular (p.set v fs) ∧ s.value? (p.set v fs) = run (s.edits p v) (s.value? fs) := by
  rw [IsTabular, get?_set] at h
  rw [IsTabular, value?, fields, get?_set, edits]
  cases he : p.edit? v s.key with
  | none => exact ⟨hfs, rfl⟩
  | some e =>
      rw [he] at h
      obtain ⟨hnone, htable⟩ := Edit.apply_of_isTable (h _ rfl)
      obtain ⟨o, ho⟩ : ∃ o, run [e] (get? s.key fs) = some (.table o (e.fields (s.fields fs))) := by
        rcases hfs.exists_table with ⟨hs, hempty⟩ | ⟨o, hs⟩
        · exact ⟨none, by rw [hs, hempty, ← hnone]; rfl⟩
        · exact ⟨o, by rw [hs, ← htable]; rfl⟩
      rw [Option.toList_some, ho]
      refine ⟨fun w hw => ?_, ?_⟩
      · obtain rfl := Option.some.inj hw
        rfl
      · rw [List.flatMap_singleton, value?, ← Edit.get?_fields]
        rfl

end Section

def pathOf (k : Text) : Path := (Path.ofText k).toOption.getD ⟨k, []⟩

theorem addFields_cons (f : Text × Value) (new fs : Fields) :
    addFields (f :: new) fs = addFields new ((pathOf f.1).set f.2 fs) := by
  rw [addFields, List.foldl_cons, addFields, pathOf]
  cases Path.ofText f.1 <;> rfl

/-- No field of a file puts anything but a table in the place of a section. -/
def AreTabular (new : Fields) : Prop := ∀ f ∈ new, ∀ s : Section, s.IsTabular (addFields [f] [])
  deriving Decidable

namespace Section

variable {s : Section}

theorem exists_edits {new : Fields} (h : AreTabular new) (s : Section) :
    ∃ es, ∀ fs, s.IsTabular fs →
      s.IsTabular (addFields new fs) ∧ s.value? (addFields new fs) = run es (s.value? fs) := by
  induction new with
  | nil => exact ⟨[], fun fs hfs => ⟨hfs, rfl⟩⟩
  | cons f new ih =>
      rw [AreTabular, List.forall_mem_cons] at h
      obtain ⟨es, hes⟩ := ih h.2
      refine ⟨s.edits (pathOf f.1) f.2 ++ es, fun fs hfs => ?_⟩
      have hf : s.IsTabular ((pathOf f.1).set f.2 []) := by
        have := h.1 s
        rwa [addFields_cons] at this
      obtain ⟨htable, hvalue⟩ := value?_set hf hfs
      rw [addFields_cons, Edit.run_append, ← hvalue]
      exact hes _ htable

end Section

end StoryText.Settings
