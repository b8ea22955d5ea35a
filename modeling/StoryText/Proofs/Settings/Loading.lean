import StoryText.Proofs.Result
import StoryText.Settings.Layers

namespace StoryText.Settings

open Files (Fault Tree)
open Value (Fields)

namespace Layer

/-- What a file of settings gives: the fields of its text, or nothing where it need not be there. -/
inductive Gives (t : Tree) (l : Layer) : Fields → Prop
  | fields {p source : Text} {fs : List (Text × Toml)} (hp : find? t l.path = some p)
      (hs : t.read p = .ok source) (hfs : Toml.read? source = some (.table fs)) :
      Gives t l (Value.ofFields (tidy p) fs)
  | absent (hl : l.required = false) (hp : find? t l.path = none) : Gives t l []
  | unreadable (hl : l.required = false) {p : Text} {fault : Fault}
      (hp : find? t l.path = some p) (hs : t.read p = .error fault) : Gives t l []

/-- A file of settings cannot be loaded. Where it need not be there, only a bad text is a failure. -/
inductive Fails (t : Tree) (l : Layer) : Prop
  | missing (hl : l.required = true) (hp : find? t l.path = none)
  | unreadable (hl : l.required = true) {p : Text} {fault : Fault}
      (hp : find? t l.path = some p) (hs : t.read p = .error fault)
  | malformed {p source : Text} (hp : find? t l.path = some p) (hs : t.read p = .ok source)
      (hfs : ∀ fs, Toml.read? source ≠ some (.table fs))

variable {t : Tree} {l : Layer} {new : Fields}

theorem gives_or_fails (t : Tree) (l : Layer) : (∃ new, l.Gives t new) ∨ l.Fails t := by
  cases hp : find? t l.path with
  | none =>
      cases hl : l.required with
      | false => exact .inl ⟨[], .absent hl hp⟩
      | true => exact .inr (.missing hl hp)
  | some p =>
      cases hs : t.read p with
      | error fault =>
          cases hl : l.required with
          | false => exact .inl ⟨[], .unreadable hl hp hs⟩
          | true => exact .inr (.unreadable hl hp hs)
      | ok source =>
          by_cases hfs : ∃ fs, Toml.read? source = some (.table fs)
          · obtain ⟨fs, hfs⟩ := hfs
            exact .inl ⟨_, .fields hp hs hfs⟩
          · exact .inr (.malformed hp hs (not_exists.mp hfs))

theorem Gives.load (h : l.Gives t new) : l.load t = .ok new := by
  cases h with
  | fields hp hs hfs => simp only [Layer.load, hp, hs, hfs]
  | absent hl hp => simp [Layer.load, hp, hl]
  | unreadable hl hp hs => simp [Layer.load, hp, hs, hl]

theorem Fails.load (h : l.Fails t) : ∃ e, l.load t = .error e := by
  cases h with
  | missing hl hp => exact ⟨.notFound l.path, by simp [Layer.load, hp, hl]⟩
  | @unreadable hl p fault hp hs => exact ⟨.unreadable fault, by simp [Layer.load, hp, hs, hl]⟩
  | @malformed p source hp hs hfs =>
      simp only [Layer.load, hp, hs]
      cases hread : Toml.read? source with
      | none => exact ⟨_, rfl⟩
      | some v =>
          cases v with
          | table fs => exact absurd hread (hfs fs)
          | _ => exact ⟨_, rfl⟩

theorem load_eq_ok_iff : l.load t = .ok new ↔ l.Gives t new := by
  refine ⟨fun h => ?_, Gives.load⟩
  rcases gives_or_fails t l with ⟨_, hgives⟩ | hfails
  · obtain rfl := Except.ok.inj (hgives.load.symm.trans h)
    exact hgives
  · obtain ⟨e, he⟩ := hfails.load
    rw [he] at h
    cases h

end Layer

def stacked (news : List Fields) (fs : Fields) : Fields :=
  news.foldl (fun fs new => addFields new fs) fs

def edited (os : List (Path × Value)) (fs : Fields) : Fields :=
  os.foldl (fun fs o => o.1.set o.2 fs) fs

namespace Layers

variable {t : Tree}

theorem loadFiles_eq_ok_iff {ls : List Layer} {fs fs' : Fields} :
    loadFiles t ls fs = .ok fs' ↔
      ∃ news, List.Forall₂ (Layer.Gives t) ls news ∧ stacked news fs = fs' := by
  induction ls generalizing fs with
  | nil => simp [loadFiles, stacked]
  | cons l ls ih =>
      rw [loadFiles, Result.bind_eq_ok_iff]
      simp only [Layer.load_eq_ok_iff, ih]
      constructor
      · rintro ⟨new, hnew, news, hnews, h⟩
        exact ⟨new :: news, .cons hnew hnews, h⟩
      · rintro ⟨_, hnews, h⟩
        cases hnews with
        | cons hnew hnews => exact ⟨_, hnew, _, hnews, h⟩

theorem build_eq_ok_iff {ls : Layers} {S : Settings} : ls.build t = .ok S ↔
    ∃ news, List.Forall₂ (Layer.Gives t) ls.files news ∧
      decode (edited ls.overrides (stacked news defaults)) = .ok S := by
  simp only [build, fields, Result.bind_eq_ok_iff, loadFiles_eq_ok_iff, Except.ok.injEq]
  constructor
  · rintro ⟨_, ⟨_, ⟨news, hnews, rfl⟩, rfl⟩, h⟩
    exact ⟨news, hnews, h⟩
  · rintro ⟨news, hnews, h⟩
    exact ⟨_, ⟨_, ⟨news, hnews, rfl⟩, rfl⟩, h⟩

end Layers

end StoryText.Settings
