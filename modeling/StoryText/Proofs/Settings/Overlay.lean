import StoryText.Proofs.Settings.Edits

namespace StoryText.Settings

open Value (Fields put setField setPart merge setAll)
open Edit (run)

namespace Value

def keys (fs : Fields) : List Text := fs.map Prod.fst

@[simp]
theorem keys_nil : keys [] = [] := rfl

@[simp]
theorem keys_cons (f : Text × Value) (fs : Fields) : keys (f :: fs) = f.1 :: keys fs := rfl

theorem mem_keys_put {l k : Text} {v : Value} {fs : Fields} :
    l ∈ keys (put k v fs) ↔ l = k ∨ l ∈ keys fs := by
  induction fs with
  | nil => simp [put]
  | cons f fs ih =>
      rw [put]
      split
      · next h => simp [h]
      · rw [keys_cons, keys_cons, List.mem_cons, List.mem_cons, ih, or_left_comm]

theorem nodup_keys_put {fs : Fields} (h : (keys fs).Nodup) (k : Text) (v : Value) :
    (keys (put k v fs)).Nodup := by
  induction fs with
  | nil => simp [put]
  | cons f fs ih =>
      obtain ⟨hf, hfs⟩ := List.nodup_cons.mp h
      rw [put]
      split
      · next hk =>
          subst hk
          exact h
      · next hk =>
          refine List.nodup_cons.mpr ⟨fun hmem => ?_, ih hfs⟩
          rcases mem_keys_put.mp hmem with hk' | hmem
          · exact hk hk'
          · exact hf hmem

theorem put_ne_nil (k : Text) (v : Value) (fs : Fields) : put k v fs ≠ [] := by
  cases fs with
  | nil => simp [put]
  | cons f fs => rw [put]; split <;> simp

structure Covers (gs hs : Fields) : Prop where
  nodup : (keys gs).Nodup
  subset : keys gs ⊆ keys hs

namespace Covers

variable {gs hs : Fields}

theorem nil (hs : Fields) : Covers [] hs := ⟨List.nodup_nil, List.nil_subset _⟩

theorem put (h : Covers gs hs) (k : Text) (v w : Value) : Covers (put k v gs) (put k w hs) := by
  refine ⟨nodup_keys_put h.nodup k v, fun l hl => ?_⟩
  rw [mem_keys_put] at hl ⊢
  exact hl.imp_right fun hl => h.subset hl

theorem set (h : Covers gs hs) (p : Path) (v : Value) : Covers (p.set v gs) (p.set v hs) := by
  obtain ⟨head, steps⟩ := p
  cases steps with
  | nil =>
      simp only [Path.set, setField_eq_put]
      exact h.put _ _ _
  | cons x steps => exact h.put _ _ _

theorem setAll (h : Covers gs hs) (new : Fields) : Covers (setAll new gs) (setAll new hs) := by
  induction new generalizing gs hs with
  | nil => exact h
  | cons f new ih => exact ih (h.set ⟨f.1, []⟩ f.2)

theorem eq_singleton {name : Text} {v : Value} (h : Covers gs [(name, v)]) (hne : gs ≠ []) :
    ∃ w, gs = [(name, w)] := by
  have hkey : ∀ f ∈ gs, f.1 = name := by
    intro f hf
    simpa using h.subset (List.mem_map_of_mem hf)
  match gs, hne with
  | [f], _ => exact ⟨f.2, by rw [← hkey f (by simp)]⟩
  | f :: g :: gs, _ =>
      have hf : f.1 ∉ keys (g :: gs) := (List.nodup_cons.mp h.nodup).1
      rw [hkey f (by simp), keys_cons, hkey g (by simp)] at hf
      exact absurd List.mem_cons_self hf

end Covers

theorem set_ne_nil (p : Path) (v : Value) (fs : Fields) : p.set v fs ≠ [] := by
  obtain ⟨head, steps⟩ := p
  cases steps with
  | nil =>
      simp only [Path.set, setField_eq_put]
      exact put_ne_nil _ _ _
  | cons x steps => exact put_ne_nil _ _ _

theorem setAll_cons_ne_nil (f : Text × Value) (new fs : Fields) :
    Value.setAll (f :: new) fs ≠ [] := by
  induction new generalizing f fs with
  | nil => exact set_ne_nil ⟨f.1, []⟩ f.2 fs
  | cons g new ih => exact ih g (setField f.1 f.2 fs)

def isVoid : Value → Bool
  | table _ [] => true
  | _ => false

end Value

open Value (Covers isVoid)

def contents (old : Option Value) : Fields := old.elim [] fun v => v.asTable.2

theorem Edit.exists_apply_whole (o : Option Text) (f : Text × Value) (new : Fields)
    (old : Option Value) : ∃ o', (whole (.table o (f :: new))).apply old =
      .table o' (setAll (f :: new) (contents old)) := by
  cases old with
  | none => exact ⟨none, Value.merge_cons f new _⟩
  | some v => exact ⟨v.asTable.1, Value.merge_cons f new v⟩

theorem Edit.exists_apply_child (k : Text) (steps : List Step) (v : Value) (old : Option Value) :
    ∃ o', (part (.child k) steps v).apply old =
      .table o' (Path.set ⟨k, steps⟩ v (contents old)) := by
  cases old with
  | none => exact ⟨none, Value.setPart_child k steps v _⟩
  | some w => exact ⟨w.asTable.1, Value.setPart_child k steps v w⟩

theorem Edit.exists_apply_index (i : Int) (steps : List Step) (v : Value) (old : Option Value) :
    ∃ o' vs, (part (.index i) steps v).apply old = .array o' vs := by
  rw [apply, setPart]
  exact ⟨_, _, rfl⟩

/-- How a value over an old one compares to what the same edits give on their own. -/
inductive Over (old : Value) : Option Value → Value → Prop
  | silent : Over old none old
  | void (o : Option Text) : Over old (some (.table o [])) old
  | same (v : Value) : Over old (some v) v
  | arrays (o o' : Option Text) (vs vs' : List Value) :
      Over old (some (.array o vs)) (.array o' vs')
  | tables (o o' : Option Text) {gs hs : Fields} (hne : gs ≠ []) (h : Covers gs hs) :
      Over old (some (.table o gs)) (.table o' hs)

namespace Over

variable {old v : Value} {own : Option Value}

theorem same_or_covers (h : Over old own v) :
    own = some v ∨ Covers (contents own) (contents (some v)) := by
  cases h with
  | silent | void | arrays => exact .inr (.nil _)
  | same v => exact .inl rfl
  | tables _ _ _ h => exact .inr h

theorem edit (h : Over old own v) (e : Edit) :
    Over old (some (e.apply own)) (e.apply (some v)) := by
  rcases h.same_or_covers with rfl | hcovers
  · exact .same _
  cases e with
  | whole w =>
      cases w with
      | table o new =>
          cases new with
          | nil =>
              cases h with
              | silent => exact .void none
              | void o => exact .void o
              | same v => exact .same v
              | arrays o o' vs vs' => exact .arrays o o' vs vs'
              | tables o o' hne h => exact .tables o o' hne h
          | cons f new =>
              obtain ⟨o₁, h₁⟩ := Edit.exists_apply_whole o f new own
              obtain ⟨o₂, h₂⟩ := Edit.exists_apply_whole o f new (some v)
              rw [h₁, h₂]
              exact .tables o₁ o₂ (Value.setAll_cons_ne_nil f new _) (hcovers.setAll (f :: new))
      | _ => exact .same _
  | part x steps w =>
      cases x with
      | child k =>
          obtain ⟨o₁, h₁⟩ := Edit.exists_apply_child k steps w own
          obtain ⟨o₂, h₂⟩ := Edit.exists_apply_child k steps w (some v)
          rw [h₁, h₂]
          exact .tables o₁ o₂ (Value.set_ne_nil _ _ _) (hcovers.set ⟨k, steps⟩ w)
      | index i =>
          obtain ⟨o₁, vs₁, h₁⟩ := Edit.exists_apply_index i steps w own
          obtain ⟨o₂, vs₂, h₂⟩ := Edit.exists_apply_index i steps w (some v)
          rw [h₁, h₂]
          exact .arrays o₁ o₂ vs₁ vs₂

theorem exists_run (h : Over old own v) (es : List Edit) :
    ∃ w, run es (some v) = some w ∧ Over old (run es own) w := by
  induction es generalizing own v with
  | nil => exact ⟨v, rfl, h⟩
  | cons e es ih => exact ih (h.edit e)

end Over

namespace Section

def Reads : Section → Value → Settings → Prop
  | output, v, S => ∃ key, v.text key = .ok S.format
  | diagnostics, v, S => v.policy = .ok S.policy
  | tokenizer, v, S => ∃ key, v.switch key = .ok S.macroNames

variable {s : Section} {S : Settings}

theorem not_reads_array {o : Option Text} {vs : List Value} : ¬ s.Reads (.array o vs) S := by
  cases s <;> simp [Reads, Value.text, Value.policy, Value.switch]

theorem Reads.of_table {o : Option Text} {fs : Fields} (h : s.Reads (.table o fs) S) :
    s = .diagnostics ∧ ∃ name v, fs = [(name, v)] := by
  cases s with
  | output => simp [Reads, Value.text] at h
  | tokenizer => simp [Reads, Value.switch] at h
  | diagnostics =>
      match fs, h with
      | [(name, v)], _ => exact ⟨rfl, name, v, rfl⟩

theorem not_reads_void {v : Value} (hv : v.isVoid = true) : ¬ s.Reads v S := by
  intro h
  match v, hv with
  | .table o [], _ =>
      obtain ⟨-, name, v, hs⟩ := h.of_table
      cases hs

/-- A value over an old one is read as what is set, if anything is, and else as the old one. -/
theorem Reads.of_over {old v : Value} {own : Option Value} (hv : Over old own v)
    (h : s.Reads v S) : s.Reads ((own.filter fun w => !w.isVoid).getD old) S := by
  cases hv with
  | silent => exact h
  | void => exact h
  | same v =>
      have hvoid : v.isVoid = false := by
        by_contra hne
        exact not_reads_void (by simpa using hne) h
      simpa [Option.filter, hvoid] using h
  | arrays => exact absurd h not_reads_array
  | tables o o' hne hc =>
      obtain ⟨rfl, name, w, rfl⟩ := h.of_table
      obtain ⟨w', rfl⟩ := hc.eq_singleton hne
      exact h

end Section

end StoryText.Settings
