import StoryText.Proofs.Settings.Loading
import StoryText.Proofs.Settings.Overlay

namespace StoryText.Settings

open Files (Tree)
open Value (Fields)
open Edit (run)

namespace Section

variable {s : Section} {fs : Fields} {v : Value} {S : Settings}

def name (s : Section) : Text := s.key ++ '.' :: s.field

def path (s : Section) : Path := ⟨s.key, [.child s.field]⟩

theorem ofText_name (s : Section) : Path.ofText s.name = .ok s.path := by
  cases s <;> rfl

theorem key_inj {s s' : Section} : s.key = s'.key ↔ s = s' := by
  cases s <;> cases s' <;> decide

theorem path_inj {s s' : Section} : s.path = s'.path ↔ s = s' :=
  ⟨fun h => key_inj.mp (congrArg Path.head h), congrArg path⟩

theorem lowercase_field (s : Section) : s.field.lowercase = s.field := by
  cases s <;> decide +kernel

theorem edit?_path (s s' : Section) (v : Value) :
    s'.path.edit? v s.key = if s' = s then some (.part (.child s'.field) [] v) else none := by
  simp only [Path.edit?, path, key_inj]

theorem edits_path (s s' : Section) (v : Value) :
    s.edits s'.path v = if s' = s then [.whole v] else [] := by
  rw [edits, edit?_path]
  split
  · next h =>
      subst h
      have hfield : Path.edit? ⟨s'.field, []⟩ v s'.field = some (.whole v) :=
        if_pos s'.lowercase_field
      rw [Option.toList_some, List.flatMap_singleton, Edit.inner, hfield, Option.toList_some]
  · rfl

theorem isTabular_nil (s : Section) : s.IsTabular [] := by
  intro v hv
  cases hv

theorem isTabular_set_path (s s' : Section) (v : Value) : s.IsTabular (s'.path.set v []) := by
  intro w hw
  rw [get?_set, edit?_path] at hw
  split at hw
  · obtain rfl : _ = w := Option.some.inj hw
    rfl
  · cases hw

theorem value?_set_path (s : Section) (v : Value) :
    s.value? (s.path.set v []) = run [.whole v] none := by
  rw [(value?_set (s.isTabular_set_path s v) s.isTabular_nil).2, edits_path, if_pos rfl]
  rfl

theorem find_of_value? (hfs : s.IsTabular fs) (h : s.value? fs = some v) :
    s.find fs = .ok (some (s.name, v)) := by
  rcases hfs.exists_table with ⟨-, hs⟩ | ⟨o, hs⟩
  · rw [value?, hs] at h
    cases h
  · rw [value?] at h
    rw [find, hs]
    simp only [h]
    rfl

theorem require_of_value? (hfs : s.IsTabular fs) (h : s.value? fs = some v) :
    s.require fs = .ok (s.name, v) := by
  rw [require, find_of_value? hfs h]
  rfl

end Section

theorem reads_of_decode {fs : Fields} {v : Section → Value} {S : Settings}
    (hfs : ∀ s : Section, s.IsTabular fs) (hv : ∀ s : Section, s.value? fs = some (v s))
    (h : decode fs = .ok S) (s : Section) : s.Reads (v s) S := by
  rw [decode, Section.require_of_value? (hfs .output) (hv .output),
    Section.require_of_value? (hfs .diagnostics) (hv .diagnostics),
    Section.find_of_value? (hfs .tokenizer) (hv .tokenizer)] at h
  change (do
    let format ← (v .output).text _
    let policy ← (v .diagnostics).policy
    let macroNames ← (v .tokenizer).switch _
    .ok ⟨format, policy, macroNames⟩) = Except.ok S at h
  obtain ⟨format, hformat, h⟩ := Result.bind_eq_ok_iff.mp h
  obtain ⟨policy, hpolicy, h⟩ := Result.bind_eq_ok_iff.mp h
  obtain ⟨macroNames, hmacro, h⟩ := Result.bind_eq_ok_iff.mp h
  obtain rfl : ⟨format, policy, macroNames⟩ = S := Except.ok.inj h
  cases s with
  | output => exact ⟨_, hformat⟩
  | diagnostics => exact hpolicy
  | tokenizer => exact ⟨_, hmacro⟩

inductive Call
  | directory (dir : Text)
  | file (path : Text)
  | flags (format : Option Text) (macroNames : Bool)
  | override (s : Section) (v : Value)

namespace Call

def apply (ls : Layers) : Call → Except Error Layers
  | directory dir => .ok (ls.withDirectory dir)
  | file path => .ok (ls.withFile path)
  | flags format macroNames => .ok (ls.withFlags format macroNames)
  | override s v => ls.withOverride s.name v

def layers : Call → List Layer
  | directory dir => (Layers.withDirectory {} dir).files
  | file path => (Layers.withFile {} path).files
  | _ => []

def override? (s : Section) : Call → Option Value
  | flags format macroNames =>
    match s with
    | .output => format.map .ofText
    | .diagnostics => none
    | .tokenizer => if macroNames then some (.boolean none true) else none
  | override s' v => if s' = s then some v else none
  | _ => none

end Call

def Layers.after (ls : Layers) (calls : List Call) : Except Error Layers :=
  calls.foldlM Call.apply ls

def valuesAt (s : Section) (os : List (Path × Value)) : List Value :=
  (os.filter fun o => o.1 = s.path).map Prod.snd

theorem valuesAt_cons (s : Section) (o : Path × Value) (os : List (Path × Value)) :
    valuesAt s (o :: os) = if o.1 = s.path then o.2 :: valuesAt s os else valuesAt s os := by
  rw [valuesAt, List.filter_cons]
  by_cases h : o.1 = s.path <;> simp [h, valuesAt]

theorem valuesAt_path_cons (s s' : Section) (v : Value) (os : List (Path × Value)) :
    valuesAt s ((s'.path, v) :: os) =
      if s' = s then v :: valuesAt s os else valuesAt s os := by
  simp only [valuesAt_cons, Section.path_inj]

theorem valuesAt_putOverride {s : Section} {os : List (Path × Value)}
    (h : (valuesAt s os).length ≤ 1) (s' : Section) (v : Value) :
    valuesAt s (Layers.putOverride s'.path v os) = if s' = s then [v] else valuesAt s os := by
  induction os with
  | nil => exact valuesAt_path_cons s s' v []
  | cons o os ih =>
      obtain ⟨p, w⟩ := o
      rw [Layers.putOverride]
      split
      · next hp =>
          obtain rfl : p = s'.path := hp
          rw [valuesAt_path_cons] at h ⊢
          rw [valuesAt_path_cons]
          split
          · next hs =>
              rw [if_pos hs, List.length_cons] at h
              rw [List.length_eq_zero_iff.mp (by omega : (valuesAt s os).length = 0)]
          · rfl
      · next hp =>
          rw [valuesAt_cons] at h ⊢
          rw [valuesAt_cons]
          split
          · next hs =>
              have hne : s' ≠ s := fun he => hp (he ▸ hs)
              rw [if_pos hs, List.length_cons] at h
              rw [ih (by omega), if_neg hne, if_neg hne]
          · next hs =>
              rw [if_neg hs] at h
              exact ih h

theorem mem_putOverride {p : Path} {v : Value} {o : Path × Value} {os : List (Path × Value)}
    (h : o ∈ Layers.putOverride p v os) : o = (p, v) ∨ o ∈ os := by
  induction os with
  | nil => exact .inl (List.mem_singleton.mp h)
  | cons o' os ih =>
      rw [Layers.putOverride] at h
      split at h
      · exact (List.mem_cons.mp h).imp_right fun h => List.mem_cons_of_mem _ h
      · rcases List.mem_cons.mp h with rfl | h
        · exact .inr List.mem_cons_self
        · exact (ih h).imp_right fun h => List.mem_cons_of_mem _ h

/-- What is set by hand, at most one value for a section. -/
structure Sets (os : List (Path × Value)) (set : Section → Option Value) : Prop where
  values : ∀ s, valuesAt s os = (set s).toList
  paths : ∀ o ∈ os, ∃ s : Section, o.1 = s.path

namespace Sets

variable {os : List (Path × Value)} {set : Section → Option Value}

theorem congr {set' : Section → Option Value} (h : Sets os set) (hs : ∀ s, set' s = set s) :
    Sets os set' := by
  rwa [funext hs]

theorem putOverride (h : Sets os set) (s' : Section) (v : Value) :
    Sets (Layers.putOverride s'.path v os) fun s =>
      (if s' = s then some v else none).or (set s) := by
  refine ⟨fun s => ?_, fun o ho => ?_⟩
  · have hlength : (valuesAt s os).length ≤ 1 := by
      rw [h.values]
      cases set s <;> simp
    rw [valuesAt_putOverride hlength, h.values]
    split <;> rfl
  · rcases mem_putOverride ho with rfl | ho
    · exact ⟨s', rfl⟩
    · exact h.paths o ho

theorem value?_edited (h : Sets os set) (s : Section) {fs : Fields} (hfs : s.IsTabular fs) :
    s.IsTabular (edited os fs) ∧
      s.value? (edited os fs) = run ((set s).toList.map .whole) (s.value? fs) := by
  have hpaths := h.paths
  rw [← h.values s]
  clear h
  induction os generalizing fs with
  | nil => exact ⟨hfs, rfl⟩
  | cons o os ih =>
      rw [List.forall_mem_cons] at hpaths
      obtain ⟨p, v⟩ := o
      obtain ⟨s', rfl⟩ : ∃ s' : Section, p = s'.path := hpaths.1
      obtain ⟨htable, hvalue⟩ := Section.value?_set (s.isTabular_set_path s' v) hfs
      obtain ⟨hrest, hresult⟩ := ih htable hpaths.2
      refine ⟨hrest, hresult.trans ?_⟩
      rw [hvalue, Section.edits_path, valuesAt_path_cons]
      split <;> rfl

end Sets

section

variable {ls : Layers} {set : Section → Option Value}

theorem Layers.sets_withFlags (h : Sets ls.overrides set) (format : Option Text)
    (macroNames : Bool) : Sets (ls.withFlags format macroNames).overrides fun s =>
      ((Call.flags format macroNames).override? s).or (set s) := by
  have hon (os : List (Path × Value)) (set : Section → Option Value) (h : Sets os set) :=
    h.putOverride .tokenizer (.boolean none true)
  cases format with
  | none =>
      cases macroNames with
      | false => exact h.congr fun s => by cases s <;> rfl
      | true => exact (hon _ _ h).congr fun s => by cases s <;> rfl
  | some t =>
      have ht := h.putOverride .output (.ofText t)
      cases macroNames with
      | false => exact ht.congr fun s => by cases s <;> rfl
      | true => exact (hon _ _ ht).congr fun s => by cases s <;> rfl

theorem Call.exists_apply (h : Sets ls.overrides set) (c : Call) :
    ∃ ls', c.apply ls = .ok ls' ∧ ls'.files = ls.files ++ c.layers ∧
      Sets ls'.overrides fun s => (c.override? s).or (set s) := by
  cases c with
  | directory dir => exact ⟨_, rfl, rfl, h⟩
  | file path => exact ⟨_, rfl, rfl, h⟩
  | flags format macroNames =>
      exact ⟨_, rfl, (List.append_nil _).symm, Layers.sets_withFlags h format macroNames⟩
  | override s' v =>
      refine ⟨{ ls with overrides := Layers.putOverride s'.path v ls.overrides }, ?_,
        (List.append_nil _).symm, h.putOverride s' v⟩
      rw [apply, Layers.withOverride, Section.ofText_name]

theorem getLast?_filterMap_cons {α β : Type} (f : α → Option β) (a : α) (l : List α) :
    ((a :: l).filterMap f).getLast? = (l.filterMap f).getLast?.or (f a) := by
  rw [List.filterMap_cons]
  cases f a with
  | none => rw [Option.or_none]
  | some b =>
      rw [List.getLast?_cons]
      cases (l.filterMap f).getLast? <;> rfl

def lastOverride? (calls : List Call) (s : Section) : Option Value :=
  (calls.filterMap (Call.override? s)).getLast?

theorem Layers.exists_after (h : Sets ls.overrides set) (calls : List Call) :
    ∃ ls', ls.after calls = .ok ls' ∧ ls'.files = ls.files ++ calls.flatMap Call.layers ∧
      Sets ls'.overrides fun s => (lastOverride? calls s).or (set s) := by
  induction calls generalizing ls set with
  | nil => exact ⟨ls, rfl, (List.append_nil _).symm, h⟩
  | cons c calls ih =>
      obtain ⟨ls₁, hc, hfiles₁, h₁⟩ := c.exists_apply h
      obtain ⟨ls₂, hcalls, hfiles₂, h₂⟩ := ih h₁
      refine ⟨ls₂, ?_, ?_, h₂.congr fun s => ?_⟩
      · rw [after, List.foldlM_cons, hc]
        exact hcalls
      · rw [hfiles₂, hfiles₁, List.append_assoc, List.flatMap_cons]
      · rw [lastOverride?, getLast?_filterMap_cons, Option.or_assoc, lastOverride?]

end

/-- What fields give for a section. A table without fields counts as nothing. -/
def Section.given? (s : Section) (fs : Fields) : Option Value :=
  (s.value? fs).filter fun v => !v.isVoid

/-- What is set by hand for a section: the last value counts. -/
def handGiven? (calls : List Call) (s : Section) : Option Value :=
  (lastOverride? calls s).bind fun v => s.given? (s.path.set v [])

def Layer.given? (t : Tree) (s : Section) (l : Layer) : Option Value :=
  (l.load t).toOption.bind fun new => s.given? (addFields new [])

/-- What files give for a section: the last one that can be loaded and gives anything counts. -/
def fileGiven? (t : Tree) (ls : List Layer) (s : Section) : Option Value :=
  (ls.filterMap (Layer.given? t s)).getLast?

section

variable {t : Tree} {s : Section} {S : Settings} {fs : Fields} {v : Value}

theorem reads_edits (es : List Edit) (s : Section) (v : Value) :
    ∃ w, run es (some v) = some w ∧
      ∀ S, s.Reads w S → s.Reads (((run es none).filter fun w => !w.isVoid).getD v) S := by
  have hsilent : Over v none v := .silent
  obtain ⟨w, hw, hover⟩ := hsilent.exists_run es
  exact ⟨w, hw, fun S => Section.Reads.of_over hover⟩

theorem reads_addFields {new : Fields} (hnew : AreTabular new) (hfs : s.IsTabular fs)
    (hv : s.value? fs = some v) :
    s.IsTabular (addFields new fs) ∧ ∃ w, s.value? (addFields new fs) = some w ∧
      ∀ S, s.Reads w S → s.Reads ((s.given? (addFields new [])).getD v) S := by
  obtain ⟨es, hes⟩ := Section.exists_edits hnew s
  obtain ⟨htable, hvalue⟩ := hes fs hfs
  have hown : s.value? (addFields new []) = run es none := (hes [] s.isTabular_nil).2
  rw [Section.given?, hown, hvalue, hv]
  exact ⟨htable, reads_edits es s v⟩

theorem Section.Reads.getD {o : Option Value} {w : Value} (h : s.Reads (o.getD v) S)
    (hv : s.Reads v S → s.Reads w S) : s.Reads (o.getD w) S := by
  cases o with
  | none => exact hv h
  | some _ => exact h

theorem reads_stacked {ls : List Layer} {news : List Fields}
    (hnews : List.Forall₂ (Layer.Gives t) ls news)
    (hls : ∀ l ∈ ls, ∀ new, l.load t = .ok new → AreTabular new) (hfs : s.IsTabular fs)
    (hv : s.value? fs = some v) :
    s.IsTabular (stacked news fs) ∧ ∃ w, s.value? (stacked news fs) = some w ∧
      ∀ S, s.Reads w S → s.Reads ((fileGiven? t ls s).getD v) S := by
  induction hnews generalizing fs v with
  | nil => exact ⟨hfs, v, hv, fun S h => h⟩
  | @cons l new ls news hnew hnews ih =>
      rw [List.forall_mem_cons] at hls
      have hload := hnew.load
      obtain ⟨htable, w, hw, hreads⟩ := reads_addFields (hls.1 new hload) hfs hv
      obtain ⟨hfinal, w', hw', hreads'⟩ := ih hls.2 htable hw
      refine ⟨hfinal, w', hw', fun S hS => ?_⟩
      have hgiven : l.given? t s = s.given? (addFields new []) := by
        rw [Layer.given?, hload]
        rfl
      rw [fileGiven?, getLast?_filterMap_cons, Option.getD_or, hgiven]
      exact (hreads' S hS).getD (hreads S)

theorem reads_edited {os : List (Path × Value)} {calls : List Call}
    (hos : Sets os (lastOverride? calls)) (hfs : s.IsTabular fs) (hv : s.value? fs = some v) :
    s.IsTabular (edited os fs) ∧ ∃ w, s.value? (edited os fs) = some w ∧
      ∀ S, s.Reads w S → s.Reads ((handGiven? calls s).getD v) S := by
  obtain ⟨htable, hvalue⟩ := hos.value?_edited s hfs
  refine ⟨htable, ?_⟩
  rw [hvalue, hv, handGiven?]
  cases lastOverride? calls s with
  | none => exact ⟨v, rfl, fun S h => h⟩
  | some u =>
      rw [Option.bind_some, Section.given?, Section.value?_set_path]
      exact reads_edits [.whole u] s v

theorem isTabular_defaults (s : Section) : s.IsTabular defaults := by
  intro v hv
  cases s <;> obtain rfl := Option.some.inj hv <;> rfl

theorem exists_default (s : Section) :
    ∃ v, s.value? defaults = some v ∧ s.given? defaults = some v := by
  cases s <;> exact ⟨_, rfl, rfl⟩

theorem or_or_some (a b : Option Value) (v : Value) :
    a.or (b.or (some v)) = some (a.getD (b.getD v)) := by
  cases a <;> cases b <;> rfl

theorem reads_of_build {ls : Layers} {calls : List Call}
    (h : ∀ l ∈ ls.files, ∀ new, l.load t = .ok new → AreTabular new)
    (hos : Sets ls.overrides (lastOverride? calls)) (hbuild : ls.build t = .ok S) (s : Section) :
    ∃ v, (handGiven? calls s).or ((fileGiven? t ls.files s).or (s.given? defaults)) = some v ∧
      s.Reads v S := by
  obtain ⟨news, hnews, hdecode⟩ := Layers.build_eq_ok_iff.mp hbuild
  have hlayers (s : Section) : s.IsTabular (edited ls.overrides (stacked news defaults)) ∧
      ∃ w, s.value? (edited ls.overrides (stacked news defaults)) = some w ∧
        (s.Reads w S → ∃ v, (handGiven? calls s).or
          ((fileGiven? t ls.files s).or (s.given? defaults)) = some v ∧ s.Reads v S) := by
    obtain ⟨d, hd, hgiven⟩ := exists_default s
    obtain ⟨htable, u, hu, hfile⟩ := reads_stacked hnews h (isTabular_defaults s) hd
    obtain ⟨hfinal, w, hw, hhand⟩ := reads_edited hos htable hu
    refine ⟨hfinal, w, hw, fun hS => ⟨_, ?_, (hhand S hS).getD (hfile S)⟩⟩
    rw [hgiven, or_or_some]
  choose w hw hreads using fun s => (hlayers s).2
  exact hreads s (reads_of_decode (fun s => (hlayers s).1) hw hdecode s)

theorem Layers.exists_after_empty (calls : List Call) : ∃ ls, after {} calls = .ok ls ∧
    ls.files = calls.flatMap Call.layers ∧ Sets ls.overrides (lastOverride? calls) := by
  have hempty : Sets ({} : Layers).overrides fun _ => none :=
    ⟨fun _ => rfl, fun o ho => absurd ho List.not_mem_nil⟩
  obtain ⟨ls, hcalls, hfiles, hsets⟩ := exists_after hempty calls
  exact ⟨ls, hcalls, hfiles, hsets.congr fun s => Option.or_none.symm⟩

/-- Each setting is the last one set by hand, or else that of the last file that gives it, or else
the default, whatever the order of the calls. To set a table without fields counts as giving
nothing, though by hand it takes the place of what was set before. -/
theorem build_precedence (t : Tree) (calls : List Call)
    (h : ∀ l ∈ calls.flatMap Call.layers, ∀ new, l.load t = .ok new → AreTabular new) :
    ∃ ls, Layers.after {} calls = .ok ls ∧ ∀ S, ls.build t = .ok S → ∀ s : Section, ∃ v,
      (handGiven? calls s).or
        ((fileGiven? t (calls.flatMap Call.layers) s).or (s.given? defaults)) = some v ∧
      s.Reads v S := by
  obtain ⟨ls, hcalls, hfiles, hos⟩ := Layers.exists_after_empty calls
  rw [← hfiles] at h ⊢
  exact ⟨ls, hcalls, fun S hbuild => reads_of_build h hos hbuild⟩

/-- A value set by hand stays above a file that comes later, and a switch that is not given turns
nothing off. -/
theorem build_precedence_mixed :
    let file := "output.format = 'token-json'\ndiagnostics.unterminated_strings = 'Error'".toList
    let t : Tree := ⟨[(["u.toml".toList], .file (.text file))]⟩
    let calls : List Call := [.flags none true, .override .output (.ofText "passage-json".toList),
      .file "u.toml".toList, .flags none false]
    (∀ l ∈ calls.flatMap Call.layers, ∀ new, l.load t = .ok new → AreTabular new) ∧
      ∃ ls, Layers.after {} calls = .ok ls ∧
        ls.build t = .ok ⟨"passage-json".toList, .error, true⟩ ∧
        ∀ s : Section, ∃ v, (handGiven? calls s).or
          ((fileGiven? t (calls.flatMap Call.layers) s).or (s.given? defaults)) = some v ∧
          s.Reads v ⟨"passage-json".toList, .error, true⟩ := by
  intro file t calls
  have h : ∀ l ∈ calls.flatMap Call.layers, ∀ new, l.load t = .ok new → AreTabular new := by
    decide +kernel
  obtain ⟨ls, hcalls, hreads⟩ := build_precedence t calls h
  have hbuild : (Layers.after {} calls).bind (Layers.build t) =
      .ok ⟨"passage-json".toList, .error, true⟩ := by
    decide +kernel
  rw [hcalls] at hbuild
  exact ⟨h, ls, hcalls, hbuild, hreads _ hbuild⟩

/-- The last file defines the format by a table without fields, which is no text, and the default
stays. -/
theorem build_void_field :
    let l : Layer := ⟨"u.toml".toList, true⟩
    let t : Tree := ⟨[(["u.toml".toList], .file (.text "[output]\nformat = {}".toList))]⟩
    ∃ new v, l.load t = .ok new ∧ AreTabular new ∧
      Section.output.value? (addFields new []) = some v ∧
      Layers.after {} [.file l.path] = .ok { files := [l] } ∧
      Layers.build t { files := [l] } = .ok ⟨"token-log".toList, .warn, false⟩ ∧
      ∀ S, ¬ Section.output.Reads v S := by
  intro l t
  have hload : ((l.load t).toOption.any fun new => decide (AreTabular new) &&
      (Section.output.value? (addFields new [])).any Value.isVoid) = true := by
    decide +kernel
  have hbuild : Layers.build t { files := [l] } = .ok ⟨"token-log".toList, .warn, false⟩ := by
    decide +kernel
  cases hnew : l.load t with
  | error e =>
      rw [hnew] at hload
      cases hload
  | ok new =>
      rw [hnew] at hload
      obtain ⟨htable, hvoid⟩ := (Bool.and_eq_true _ _).mp hload
      obtain ⟨v, hv, hvoid⟩ := (Option.any_eq_true _ _).mp hvoid
      refine ⟨new, v, rfl, of_decide_eq_true htable, hv, rfl, hbuild, fun S => ?_⟩
      exact Section.not_reads_void hvoid

end

end StoryText.Settings
