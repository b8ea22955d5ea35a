import StoryText.Proofs.Report.OpenStrings
import StoryText.Proofs.Result

namespace StoryText

namespace Report

theorem Stage.name_of_ofName? {t : Text} {s : Stage} (h : ofName? t = some s) : s.name = t := by
  rw [ofName?] at h
  simpa using List.find?_some h

theorem Format.name_of_ofName? {t : Text} {f : Format} (h : ofName? t = some f) : f.name = t := by
  rw [ofName?] at h
  simpa using List.find?_some h

namespace Spec

theorem ofName_name (s : Spec) :
    ofName s.name = s.clash?.elim (.ok s) fun only => .error (.onlyWith s.format only) := by
  obtain ⟨stage, format⟩ := s
  cases stage <;> cases format <;> rfl

theorem name_of_ofName {t : Text} {s : Spec} (h : ofName t = .ok s) : s.name = t := by
  obtain ⟨⟨a, b⟩, hcut, h⟩ := Result.bind_eq_ok_iff.mp h
  obtain ⟨stage, hstage, h⟩ := Result.bind_eq_ok_iff.mp h
  obtain ⟨format, hformat, h⟩ := Result.bind_eq_ok_iff.mp h
  have ha := Stage.name_of_ofName? (Result.elim_eq_ok_iff.mp hstage)
  have hb := Format.name_of_ofName? (Result.elim_eq_ok_iff.mp hformat)
  obtain rfl : ⟨stage, format⟩ = s := by
    dsimp only at h
    split at h
    · cases h
    · exact Except.ok.inj h
  obtain ⟨rfl, -⟩ := Text.cut?_eq_some_iff.mp (Result.elim_eq_ok_iff.mp hcut)
  rw [name, ha, hb]

theorem ofName_eq_ok_iff {t : Text} {s : Spec} : ofName t = .ok s ↔ s ∈ available ∧ s.name = t := by
  rw [mem_available_iff]
  constructor
  · intro h
    obtain rfl := name_of_ofName h
    rw [ofName_name] at h
    cases hc : s.clash? with
    | none => exact ⟨rfl, rfl⟩
    | some only => simp [hc] at h
  · rintro ⟨hc, rfl⟩
    rw [ofName_name, hc]
    rfl

theorem exists_ofName_iff {s : Spec} : (∃ t, ofName t = .ok s) ↔ s.clash? = none := by
  simp [ofName_eq_ok_iff, mem_available_iff]

theorem stage_eq_token_iff {s : Spec} {only : Stage} (h : s.clash? = some only) :
    s.stage = .token ↔ s = ⟨.token, .yaml⟩ := by
  obtain ⟨stage, format⟩ := s
  cases stage with
  | passage => simp
  | token =>
      cases format with
      | yaml => simp
      | _ =>
          change none = some only at h
          cases h

end Spec

variable {r : Report} {source : Text}

def IsOpen (r : Report) (source : Text) : Prop :=
  ∃ p ∈ Passage.split source, ∃ v, Token.string v true ∈ Token.tokenize r.macroNames p.content

def IsStopped (r : Report) (source : Text) : Prop :=
  r.spec.stage = .token ∧ r.policy = .error ∧ r.IsOpen source

theorem not_isOpen_iff : ¬ r.IsOpen source ↔
    ∀ p ∈ Passage.split source, openString? (bodyTokens r.macroNames p) = none := by
  rw [IsOpen]
  push Not
  refine forall_congr' fun p => forall_congr' fun _ => ?_
  rw [Option.eq_none_iff_forall_ne_some]
  exact forall_congr' fun v => (not_congr (openString?_eq_some_iff r.macroNames p)).symm

theorem result_of_isStopped (h : r.IsStopped source) :
    ∃ title value, (r.ofSource source).result = .error (.unterminatedString title value) := by
  obtain ⟨hr, hp, ho⟩ := h
  rcases passes_or_first_open r.macroNames (Passage.split source) with
    hn | ⟨before, p, after, v, hs, hb, hv⟩
  · exact absurd ho (not_isOpen_iff.mpr hn)
  · exact ⟨p.title, v, congrArg Traced.result (ofSource_of_fails hr hp hs hb hv)⟩

/-- What is written for a spec: a text, or the error that names the only stage its format can
write. -/
def IsAnswerTo (s : Spec) (x : Except Error Text) : Prop :=
  s.clash?.elim (∃ out, x = .ok out) fun only => x = .error (.unsupported s.format only)

theorem isAnswerTo_writePassages (format : Format) (ps : List Passage) :
    IsAnswerTo ⟨.passage, format⟩ (writePassages format ps) := by
  cases format with
  | log => rfl
  | _ => exact ⟨_, rfl⟩

theorem isAnswerTo_writeTokens (format : Format) (xs : List Scanned) :
    IsAnswerTo ⟨.token, format⟩ (writeTokens format xs) := by
  cases format with
  | yaml => rfl
  | _ => exact ⟨_, rfl⟩

theorem isAnswerTo_result (h : ¬ r.IsStopped source) :
    IsAnswerTo r.spec (r.ofSource source).result := by
  obtain ⟨⟨stage, format⟩, policy, macroNames⟩ := r
  cases stage with
  | passage => exact isAnswerTo_writePassages format (Passage.split source)
  | token =>
      rw [ofSource_of_pass rfl fun hp => not_isOpen_iff.mp fun ho => h ⟨rfl, hp, ho⟩]
      exact isAnswerTo_writeTokens format _

/-- The specs that are read from a name are those that are listed, and of these a report fails only
over an open string. Of any other the report always fails, with the format and stage that reading
its name complains of unless an open string comes first. -/
theorem ofName_iff_written :
    (∀ t : Text, (∃ s, Spec.ofName t = .ok s) ↔ t ∈ Spec.available.map Spec.name) ∧
    (∀ (t : Text) (s : Spec), Spec.ofName t = .ok s → s.name = t) ∧
    ∀ (r : Report) (source : Text),
      let result := (r.ofSource source).result
      let unterminated := ∃ title value, result = .error (.unterminatedString title value)
      ((∃ t, Spec.ofName t = .ok r.spec) →
        (∃ out, result = .ok out) ∨ r.spec.stage = .token ∧ r.policy = .error ∧ unterminated) ∧
      ((¬ ∃ t, Spec.ofName t = .ok r.spec) →
        (r.spec = ⟨.token, .yaml⟩ ∧ r.policy = .error ∧ r.IsOpen source) ∧ unterminated ∨
        ¬ (r.spec = ⟨.token, .yaml⟩ ∧ r.policy = .error ∧ r.IsOpen source) ∧ ∃ only,
          result = .error (.unsupported r.spec.format only) ∧
          Spec.ofName r.spec.name = .error (.onlyWith r.spec.format only)) := by
  refine ⟨fun t => ?_, fun t s => Spec.name_of_ofName, fun r source => ⟨?_, ?_⟩⟩
  · simp only [Spec.ofName_eq_ok_iff, List.mem_map]
  · intro hname
    by_cases hstop : r.IsStopped source
    · exact .inr ⟨hstop.1, hstop.2.1, result_of_isStopped hstop⟩
    · have hanswer := isAnswerTo_result hstop
      rw [IsAnswerTo, Spec.exists_ofName_iff.mp hname] at hanswer
      exact .inl hanswer
  · intro hname
    obtain ⟨only, hclash⟩ := Option.ne_none_iff_exists'.mp (mt Spec.exists_ofName_iff.mpr hname)
    have hyaml : r.IsStopped source ↔
        r.spec = ⟨.token, .yaml⟩ ∧ r.policy = .error ∧ r.IsOpen source :=
      and_congr_left fun _ => Spec.stage_eq_token_iff hclash
    by_cases hstop : r.IsStopped source
    · exact .inl ⟨hyaml.mp hstop, result_of_isStopped hstop⟩
    · have hanswer := isAnswerTo_result hstop
      rw [IsAnswerTo, hclash] at hanswer
      refine .inr ⟨mt hyaml.mpr hstop, only, hanswer, ?_⟩
      rw [Spec.ofName_name, hclash]
      rfl

/-- An open string is found before the format that tokens cannot be written in, and after the check
of the name. -/
theorem ofName_iff_written_open :
    let r : Report := { spec := ⟨.token, .yaml⟩, policy := .error }
    (¬ ∃ t, Spec.ofName t = .ok r.spec) ∧ r.IsOpen ":: A\n'x".toList ∧
      ∃ title value, (r.ofSource ":: A\n'x".toList).result =
        .error (.unterminatedString title value) := by
  intro r
  have hname : ¬ ∃ t, Spec.ofName t = .ok r.spec := by
    rw [Spec.exists_ofName_iff]
    decide
  have hopen : r.IsOpen ":: A\n'x".toList := by
    refine ⟨⟨['A'], [], [], ['\'', 'x'], ['\'', 'x']⟩, by decide +kernel, ['x'], ?_⟩
    rw [Token.tokenize, ← Token.segmentsWithin_eq_segments (Nat.le_refl 2)]
    decide +kernel
  refine ⟨hname, hopen, ?_⟩
  rcases (ofName_iff_written.2.2 r ":: A\n'x".toList).2 hname with ⟨-, h⟩ | ⟨h, -⟩
  · exact h
  · exact absurd ⟨rfl, rfl, hopen⟩ h

end Report

end StoryText
