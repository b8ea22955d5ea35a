import StoryText.Proofs.Token.Payload
import StoryText.Report.Basic

namespace StoryText.Report

def openString? (ts : List Token) : Option Text :=
  (ts.getLast?.filter Token.isUnterminated).map Token.value

section

variable (macroNames : Bool) (p : Passage)

def bodyTokens : List Token := Token.tokenize macroNames p.content

def tokenized : Event := .tokenized p.title (bodyTokens macroNames p).length

def warnings : List Event :=
  (openString? (bodyTokens macroNames p)).toList.map (Event.unterminated p.title)

def passed (policy : Policy) : List Event :=
  tokenized macroNames p :: if policy = .warn then warnings macroNames p else []

theorem map_value_filter_isUnterminated :
    ((bodyTokens macroNames p).filter Token.isUnterminated).map Token.value =
      (openString? (bodyTokens macroNames p)).toList := by
  have hlast := Token.filter_eq_of_last (p := Token.isUnterminated)
    (l := bodyTokens macroNames p) fun _ _ _ => Token.tokenize_unterminated_last
  rw [hlast, openString?, Option.toList_map]

theorem openString?_eq_some_iff {v : Text} :
    openString? (bodyTokens macroNames p) = some v ↔
      Token.string v true ∈ bodyTokens macroNames p := by
  constructor
  · intro h
    obtain ⟨t, ht, rfl⟩ := Option.map_eq_some_iff.mp h
    obtain ⟨hl, hu⟩ := Option.filter_eq_some_iff.mp ht
    rw [← Token.eq_string_of_isUnterminated hu]
    exact List.mem_of_getLast? hl
  · intro h
    obtain ⟨before, after, hs⟩ := List.append_of_mem h
    obtain rfl := Token.tokenize_unterminated_last hs rfl
    rw [openString?, hs, List.getLast?_concat]
    rfl

end

variable {r : Report} {p : Passage}

theorem tokensOf_eq (r : Report) (p : Passage) :
    r.tokensOf p = Traced.emit (tokenized r.macroNames p) >>= fun _ =>
      settle r.policy p.title (openString? (bodyTokens r.macroNames p)).toList >>= fun _ =>
        pure (bodyTokens r.macroNames p) := by
  rw [← map_value_filter_isUnterminated]
  rfl

theorem tokensOf_of_passes
    (h : r.policy = .error → openString? (bodyTokens r.macroNames p) = none) :
    r.tokensOf p = ⟨passed r.macroNames p r.policy, .ok (bodyTokens r.macroNames p)⟩ := by
  rw [tokensOf_eq]
  cases hp : r.policy with
  | ignore => rfl
  | warn => simp [Traced.emit, settle, passed, warnings, pure, Traced.pure]
  | error =>
      rw [h hp]
      rfl

theorem tokensOf_of_fails {v : Text} (hp : r.policy = .error)
    (hv : openString? (bodyTokens r.macroNames p) = some v) :
    r.tokensOf p = ⟨[tokenized r.macroNames p], .error (.unterminatedString p.title v)⟩ := by
  rw [tokensOf_eq, hp, hv]
  rfl

theorem scanAll_of_pass {ps : List Passage}
    (h : r.policy = .error → ∀ p ∈ ps, openString? (bodyTokens r.macroNames p) = none) :
    r.scanAll ps = ⟨ps.flatMap fun p => passed r.macroNames p r.policy,
      .ok (ps.map fun p => (p, bodyTokens r.macroNames p))⟩ := by
  induction ps with
  | nil => rfl
  | cons p ps ih =>
      have hp := tokensOf_of_passes fun he => (List.forall_mem_cons.mp (h he)).1
      have hps := ih fun he => (List.forall_mem_cons.mp (h he)).2
      rw [scanAll, hp, hps]
      simp [pure, Traced.pure]

theorem scanAll_of_fails {before : List Passage} {v : Text} (hp : r.policy = .error)
    (hb : ∀ q ∈ before, openString? (bodyTokens r.macroNames q) = none)
    (hv : openString? (bodyTokens r.macroNames p) = some v) (after : List Passage) :
    r.scanAll (before ++ p :: after) = ⟨(before ++ [p]).map (tokenized r.macroNames),
      .error (.unterminatedString p.title v)⟩ := by
  induction before with
  | nil =>
      rw [List.nil_append, scanAll, tokensOf_of_fails hp hv]
      rfl
  | cons q before ih =>
      rw [List.forall_mem_cons] at hb
      have hq := tokensOf_of_passes fun _ => hb.1
      rw [List.cons_append, scanAll, hq, ih hb.2]
      simp [passed, hp]

theorem ofSource_of_pass {source : Text} (hr : r.spec.stage = .token)
    (h : r.policy = .error → ∀ p ∈ Passage.split source,
      openString? (bodyTokens r.macroNames p) = none) :
    r.ofSource source = ⟨.split (Passage.split source).length ::
        (Passage.split source).flatMap fun p => passed r.macroNames p r.policy,
      writeTokens r.spec.format
        ((Passage.split source).map fun p => (p, bodyTokens r.macroNames p))⟩ := by
  simp [ofSource, hr, scanAll_of_pass h, Traced.emit, Traced.ofExcept]

theorem ofSource_of_fails {source : Text} {before after : List Passage} {v : Text}
    (hr : r.spec.stage = .token) (hp : r.policy = .error)
    (hs : Passage.split source = before ++ p :: after)
    (hb : ∀ q ∈ before, openString? (bodyTokens r.macroNames q) = none)
    (hv : openString? (bodyTokens r.macroNames p) = some v) :
    r.ofSource source = ⟨.split (Passage.split source).length ::
        (before ++ [p]).map (tokenized r.macroNames), .error (.unterminatedString p.title v)⟩ := by
  simp [ofSource, hr, hs, scanAll_of_fails hp hb hv after, Traced.emit]

theorem exists_writeTokens {format : Format} (h : format ∈ [.simple, .json, .log])
    (xs : List Scanned) : ∃ out, writeTokens format xs = .ok out := by
  cases format with
  | yaml => simp at h
  | _ => exact ⟨_, rfl⟩

theorem flatMap_passed {policy : Policy} (h : policy ≠ .warn) (macroNames : Bool)
    (ps : List Passage) :
    (ps.flatMap fun p => passed macroNames p policy) = ps.map (tokenized macroNames) := by
  simp only [passed, if_neg h, List.map_eq_flatMap]

theorem passes_or_first_open (macroNames : Bool) (ps : List Passage) :
    (∀ p ∈ ps, openString? (bodyTokens macroNames p) = none) ∨
      ∃ before p after v, ps = before ++ p :: after ∧
        (∀ q ∈ before, openString? (bodyTokens macroNames q) = none) ∧
          openString? (bodyTokens macroNames p) = some v := by
  induction ps with
  | nil => exact .inl (by simp)
  | cons p ps ih =>
      cases hp : openString? (bodyTokens macroNames p) with
      | some v => exact .inr ⟨[], p, ps, v, rfl, by simp, hp⟩
      | none =>
          rcases ih with h | ⟨before, q, after, v, rfl, hb, hv⟩
          · exact .inl (List.forall_mem_cons.mpr ⟨hp, h⟩)
          · exact .inr ⟨p :: before, q, after, v, rfl, List.forall_mem_cons.mpr ⟨hp, hb⟩, hv⟩

/-- A report on tokens is the same text whether open strings are ignored or warned of, with one more
event for each of them. Where they are errors it is that text as well if there is none, and else it
ends with the first one. -/
theorem ofSource_policies (source : Text) (macroNames : Bool) {format : Format}
    (hf : format ∈ [.simple, .json, .log]) :
    let ps := Passage.split source
    let report (policy : Policy) := ofSource { spec := ⟨.token, format⟩, policy, macroNames } source
    ∃ out, writeTokens format (ps.map fun p => (p, bodyTokens macroNames p)) = .ok out ∧
      report .ignore = ⟨.split ps.length :: ps.map (tokenized macroNames), .ok out⟩ ∧
      report .warn = ⟨.split ps.length :: ps.flatMap fun p =>
        tokenized macroNames p :: warnings macroNames p, .ok out⟩ ∧
      ((∀ p ∈ ps, openString? (bodyTokens macroNames p) = none) ∧
          report .error = ⟨.split ps.length :: ps.map (tokenized macroNames), .ok out⟩ ∨
        ∃ before p after v, ps = before ++ p :: after ∧
          (∀ q ∈ before, openString? (bodyTokens macroNames q) = none) ∧
          openString? (bodyTokens macroNames p) = some v ∧
          report .error = ⟨.split ps.length :: (before ++ [p]).map (tokenized macroNames),
            .error (.unterminatedString p.title v)⟩) ∧
      ∀ p v, openString? (bodyTokens macroNames p) = some v ↔
        Token.string v true ∈ bodyTokens macroNames p := by
  intro ps report
  obtain ⟨out, hout⟩ := exists_writeTokens hf (ps.map fun p => (p, bodyTokens macroNames p))
  have hpass (policy : Policy)
      (h : policy = .error → ∀ p ∈ ps, openString? (bodyTokens macroNames p) = none) :
      report policy = ⟨.split ps.length :: ps.flatMap fun p => passed macroNames p policy,
        .ok out⟩ := by
    rw [← hout]
    exact ofSource_of_pass rfl h
  refine ⟨out, hout, ?_, hpass .warn (by simp), ?_, fun p v => openString?_eq_some_iff macroNames p⟩
  · rw [hpass .ignore (by simp), flatMap_passed (by simp)]
  · rcases passes_or_first_open macroNames ps with h | ⟨before, p, after, v, hs, hb, hv⟩
    · exact .inl ⟨h, by rw [hpass .error fun _ => h, flatMap_passed (by simp)]⟩
    · exact .inr ⟨before, p, after, v, hs, hb, hv, ofSource_of_fails rfl rfl hs hb hv⟩

/-- Of two open strings the first one is reported, and the second passage is not looked at. -/
theorem ofSource_policies_first :
    Format.log ∈ [Format.simple, .json, .log] ∧
      ofSource { spec := ⟨.token, .log⟩, policy := .error } ":: A\n'x\n:: B\n'y".toList =
        ⟨[.split 2, .tokenized ['A'] 1], .error (.unterminatedString ['A'] ['x'])⟩ := by
  have hf : Format.log ∈ [Format.simple, .json, .log] := by decide
  have hsplit : Passage.split ":: A\n'x\n:: B\n'y".toList =
      [⟨['A'], [], [], ['\'', 'x'], ['\'', 'x']⟩, ⟨['B'], [], [], ['\'', 'y'], ['\'', 'y']⟩] := by
    decide +kernel
  have hfirst : bodyTokens false ⟨['A'], [], [], ['\'', 'x'], ['\'', 'x']⟩ =
      [.string ['x'] true] := by
    rw [bodyTokens, Token.tokenize, ← Token.segmentsWithin_eq_segments (Nat.le_refl 2)]
    decide +kernel
  refine ⟨hf, ?_⟩
  obtain ⟨out, -, -, -, he, -⟩ := ofSource_policies ":: A\n'x\n:: B\n'y".toList false hf
  rw [hsplit] at he
  rcases he with ⟨hn, -⟩ | ⟨before, p, after, v, hs, hb, hv, hr⟩
  · have := (List.forall_mem_cons.mp hn).1
    rw [hfirst] at this
    exact absurd this (by decide)
  · cases before with
    | nil =>
        obtain ⟨rfl, -⟩ := List.cons.inj hs
        rw [hfirst] at hv
        obtain rfl : ['x'] = v := Option.some.inj hv
        refine hr.trans ?_
        simp [tokenized, hfirst]
    | cons q before =>
        obtain ⟨rfl, -⟩ := List.cons.inj hs
        have := (List.forall_mem_cons.mp hb).1
        rw [hfirst] at this
        exact absurd this (by decide)

end StoryText.Report
