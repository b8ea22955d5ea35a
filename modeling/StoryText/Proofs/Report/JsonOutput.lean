import StoryText.Proofs.Json.RoundTrip
import StoryText.Proofs.Report.OpenStrings

namespace StoryText

namespace Json

variable {α β : Type} {encode : α → Json} {decode : Json → Option β} {f : α → β}

def list? (decode : Json → Option β) (j : Json) : Option (List β) :=
  j.array?.bind fun js => js.mapM decode

theorem mapM_map (h : ∀ a, decode (encode a) = some (f a)) (l : List α) :
    (l.map encode).mapM decode = some (l.map f) := by
  have hf : decode ∘ encode = fun a => pure (f a) := funext h
  rw [List.mapM_map, hf]
  exact List.mapM_pure

theorem list?_array (h : ∀ a, decode (encode a) = some (f a)) (l : List α) :
    (array (l.map encode)).list? decode = some (l.map f) :=
  mapM_map h l

theorem strings?_strings (ts : List Text) : (strings ts).strings? = some ts := by
  have hstring (t : Text) : string? (string t) = some (id t) := rfl
  rw [strings, strings?, array?, Option.bind_some, mapM_map hstring, List.map_id]

theorem Numberless.array_map (h : ∀ a, Numberless (encode a)) (l : List α) :
    Numberless (Json.array (l.map encode)) :=
  .array (List.forall_mem_map.mpr fun a _ => h a)

theorem Numberless.strings (ts : List Text) : Numberless (Json.strings ts) := .array_map .string ts

theorem read?_bind_list? (hn : ∀ a, Numberless (encode a))
    (h : ∀ a, decode (encode a) = some (f a)) (l : List α) :
    (read? ((array (l.map encode)).pretty 0)).bind (list? decode) = some (l.map f) := by
  rw [read?_pretty (.array_map hn l), Option.bind_some, list?_array h]

end Json

open Json (Numberless)

theorem Token.ofJson?_toJson (t : Token) : Token.ofJson? t.toJson = some t := by
  cases t <;> rfl

theorem Token.numberless_toJson (t : Token) : Numberless t.toJson := by
  cases t with
  | colon | semicolon | comma => exact .string _
  | string value unterminated =>
      refine .object (List.forall_mem_singleton.mpr (.object ?_))
      exact List.forall_mem_cons.mpr ⟨.string _, List.forall_mem_singleton.mpr (.bool _)⟩
  | _ => exact .object (List.forall_mem_singleton.mpr (.string _))

theorem Passage.ofJson?_toJson (p : Passage) : Passage.ofJson? p.toJson = some p := by
  change Passage.ofValues? (.string p.title) (.strings p.tags) (.strings p.config)
    (.string p.content) (.string p.raw) = some p
  rw [Passage.ofValues?, Json.strings?_strings, Json.strings?_strings]
  rfl

theorem Passage.numberless_toJson (p : Passage) : Numberless p.toJson := by
  refine .object ?_
  simp [Numberless.string, Numberless.strings]

namespace Report

def titled (x : Scanned) : Text × List Token := (x.1.title, x.2)

def titled? (j : Json) : Option (Text × List Token) := do
  let fs ← j.fields?
  let title ← (← Json.field? "title".toList fs).string?
  let tokens ← (← Json.field? "tokens".toList fs).list? Token.ofJson?
  some (title, tokens)

theorem titled?_scannedJson (x : Scanned) : titled? (scannedJson x) = some (titled x) := by
  have hts := Json.list?_array (f := id) Token.ofJson?_toJson x.2
  change ((Json.array (x.2.map Token.toJson)).list? Token.ofJson?).bind
    (fun tokens => some (x.1.title, tokens)) = some (titled x)
  rw [hts, List.map_id]
  rfl

theorem numberless_scannedJson (x : Scanned) : Numberless (scannedJson x) := by
  refine .object ?_
  simp [Numberless.string, Numberless.array_map Token.numberless_toJson]

def passagesOf? (out : Text) : Option (List Passage) :=
  (Json.read? out).bind (Json.list? Passage.ofJson?)

def titledOf? (out : Text) : Option (List (Text × List Token)) :=
  (Json.read? out).bind (Json.list? titled?)

theorem passagesOf?_passagesJson (ps : List Passage) : passagesOf? (passagesJson ps) = some ps := by
  have h := Json.read?_bind_list? (f := id) Passage.numberless_toJson Passage.ofJson?_toJson ps
  rwa [List.map_id] at h

theorem titledOf?_tokensJson (xs : List Scanned) :
    titledOf? (tokensJson xs) = some (xs.map titled) :=
  Json.read?_bind_list? numberless_scannedJson titled?_scannedJson xs

theorem tokensJson_eq_iff {xs ys : List Scanned} :
    tokensJson xs = tokensJson ys ↔ xs.map titled = ys.map titled := by
  constructor
  · intro h
    have hx := titledOf?_tokensJson xs
    rw [h, titledOf?_tokensJson] at hx
    exact (Option.some.inj hx).symm
  · intro h
    have hj (zs : List Scanned) : zs.map scannedJson = (zs.map titled).map fun z =>
        scannedJson (⟨z.1, [], [], [], []⟩, z.2) := by
      rw [List.map_map]
      rfl
    rw [tokensJson, tokensJson, hj, hj, h]

theorem passagesJson_injective : Function.Injective passagesJson := by
  intro ps qs h
  have hp := passagesOf?_passagesJson ps
  rw [h, passagesOf?_passagesJson] at hp
  exact (Option.some.inj hp).symm

theorem result_tokens (source : Text) (policy : Policy) (macroNames : Bool) (format : Format) :
    let result := (ofSource { spec := ⟨.token, format⟩, policy, macroNames } source).result
    result = writeTokens format
        ((Passage.split source).map fun p => (p, bodyTokens macroNames p)) ∨
      policy = .error ∧ ∃ title value, result = .error (.unterminatedString title value) := by
  intro result
  have hpass (h : policy = .error → ∀ p ∈ Passage.split source,
      openString? (bodyTokens macroNames p) = none) :
      result = writeTokens format
        ((Passage.split source).map fun p => (p, bodyTokens macroNames p)) :=
    congrArg Traced.result (ofSource_of_pass rfl h)
  rcases passes_or_first_open macroNames (Passage.split source) with
    h | ⟨before, p, after, v, hs, hb, hv⟩
  · exact .inl (hpass fun _ => h)
  · by_cases hp : policy = .error
    · have hfail := ofSource_of_fails (r := { spec := ⟨.token, format⟩, policy, macroNames })
        rfl hp hs hb hv
      exact .inr ⟨hp, p.title, v, congrArg Traced.result hfail⟩
    · exact .inl (hpass fun he => absurd he hp)

/-- Reports as JSON can be read back: passages with all their fields, tokens with the titles of
their passages. The report on tokens is missing only where open strings are errors and there is one.
Any token at all can be read back from its own text. -/
theorem ofSource_json_reads_back :
    (∀ (source : Text) (policy : Policy) (macroNames : Bool), ∃ out,
      (ofSource { spec := ⟨.passage, .json⟩, policy, macroNames } source).result = .ok out ∧
        passagesOf? out = some (Passage.split source)) ∧
    (∀ (source : Text) (policy : Policy) (macroNames : Bool),
      let result := (ofSource { spec := ⟨.token, .json⟩, policy, macroNames } source).result
      (∃ out, result = .ok out ∧ titledOf? out = some ((Passage.split source).map fun p =>
          (p.title, Token.tokenize macroNames p.content))) ∨
        policy = .error ∧ ∃ title value, result = .error (.unterminatedString title value)) ∧
    (∀ t : Token, Token.ofJson? t.toJson = some t ∧
      (Json.read? (t.toJson.pretty 0)).bind Token.ofJson? = some t) ∧
    Function.Injective passagesJson ∧
    ∀ xs ys : List Scanned, tokensJson xs = tokensJson ys ↔ xs.map titled = ys.map titled := by
  refine ⟨fun source policy macroNames => ⟨_, rfl, passagesOf?_passagesJson _⟩, ?_, ?_,
    passagesJson_injective, fun _ _ => tokensJson_eq_iff⟩
  · intro source policy macroNames result
    refine (result_tokens source policy macroNames .json).imp_left fun hresult => ⟨_, hresult, ?_⟩
    rw [titledOf?_tokensJson, List.map_map]
    rfl
  · intro t
    refine ⟨t.ofJson?_toJson, ?_⟩
    rw [Json.read?_pretty t.numberless_toJson, Option.bind_some, t.ofJson?_toJson]

end Report

end StoryText
