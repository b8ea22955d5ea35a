import StoryText.Proofs.Token.Context

namespace StoryText.Token

namespace Kind

theorem name_injective : Function.Injective name := by
  intro j k
  cases j <;> cases k <;> decide

theorem colon_notMem_name (k : Kind) : ':' ∉ k.name := by
  cases k <;> decide

end Kind

variable {t u : Token}

theorem eq_string_of_kind (h : t.kind = .string) : t = string t.value t.isUnterminated := by
  cases t with
  | string value unterminated => rfl
  | _ => cases h

theorem eq_of_kind_of_value (hk : t.kind = u.kind) (hv : t.value = u.value)
    (ho : t.isUnterminated = u.isUnterminated) : t = u := by
  cases t <;> cases u <;> cases hk <;> simp_all [value, isUnterminated]

def marker (t : Token) : Text := if t.isUnterminated then ":unterminated".toList else []

theorem tagged_eq (t : Token) :
    t.tagged = '<' :: t.kind.name ++ ':' :: (t.value ++ t.marker ++ ['>']) := by
  cases h : t.isUnterminated with
  | true =>
      have hend : ":unterminated>".toList = ":unterminated".toList ++ ['>'] := rfl
      rw [tagged, marker, if_pos h, if_pos h, kind_of_isUnterminated h, hend, List.append_assoc,
        List.append_assoc]
      rfl
  | false => simp [tagged, marker, h]

theorem cut?_tagged (t : Token) :
    Text.cut? ':' t.tagged = some ('<' :: t.kind.name, t.value ++ t.marker ++ ['>']) := by
  refine Text.cut?_eq_some_iff.mpr ⟨tagged_eq t, ?_⟩
  exact List.not_mem_cons_of_ne_of_not_mem (by decide) t.kind.colon_notMem_name

theorem tagged_eq_iff :
    t.tagged = u.tagged ↔ t.kind = u.kind ∧ t.value ++ t.marker = u.value ++ u.marker := by
  constructor
  · intro h
    have hcut : Text.cut? ':' t.tagged = Text.cut? ':' u.tagged := congrArg _ h
    rw [cut?_tagged, cut?_tagged, Option.some.injEq, Prod.mk.injEq, List.cons_inj_right,
      List.append_cancel_right_eq] at hcut
    exact ⟨Kind.name_injective hcut.1, hcut.2⟩
  · rintro ⟨hk, hv⟩
    rw [tagged_eq, tagged_eq, hk, hv]

theorem eq_of_tagged_eq (h : t.tagged = u.tagged) (ho : t.isUnterminated = u.isUnterminated) :
    t = u := by
  obtain ⟨hk, hv⟩ := tagged_eq_iff.mp h
  rw [marker, marker, ho, List.append_cancel_right_eq] at hv
  exact eq_of_kind_of_value hk hv ho

/-- The closed string `t` has the value of the open string `u` with the marker behind it. -/
def Mimics (t u : Token) : Prop :=
  ∃ v, t = string (v ++ ":unterminated".toList) false ∧ u = string v true

theorem Mimics.tagged_eq (h : Mimics t u) : t.tagged = u.tagged := by
  obtain ⟨v, rfl, rfl⟩ := h
  exact tagged_eq_iff.mpr ⟨rfl, List.append_nil _⟩

theorem mimics_of_tagged_eq (h : t.tagged = u.tagged) (ht : t.isUnterminated = false)
    (hu : u.isUnterminated = true) : Mimics t u := by
  obtain ⟨hk, hv⟩ := tagged_eq_iff.mp h
  rw [kind_of_isUnterminated hu] at hk
  rw [marker, marker, if_neg (by simp [ht]), if_pos hu, List.append_nil] at hv
  refine ⟨u.value, ?_, eq_string_of_isUnterminated hu⟩
  rw [← hv, ← ht]
  exact eq_string_of_kind hk

/-- Different tokens are tagged alike just where one is a closed string that mimics the other, which
is open. -/
theorem tagged_eq_iff_of_ne (hne : t ≠ u) : t.tagged = u.tagged ↔ Mimics t u ∨ Mimics u t := by
  constructor
  · intro h
    have ho : t.isUnterminated ≠ u.isUnterminated := mt (eq_of_tagged_eq h) hne
    cases ht : t.isUnterminated with
    | false =>
        have hu : u.isUnterminated = true := by simpa [ht] using ho
        exact .inl (mimics_of_tagged_eq h ht hu)
    | true =>
        have hu : u.isUnterminated = false := by simpa [ht] using ho
        exact .inr (mimics_of_tagged_eq h.symm hu ht)
  · rintro (h | h)
    · exact h.tagged_eq
    · exact h.tagged_eq.symm

theorem tagged_eq_iff_of_ne_marker :
    string ":unterminated:unterminated".toList false ≠ string ":unterminated".toList true ∧
      (string ":unterminated:unterminated".toList false).tagged =
        (string ":unterminated".toList true).tagged ∧
      (string ":unterminated".toList false).tagged ≠
        (string ":unterminated".toList true).tagged := by
  have hne : string ":unterminated:unterminated".toList false ≠
      string ":unterminated".toList true := by decide
  refine ⟨hne, (tagged_eq_iff_of_ne hne).mpr (.inl ⟨_, rfl, rfl⟩), ?_⟩
  refine mt (tagged_eq_iff_of_ne (by decide)).mp ?_
  rintro (⟨v, ht, hu⟩ | ⟨v, ht, -⟩)
  · obtain ⟨rfl, -⟩ := string.inj hu
    exact absurd ht (by decide)
  · cases (string.inj ht).2

end StoryText.Token
