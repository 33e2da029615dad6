import WalletSetup.Text.Case

/-! Words whose letters no other script has for small forms. A text is such a word in small letters
exactly when it is the word up to the case of its own letters. -/

set_option autoImplicit false

namespace WalletSetup.Text

/-- Only a character of its own alphabet becomes this one. The sign for degrees Kelvin becomes a
`k`, and a row of the table that runs out of the code points would give zero. -/
def IsOwn (c : Char) : Prop := 0 < c.toNat ∧ c.toNat < 128 ∧ c ≠ 'k'

instance (c : Char) : Decidable (IsOwn c) :=
  inferInstanceAs (Decidable (0 < c.toNat ∧ c.toNat < 128 ∧ c ≠ 'k'))

theorem lowerRows_foreign : ∀ row ∈ lowerRows,
    row.2.1 < 128 ∨ 128 ≤ row.2.2.2 ∨ row = (0x212a, 0x212a, 1, 0x6b) := by decide +kernel

theorem rowImage?_foreign {n image : Nat} (foreign : 128 ≤ n)
    (found : rowImage? lowerRows n = some image) : 128 ≤ image ∨ image = 0x6b := by
  obtain ⟨⟨first, last, step, start⟩, member, rfl⟩ := Option.map_eq_some_iff.1 found
  have bounds := List.find?_some member
  simp only [Bool.and_eq_true, decide_eq_true_eq, beq_iff_eq] at bounds
  rcases lowerRows_foreign _ (List.mem_of_find?_eq_some member) with ascii | high | kelvin
  · dsimp only at ascii
    omega
  · dsimp only at high ⊢
    omega
  · cases kelvin
    dsimp only
    omega

theorem not_isOwn_ofNat {n : Nat} (foreign : 128 ≤ n ∨ n = 0x6b) : ¬ IsOwn (Char.ofNat n) := by
  rintro ⟨positive, ascii, other⟩
  rcases foreign with foreign | rfl
  · by_cases valid : n.isValidChar
    · rw [Char.ofNat, dif_pos valid, show (Char.ofNatAux n valid).toNat = n from rfl] at ascii
      omega
    · rw [Char.ofNat, dif_neg valid] at positive
      exact absurd positive (Nat.lt_irrefl 0)
  · exact other rfl

theorem lowerChar_foreign {c : Char} (foreign : 128 ≤ c.toNat) :
    ∃ small ∈ lowerChar c, ¬ IsOwn small := by
  unfold lowerChar
  rw [if_neg (Nat.not_lt.2 foreign)]
  split
  · exact ⟨'\u0307', by decide, by decide⟩
  · refine ⟨_, List.mem_singleton_self _, ?_⟩
    cases found : rowImage? lowerRows c.toNat with
    | none => exact fun own => absurd own.2.1 (Nat.not_lt.2 foreign)
    | some image => exact not_isOwn_ofNat (rowImage?_foreign foreign found)

theorem toLower_foreign {c : Char} (foreign : 128 ≤ c.toNat) : c.toLower = c := by
  have high : ¬ c.val ≤ 'Z'.val := by
    rw [UInt32.le_iff_toNat_le]
    change ¬ c.toNat ≤ 90
    omega
  unfold Char.toLower
  rw [dif_neg fun both => high both.2]

@[elab_as_elim]
theorem forall_ascii {p : Char → Prop} {c : Char} (ascii : c.toNat < 128)
    (all : ∀ n < 128, p (Char.ofNat n)) : p c := by
  have same := all c.toNat ascii
  rwa [Char.ofNat_toNat] at same

theorem toLower_toLower (c : Char) : c.toLower.toLower = c.toLower := by
  by_cases ascii : c.toNat < 128
  · exact forall_ascii ascii (by decide +kernel)
  · rw [toLower_foreign (Nat.not_lt.1 ascii), toLower_foreign (Nat.not_lt.1 ascii)]

/-- Some characters have one small form by a function; every other has a part in its small form
that no word of such characters has. The small form is such a word exactly when the function gives
it. -/
theorem lowerAfter_eq_map_iff {p : Char → Prop} {f : Char → Char}
    (known : ∀ c, lowerChar c = [f c] ∨ ¬p (f c) ∧ ∃ small ∈ lowerChar c, ¬p small)
    (sigma : ¬p (f 'Σ') ∧ ¬p 'σ' ∧ ¬p 'ς') {cs before word : List Char} (all : ∀ c ∈ word, p c) :
    lowerAfter before cs = word ↔ cs.map f = word := by
  induction cs generalizing before word with
  | nil => rfl
  | cons c rest ih =>
    unfold lowerAfter
    rw [List.map_cons]
    have forms : (if c = 'Σ' then [if endsWord before rest then 'ς' else 'σ'] else lowerChar c) =
        [f c] ∨ ¬p (f c) ∧ ∃ small ∈ if c = 'Σ' then [if endsWord before rest then 'ς' else 'σ']
          else lowerChar c, ¬p small := by
      split
      · next same =>
        rw [same]
        exact .inr ⟨sigma.1, _, List.mem_singleton_self _, by split <;> simp [sigma]⟩
      · exact known c
    rcases forms with plain | ⟨other, small, member, stranger⟩
    · rw [plain, List.singleton_append]
      cases word with
      | nil => simp
      | cons w ws =>
        rw [List.cons.injEq, List.cons.injEq,
          ih fun x member => all x (List.mem_cons_of_mem _ member)]
    -- Both sides have a character that the word cannot have.
    · constructor
      · rintro rfl
        exact absurd (all small (List.mem_append_left _ member)) stranger
      · rintro rfl
        exact absurd (all _ List.mem_cons_self) other

theorem lowerAfter_eq_iff {cs before word : List Char} (own : ∀ c ∈ word, IsOwn c) :
    lowerAfter before cs = word ↔ cs.map Char.toLower = word := by
  apply lowerAfter_eq_map_iff _ (by decide) own
  intro c
  by_cases ascii : c.toNat < 128
  · exact .inl (if_pos ascii)
  · rw [Nat.not_lt] at ascii
    rw [toLower_foreign ascii]
    exact .inr ⟨fun own => absurd own.2.1 (Nat.not_lt.2 ascii), lowerChar_foreign ascii⟩

/-- A word of own characters is the small form of its variants in letter case, and of nothing
else. -/
theorem lower_eq_iff {s word : String} (own : ∀ c ∈ word.toList, IsOwn c) :
    lower s = word ↔ s.toList.map Char.toLower = word.toList := by
  rw [lower, ← String.toList_inj, String.toList_ofList, lowerAfter_eq_iff own]

end WalletSetup.Text
