import WalletSetup.Proofs.Text.Case

/-! The characters of whole numbers: digits of all scripts, and the signs before them. They are no
blanks and have no letter case, and none of them is the small form of another character. -/

set_option autoImplicit false

namespace WalletSetup.Text

def IsFigure (c : Char) : Prop := (digitValue? c).isSome = true ∨ c = '+' ∨ c = '-'

instance (c : Char) : Decidable (IsFigure c) :=
  inferInstanceAs (Decidable ((digitValue? c).isSome = true ∨ c = '+' ∨ c = '-'))

section Tables

def figureRanges : List (Nat × Nat) :=
  (0x2b, 0x2b) :: (0x2d, 0x2d) :: digitZeros.map fun first => (first, first + 9)

def rowRanges (rows : List (Nat × Nat × Nat × Nat)) : List (Nat × Nat) :=
  rows.map fun (first, last, _, _) => (first, last)

def imageRanges (rows : List (Nat × Nat × Nat × Nat)) : List (Nat × Nat) :=
  rows.map fun (first, last, _, image) => (image, image + (last - first))

def areApart (ranges others : List (Nat × Nat)) : Bool :=
  ranges.all fun range => others.all fun other => range.2 < other.1 || other.2 < range.1

theorem blanks_apart : areApart blankRanges figureRanges = true := by decide +kernel

theorem lowerRows_apart : areApart (rowRanges lowerRows) figureRanges = true := by decide +kernel

theorem lowerImages_apart : areApart (imageRanges lowerRows) figureRanges = true := by
  decide +kernel

theorem not_inRanges_of_apart {ranges others : List (Nat × Nat)} {n : Nat}
    (apart : areApart ranges others = true) (inside : inRanges ranges n = true) :
    inRanges others n = false := by
  obtain ⟨range, member, here⟩ := List.any_eq_true.1 inside
  rw [inRanges, List.any_eq_false]
  intro other known
  have either := List.all_eq_true.1 (List.all_eq_true.1 apart range member) other known
  simp only [Bool.and_eq_true, Bool.or_eq_true, decide_eq_true_eq] at here either ⊢
  omega

theorem inRanges_of_rowImage? {rows : List (Nat × Nat × Nat × Nat)} {n image : Nat}
    (found : rowImage? rows n = some image) :
    inRanges (rowRanges rows) n = true ∧ inRanges (imageRanges rows) image = true := by
  obtain ⟨⟨first, last, step, start⟩, member, rfl⟩ := Option.map_eq_some_iff.1 found
  have bounds := List.find?_some member
  have known := List.mem_of_find?_eq_some member
  simp only [Bool.and_eq_true, decide_eq_true_eq, beq_iff_eq] at bounds
  constructor
  · apply List.any_eq_true.2
    exact ⟨(first, last), List.mem_map.2 ⟨_, known, rfl⟩, by simp [bounds]⟩
  · apply List.any_eq_true.2
    refine ⟨(start, start + (last - first)), List.mem_map.2 ⟨_, known, rfl⟩, ?_⟩
    simp only [Bool.and_eq_true, decide_eq_true_eq]
    omega

end Tables

section Characters

variable {c : Char}

theorem isDigit_iff_toNat : c.isDigit = true ↔ 48 ≤ c.toNat ∧ c.toNat ≤ 57 := by
  rw [Char.isDigit, Bool.and_eq_true, decide_eq_true_iff, decide_eq_true_iff]
  rfl

theorem digitValue?_isSome_iff : (digitValue? c).isSome = true ↔
    ∃ first ∈ digitZeros, first ≤ c.toNat ∧ c.toNat ≤ first + 9 := by
  have ascii : ∀ first ∈ digitZeros, first = 48 ∨ 128 ≤ first := by decide
  unfold digitValue?
  split
  · next digit =>
    have bounds := isDigit_iff_toNat.1 digit
    exact iff_of_true rfl ⟨48, by decide, bounds.1, bounds.2⟩
  · next other =>
    rw [isDigit_iff_toNat] at other
    split
    · next low =>
      refine iff_of_false nofun ?_
      rintro ⟨first, member, bounds⟩
      rcases ascii first member with rfl | high
      · exact other bounds
      · omega
    · rw [Option.isSome_map, List.find?_isSome]
      simp only [Bool.and_eq_true, decide_eq_true_eq, Nat.lt_succ_iff]

theorem isFigure_iff : IsFigure c ↔ inRanges figureRanges c.toNat = true := by
  have single (sign : Char) : c = sign ↔ sign.toNat ≤ c.toNat ∧ c.toNat ≤ sign.toNat := by
    rw [← Char.toNat_inj]
    omega
  rw [IsFigure, digitValue?_isSome_iff, single '+', single '-', or_comm, or_assoc, inRanges,
    figureRanges]
  simp only [List.any_cons, List.any_map, Bool.or_eq_true, List.any_eq_true, Bool.and_eq_true,
    Function.comp_apply, decide_eq_true_eq]
  rfl

theorem isBlank_of_isFigure (figure : IsFigure c) : isBlank c = false := by
  rw [← Bool.not_eq_true]
  intro blank
  have other := not_inRanges_of_apart blanks_apart blank
  rw [isFigure_iff.1 figure] at other
  cases other

theorem not_isFigure_ofNat {n : Nat} (other : inRanges figureRanges n = false) :
    ¬IsFigure (Char.ofNat n) := by
  by_cases valid : n.isValidChar
  · rw [isFigure_iff, Char.ofNat, dif_pos valid, show (Char.ofNatAux n valid).toNat = n from rfl,
      other]
    exact Bool.false_ne_true
  · rw [Char.ofNat, dif_neg valid]
    decide

theorem lowerChar_figure (c : Char) :
    lowerChar c = [id c] ∨ ¬IsFigure (id c) ∧ ∃ small ∈ lowerChar c, ¬IsFigure small := by
  unfold lowerChar
  split
  · next ascii =>
    have forms : c.toLower = c ∨ ¬IsFigure c ∧ ¬IsFigure c.toLower :=
      forall_ascii ascii (by decide +kernel)
    rcases forms with same | ⟨other, small⟩
    · exact .inl (by rw [same, id])
    · exact .inr ⟨other, _, List.mem_singleton_self _, small⟩
  · split
    · next dotted =>
      refine .inr ⟨?_, 'i', by decide, by decide⟩
      rw [id, isFigure_iff, dotted]
      decide
    · cases found : rowImage? lowerRows c.toNat with
      | none => exact .inl rfl
      | some image =>
        obtain ⟨row, inside⟩ := inRanges_of_rowImage? found
        refine .inr ⟨?_, _, List.mem_singleton_self _, ?_⟩
        · rw [id, isFigure_iff, not_inRanges_of_apart lowerRows_apart row]
          exact Bool.false_ne_true
        · exact not_isFigure_ofNat (not_inRanges_of_apart lowerImages_apart inside)

end Characters

/-- Numbers are in small letters, and only they become numbers. -/
theorem lower_eq_figures_iff {s word : String} (figures : ∀ c ∈ word.toList, IsFigure c) :
    lower s = word ↔ s = word := by
  rw [lower, ← String.toList_inj, ← String.toList_inj, String.toList_ofList,
    lowerAfter_eq_map_iff lowerChar_figure (by decide) figures, List.map_id]

end WalletSetup.Text
