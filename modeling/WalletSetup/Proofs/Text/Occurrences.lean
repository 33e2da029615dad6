import Mathlib.Data.List.Infix
import WalletSetup.Proofs.Text.Cutting

/-! How often a word stands in a text, occurrences that overlap included. A character that is not in
the word parts its occurrences. -/

set_option autoImplicit false

namespace WalletSetup.Text

variable {α : Type}

theorem prefix_cut_iff {word : List α} {c : α} (before after : List α) (absent : c ∉ word) :
    word <+: before ++ c :: after ↔ word <+: before := by
  constructor
  · intro starts
    have cut : before ++ [c] <+: before ++ c :: after := ⟨after, by simp⟩
    rcases List.prefix_or_prefix_of_prefix starts cut with within | whole
    · rcases List.prefix_concat_iff.1 within with rfl | starts
      · simp at absent
      · exact starts
    · exact absurd (whole.subset (by simp)) absent
  · exact fun starts => starts.trans (List.prefix_append _ _)

variable [DecidableEq α]

/-- How many places of the text the word begins at. -/
def occurrences (word : List α) : List α → Nat
  | [] => 0
  | c :: rest => (if word <+: c :: rest then 1 else 0) + occurrences word rest

variable {word text : List α} {c : α}

theorem occurrences_cut (before after : List α) (filled : word ≠ []) (absent : c ∉ word) :
    occurrences word (before ++ c :: after) = occurrences word before + occurrences word after := by
  induction before with
  | nil =>
    have none : ¬word <+: c :: after := fun starts =>
      filled (List.prefix_nil.1 ((prefix_cut_iff [] after absent).1 starts))
    rw [List.nil_append, occurrences, occurrences, if_neg none]
  | cons first more ih =>
    have same := prefix_cut_iff (first :: more) after absent
    rw [List.cons_append] at same ⊢
    rw [occurrences, occurrences, ih, ite_congr (propext same) (fun _ => rfl) fun _ => rfl,
      Nat.add_assoc]

theorem occurrences_of_short (short : text.length < word.length) : occurrences word text = 0 := by
  induction text with
  | nil => rfl
  | cons c rest ih =>
    rw [List.length_cons] at short
    rw [occurrences, if_neg fun starts => absurd starts.length_le (by simpa using short),
      ih (by omega)]

theorem occurrences_self (filled : word ≠ []) : occurrences word word = 1 := by
  obtain ⟨c, rest, rfl⟩ := List.exists_cons_of_ne_nil filled
  rw [occurrences, if_pos (List.prefix_refl _), occurrences_of_short (Nat.lt_succ_self _)]

theorem occurrences_joinWith {pieces : List (List α)} (filled : word ≠ []) (absent : c ∉ word)
    (none : ∀ piece ∈ pieces, occurrences word piece = 0) :
    occurrences word (joinWith [c] pieces) = 0 := by
  induction pieces with
  | nil => rfl
  | cons first more ih =>
    rw [List.forall_mem_cons] at none
    cases more with
    | nil => exact none.1
    | cons second others =>
      rw [joinWith, List.append_assoc, List.singleton_append, occurrences_cut _ _ filled absent,
        none.1, ih none.2]
      exact List.cons_ne_nil _ _

/-- A text whose pieces are too short does not have the word. -/
theorem occurrences_of_pieces (filled : word ≠ []) (absent : c ∉ word)
    (short : ∀ piece ∈ splitOn c text, piece.length < word.length) :
    occurrences word text = 0 := by
  rw [← joinWith_splitOn c text]
  exact occurrences_joinWith filled absent fun piece member =>
    occurrences_of_short (short piece member)

end WalletSetup.Text
