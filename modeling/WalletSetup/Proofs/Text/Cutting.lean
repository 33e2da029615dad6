import WalletSetup.Text.Trim

/-! Cutting text at separators and at its ends, where it is known what stands there. -/

set_option autoImplicit false

namespace WalletSetup.Text

variable {α : Type}

theorem splitOn_of_not_mem [DecidableEq α] {sep : α} {cs : List α} (absent : sep ∉ cs) :
    splitOn sep cs = [cs] := by
  induction cs with
  | nil => rfl
  | cons c rest ih =>
    rw [List.mem_cons, not_or] at absent
    simp [splitOn, Ne.symm absent.1, ih absent.2]

theorem splitOn_append [DecidableEq α] (sep : α) (before after : List α) :
    splitOn sep (before ++ sep :: after) = splitOn sep before ++ splitOn sep after := by
  induction before with
  | nil => simp [splitOn]
  | cons c rest ih =>
    by_cases same : c = sep
    · simp [splitOn, same, ih]
    · obtain ⟨first, others, pieces⟩ := List.exists_cons_of_ne_nil (splitOn_ne_nil sep rest)
      simp [splitOn, same, ih, pieces]

theorem joinWith_append_singleton (sep : List α) (pieces : List (List α))
    (last : List α) (some : pieces ≠ []) :
    joinWith sep (pieces ++ [last]) = joinWith sep pieces ++ sep ++ last := by
  induction pieces with
  | nil => exact absurd rfl some
  | cons first rest ih =>
    cases rest with
    | nil => simp [joinWith]
    | cons second others =>
      have joined := ih (by simp)
      simp only [List.cons_append] at joined
      simp [joinWith, joined]

theorem mem_joinWith {sep : List α} {pieces : List (List α)} {c : α}
    (member : c ∈ joinWith sep pieces) : c ∈ sep ∨ ∃ piece ∈ pieces, c ∈ piece := by
  induction pieces with
  | nil => cases member
  | cons first rest ih =>
    cases rest with
    | nil => exact .inr ⟨first, List.mem_singleton_self _, member⟩
    | cons second others =>
      rw [joinWith, List.mem_append, List.mem_append] at member
      · rcases member with (inside | inside) | later
        · exact .inr ⟨first, List.mem_cons_self, inside⟩
        · exact .inl inside
        · rcases ih later with between | ⟨piece, known, inside⟩
          · exact .inl between
          · exact .inr ⟨piece, List.mem_cons_of_mem _ known, inside⟩
      · exact List.cons_ne_nil _ _

theorem mem_joinWith_of_mem {sep piece : List α} {pieces : List (List α)} {c : α}
    (known : piece ∈ pieces) (inside : c ∈ piece) : c ∈ joinWith sep pieces := by
  induction pieces with
  | nil => exact nomatch known
  | cons first rest ih =>
    cases rest with
    | nil =>
      obtain rfl := List.mem_singleton.1 known
      exact inside
    | cons second others =>
      rw [joinWith, List.mem_append, List.mem_append]
      · rcases List.mem_cons.1 known with rfl | known
        · exact .inl (.inl inside)
        · exact .inr (ih known)
      · exact List.cons_ne_nil _ _

theorem mem_of_mem_splitOn [DecidableEq α] {sep c : α} {cs piece : List α}
    (known : piece ∈ splitOn sep cs) (inside : c ∈ piece) : c ∈ cs := by
  rw [← joinWith_splitOn sep cs]
  exact mem_joinWith_of_mem known inside

/-- Pieces without a separator in them are found again. -/
theorem splitOn_joinWith [DecidableEq α] {sep : α} {pieces : List (List α)} (some : pieces ≠ [])
    (apart : ∀ piece ∈ pieces, sep ∉ piece) : splitOn sep (joinWith [sep] pieces) = pieces := by
  induction pieces with
  | nil => exact absurd rfl some
  | cons first rest ih =>
    have whole := splitOn_of_not_mem (apart first List.mem_cons_self)
    cases rest with
    | nil => exact whole
    | cons second others =>
      have joined : joinWith [sep] (first :: second :: others) =
          first ++ sep :: joinWith [sep] (second :: others) := by
        simp [joinWith]
      rw [joined, splitOn_append, whole,
        ih (List.cons_ne_nil _ _) fun piece known => apart piece (List.mem_cons_of_mem _ known)]
      rfl

theorem dropWhile_of_none {p : α → Bool} {cs : List α} (none : ∀ c ∈ cs, p c = false) :
    cs.dropWhile p = cs := by
  cases cs with
  | nil => rfl
  | cons c rest => rw [List.dropWhile_cons_of_neg (by simp [none c List.mem_cons_self])]

theorem trimBy_append {p : α → Bool} {cs after : List α} (none : ∀ c ∈ cs, p c = false)
    (all : ∀ c ∈ after, p c = true) : trimBy p (cs ++ after) = cs := by
  have kept : (cs.reverse).dropWhile p = cs.reverse :=
    dropWhile_of_none fun c member => none c (List.mem_reverse.1 member)
  have dropped : (after.reverse ++ cs.reverse).dropWhile p = cs.reverse := by
    rw [List.dropWhile_append_of_pos fun c member => all c (List.mem_reverse.1 member), kept]
  cases cs with
  | nil =>
    have nothing : after.dropWhile p = [] := by
      rw [← List.append_nil after, List.dropWhile_append_of_pos all, List.dropWhile_nil]
    rw [List.nil_append, trimBy, nothing]
    rfl
  | cons c rest =>
    rw [trimBy, List.cons_append, List.dropWhile_cons_of_neg (by simp [none c List.mem_cons_self]),
      ← List.cons_append, List.reverse_append, dropped, List.reverse_reverse]

theorem trimBy_prepend {p : α → Bool} {before : List α} (cs : List α)
    (all : ∀ c ∈ before, p c = true) : trimBy p (before ++ cs) = trimBy p cs := by
  rw [trimBy, List.dropWhile_append_of_pos all]
  rfl

/-- What is cut off at the ends satisfies the predicate. -/
theorem exists_trimBy (p : α → Bool) (cs : List α) : ∃ before after,
    cs = before ++ trimBy p cs ++ after ∧ (∀ c ∈ before, p c = true) ∧ ∀ c ∈ after, p c = true := by
  refine ⟨cs.takeWhile p, ((cs.dropWhile p).reverse.takeWhile p).reverse, ?_, ?_, ?_⟩
  · rw [trimBy, List.append_assoc, ← List.reverse_append, List.takeWhile_append_dropWhile,
      List.reverse_reverse, List.takeWhile_append_dropWhile]
  · exact List.all_eq_true.1 List.all_takeWhile
  · exact fun c member => List.all_eq_true.1 List.all_takeWhile c (List.mem_reverse.1 member)

theorem trimBy_eq_iff {p : α → Bool} {cs core : List α} (none : ∀ c ∈ core, p c = false) :
    trimBy p cs = core ↔ ∃ before after, cs = before ++ core ++ after ∧
      (∀ c ∈ before, p c = true) ∧ ∀ c ∈ after, p c = true := by
  constructor
  · rintro rfl
    exact exists_trimBy p cs
  · rintro ⟨before, after, rfl, leading, trailing⟩
    rw [List.append_assoc, trimBy_prepend _ leading, trimBy_append none trailing]

theorem trimBy_eq_nil_iff {p : α → Bool} {cs : List α} :
    trimBy p cs = [] ↔ ∀ c ∈ cs, p c = true := by
  rw [trimBy_eq_iff nofun]
  constructor
  · rintro ⟨before, after, rfl, leading, trailing⟩
    simpa [or_imp, forall_and] using ⟨leading, trailing⟩
  · intro all
    exact ⟨cs, [], by simp, all, nofun⟩

theorem trimBy_of_none {p : α → Bool} {cs : List α} (none : ∀ c ∈ cs, p c = false) :
    trimBy p cs = cs := by
  have trimmed : trimBy p (cs ++ []) = cs := trimBy_append none nofun
  rwa [List.append_nil] at trimmed

theorem head?_dropWhile {p : α → Bool} {cs : List α} {c : α}
    (first : c ∈ (cs.dropWhile p).head?) : p c = false := by
  have stop := List.head?_dropWhile_not p cs
  rw [first] at stop
  simpa using stop

theorem trimBy_ends {p : α → Bool} {cs : List α} :
    (∀ c ∈ (trimBy p cs).head?, p c = false) ∧ ∀ c ∈ (trimBy p cs).getLast?, p c = false := by
  unfold trimBy
  constructor
  · intro c first
    obtain ⟨dropped, split⟩ := List.dropWhile_suffix (l := (cs.dropWhile p).reverse) p
    have start : c ∈ (cs.dropWhile p).head? := by
      rw [List.head?_reverse] at first
      rw [← List.getLast?_reverse, ← split, List.getLast?_append, first]
      rfl
    exact head?_dropWhile start
  · intro c last
    rw [List.getLast?_reverse] at last
    exact head?_dropWhile last

def Blank (s : String) : Prop := ∀ c ∈ s.toList, isBlank c = true

instance (s : String) : Decidable (Blank s) := List.decidableBAll _ s.toList

theorem trim_eq_iff {s core : String} (none : ∀ c ∈ core.toList, isBlank c = false) :
    trim s = core ↔ ∃ before after, s = before ++ core ++ after ∧ Blank before ∧ Blank after := by
  rw [trim, ← String.toList_inj, String.toList_ofList, trimChars, trimBy_eq_iff none]
  constructor
  · rintro ⟨before, after, whole, leading, trailing⟩
    refine ⟨String.ofList before, String.ofList after, ?_, ?_, ?_⟩
    · rw [← String.toList_inj, whole]
      simp only [String.toList_append, String.toList_ofList]
    · rwa [Blank, String.toList_ofList]
    · rwa [Blank, String.toList_ofList]
  · rintro ⟨before, after, rfl, leading, trailing⟩
    exact ⟨before.toList, after.toList, by simp only [String.toList_append], leading, trailing⟩

theorem trim_isEmpty_iff {s : String} : (trim s).isEmpty = true ↔ Blank s := by
  rw [String.isEmpty_iff, ← String.toList_eq_nil_iff, trim, String.toList_ofList]
  exact trimBy_eq_nil_iff

end WalletSetup.Text
