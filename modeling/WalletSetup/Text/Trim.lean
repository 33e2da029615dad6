import WalletSetup.Text.CodePoint

/-! Cutting text at its ends and at separators. `splitOn` and `joinWith` undo one another on
pieces that hold no separator. -/

set_option autoImplicit false

namespace WalletSetup.Text

variable {α : Type}

def trimBy (p : α → Bool) (cs : List α) : List α :=
  ((cs.dropWhile p).reverse.dropWhile p).reverse

def trimChars (cs : List Char) : List Char := trimBy isBlank cs

def trim (s : String) : String := String.ofList (trimChars s.toList)

/-- The pieces between the separators; always at least one. -/
def splitOn [DecidableEq α] (sep : α) : List α → List (List α)
  | [] => [[]]
  | c :: rest =>
    if c = sep then [] :: splitOn sep rest
    else match splitOn sep rest with
      | [] => [[c]]
      | piece :: pieces => (c :: piece) :: pieces

def joinWith (sep : List α) : List (List α) → List α
  | [] => []
  | [piece] => piece
  | piece :: pieces => piece ++ sep ++ joinWith sep pieces

def cutFirst [DecidableEq α] (sep : α) : List α → Option (List α × List α)
  | [] => none
  | c :: rest =>
    if c = sep then some ([], rest)
    else (cutFirst sep rest).map fun (before, after) => (c :: before, after)

def cutLast [DecidableEq α] (sep : α) : List α → Option (List α × List α)
  | [] => none
  | c :: rest =>
    match cutLast sep rest with
    | some (before, after) => some (c :: before, after)
    | none => if c = sep then some ([], rest) else none

theorem splitOn_ne_nil [DecidableEq α] (sep : α) (cs : List α) : splitOn sep cs ≠ [] := by
  induction cs with
  | nil => simp [splitOn]
  | cons c rest ih =>
    unfold splitOn
    split
    · simp
    · split <;> simp

theorem not_mem_of_mem_splitOn [DecidableEq α] {sep : α} {cs : List α} {piece : List α}
    (h : piece ∈ splitOn sep cs) : sep ∉ piece := by
  induction cs generalizing piece with
  | nil => simp_all [splitOn]
  | cons c rest ih =>
    unfold splitOn at h
    split at h
    · rcases List.mem_cons.1 h with rfl | h
      · simp
      · exact ih h
    · next hc =>
      split at h
      · next hs => exact absurd hs (splitOn_ne_nil sep rest)
      · next first others hs =>
        rcases List.mem_cons.1 h with rfl | h
        · have := ih (hs ▸ List.mem_cons_self)
          simp [this, Ne.symm hc]
        · exact ih (hs ▸ List.mem_cons_of_mem _ h)

theorem joinWith_splitOn [DecidableEq α] (sep : α) (cs : List α) :
    joinWith [sep] (splitOn sep cs) = cs := by
  induction cs with
  | nil => rfl
  | cons c rest ih =>
    unfold splitOn
    split
    · next hc =>
      subst hc
      cases hs : splitOn c rest with
      | nil => exact absurd hs (splitOn_ne_nil c rest)
      | cons first others => rw [hs] at ih; simp [joinWith, ih]
    · split
      · next hs => exact absurd hs (splitOn_ne_nil sep rest)
      · next first others hs =>
        rw [hs] at ih
        cases others with
        | nil => simp_all [joinWith]
        | cons second more => simp_all [joinWith]

theorem cutFirst_eq_some_iff [DecidableEq α] {sep : α} {cs before after : List α} :
    cutFirst sep cs = some (before, after) ↔ cs = before ++ sep :: after ∧ sep ∉ before := by
  induction cs generalizing before with
  | nil => simp [cutFirst]
  | cons c rest ih =>
    unfold cutFirst
    split
    · next hc =>
      subst hc
      cases before with
      | nil => simp
      | cons b bs => simp; intro h; simp [h]
    · next hc =>
      cases before with
      | nil => simp [hc]
      | cons b bs =>
        simp only [Option.map_eq_some_iff, Prod.mk.injEq, List.cons_append, List.cons.injEq,
          List.mem_cons, not_or]
        constructor
        · rintro ⟨⟨x, y⟩, hxy, ⟨rfl, rfl⟩, rfl⟩
          have := ih.1 hxy
          exact ⟨⟨rfl, this.1⟩, Ne.symm hc, this.2⟩
        · rintro ⟨⟨rfl, h⟩, -, hn⟩
          exact ⟨(bs, after), ih.2 ⟨h, hn⟩, ⟨rfl, rfl⟩, rfl⟩

theorem cutFirst_eq_none_iff [DecidableEq α] {sep : α} {cs : List α} :
    cutFirst sep cs = none ↔ sep ∉ cs := by
  induction cs with
  | nil => simp [cutFirst]
  | cons c rest ih =>
    unfold cutFirst
    split
    · next hc => simp [hc]
    · next hc => simp [ih, Ne.symm hc]

theorem cutLast_eq_none_iff [DecidableEq α] {sep : α} {cs : List α} :
    cutLast sep cs = none ↔ sep ∉ cs := by
  induction cs with
  | nil => simp [cutLast]
  | cons c rest ih =>
    unfold cutLast
    split
    · next hs =>
      have : sep ∈ rest := by
        rw [← Decidable.not_not (p := sep ∈ rest)]
        intro h
        rw [ih.2 h] at hs
        cases hs
      simp [this]
    · next hs =>
      have := ih.1 hs
      split
      · next hc => simp [hc]
      · next hc => simp [this, Ne.symm hc]

theorem cutLast_eq_some_iff [DecidableEq α] {sep : α} {cs before after : List α} :
    cutLast sep cs = some (before, after) ↔ cs = before ++ sep :: after ∧ sep ∉ after := by
  induction cs generalizing before after with
  | nil => simp [cutLast]
  | cons c rest ih =>
    unfold cutLast
    split
    · next x y hs =>
      have hxy := ih.1 hs
      cases before with
      | nil =>
        simp only [Option.some.injEq, Prod.mk.injEq, List.nil_append, List.cons.injEq]
        constructor
        · rintro ⟨h, -⟩
          cases h
        · rintro ⟨⟨-, rfl⟩, h⟩
          rw [hxy.1] at h
          simp at h
      | cons b bs =>
        simp only [Option.some.injEq, Prod.mk.injEq, List.cons_append, List.cons.injEq]
        constructor
        · rintro ⟨⟨rfl, rfl⟩, rfl⟩
          exact ⟨⟨rfl, hxy.1⟩, hxy.2⟩
        · rintro ⟨⟨rfl, h⟩, hn⟩
          have := ih.2 ⟨h, hn⟩
          rw [hs] at this
          simp_all
    · next hs =>
      have hn := cutLast_eq_none_iff.1 hs
      cases before with
      | nil =>
        split
        · next hc => subst hc; simp; rintro rfl; exact hn
        · next hc => simp [hc]
      | cons b bs =>
        have : ¬ (rest = bs ++ sep :: after) := by
          rintro rfl
          simp at hn
        split <;> simp [this]

end WalletSetup.Text
