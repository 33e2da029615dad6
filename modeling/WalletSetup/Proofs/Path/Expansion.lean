import WalletSetup.Path.Expansion

/-! Expansion of paths once more. What a variable or a home directory puts in may itself hold
references, so that a path is not settled by being expanded once. Where it is, a plain name behind
it leaves it so. -/

set_option autoImplicit false

namespace WalletSetup.Path

open WalletSetup.Text

section Reference

variable {rest : List Char}

theorem reference?_of_ne {c : Char} (plain : c ≠ '{') :
    reference? (c :: rest) =
      if ((c :: rest).takeWhile isWord).isEmpty then none
      else some ((c :: rest).takeWhile isWord, ((c :: rest).takeWhile isWord).length) := by
  rw [reference?]
  rintro other same
  exact plain (List.cons.inj same).1

theorem takeWhile_isWord_append (tail : List Char) :
    (rest ++ '/' :: tail).takeWhile isWord = rest.takeWhile isWord := by
  induction rest with
  | nil => rfl
  | cons c rest ih => rw [List.cons_append, List.takeWhile_cons, List.takeWhile_cons, ih]

/-- A reference ends before a slash, unless one in braces is closed behind it. -/
theorem reference?_append {tail : List Char} (unclosed : '}' ∉ tail) :
    reference? (rest ++ '/' :: tail) = reference? rest := by
  cases rest with
  | nil => rfl
  | cons c more =>
    by_cases brace : c = '{'
    · subst brace
      simp only [List.cons_append, reference?]
      cases found : cutFirst '}' more with
      | none =>
        have absent : '}' ∉ more ++ '/' :: tail := by
          simp [cutFirst_eq_none_iff.1 found, unclosed]
        rw [cutFirst_eq_none_iff.2 absent]
      | some cut =>
        obtain ⟨name, after⟩ := cut
        obtain ⟨rfl, absent⟩ := cutFirst_eq_some_iff.1 found
        have same : name ++ '}' :: after ++ '/' :: tail = name ++ '}' :: (after ++ '/' :: tail) := by
          rw [List.append_assoc, List.cons_append]
        rw [cutFirst_eq_some_iff.2 ⟨same, absent⟩]
        rfl
    · rw [List.cons_append, reference?_of_ne brace, reference?_of_ne brace, ← List.cons_append,
        takeWhile_isWord_append]

theorem reference?_le {name : List Char} {taken : Nat}
    (refers : reference? rest = some (name, taken)) : taken ≤ rest.length := by
  cases rest with
  | nil => cases refers
  | cons c more =>
    by_cases brace : c = '{'
    · subst brace
      simp only [reference?, Option.map_eq_some_iff, Prod.mk.injEq] at refers
      obtain ⟨⟨inner, after⟩, found, rfl, rfl⟩ := refers
      obtain ⟨rfl, -⟩ := cutFirst_eq_some_iff.1 found
      simp only [List.length_cons, List.length_append]
      omega
    · rw [reference?_of_ne brace] at refers
      split at refers
      · cases refers
      · cases refers
        exact (List.takeWhile_prefix isWord).length_le

end Reference

section Variables

variable {env : Environment}

theorem expandVariables_of_ne {c : Char} (plain : c ≠ '$') (rest : List Char) :
    expandVariables env (c :: rest) = c :: expandVariables env rest := by
  rw [expandVariables, if_neg plain]

theorem expandVariables_of_not_mem {cs : List Char} (plain : '$' ∉ cs) :
    expandVariables env cs = cs := by
  induction cs with
  | nil => rw [expandVariables]
  | cons c rest ih =>
    rw [List.mem_cons, not_or] at plain
    rw [expandVariables_of_ne (Ne.symm plain.1), ih plain.2]

theorem expandVariables_append (cs : List Char) {tail : List Char} (unclosed : '}' ∉ tail) :
    expandVariables env (cs ++ '/' :: tail) =
      expandVariables env cs ++ '/' :: expandVariables env tail := by
  -- By the recursion of the expansion, which goes on behind each reference.
  induction cs using expandVariables.induct env with
  | case1 =>
    rw [List.nil_append, expandVariables_of_ne (by decide)]
    simp [expandVariables]
  | case2 c rest none ih =>
    rw [dite_eq_ite] at none
    rw [List.cons_append, expandVariables, expandVariables, reference?_append unclosed, none]
    dsimp only
    rw [ih, List.cons_append]
  | case3 c rest name taken refers ih =>
    rw [dite_eq_ite] at refers
    rw [List.cons_append, expandVariables, expandVariables, reference?_append unclosed, refers]
    dsimp only
    split at refers
    · have within := reference?_le refers
      rw [List.drop_append_of_le_length within, List.take_append_of_le_length within, ih,
        List.append_assoc]
    · cases refers

end Variables

/-- Expansion has nothing to do in a path, beside making it normal. -/
structure Settled (env : Environment) (path : String) : Prop where
  references : expandVariables env path.toList = path.toList
  home : path.toList.head? ≠ some '~'

instance (env : Environment) (path : String) : Decidable (Settled env path) :=
  decidable_of_iff (expandVariables env path.toList = path.toList ∧ path.toList.head? ≠ some '~')
    ⟨fun ⟨references, home⟩ => ⟨references, home⟩, fun settled => ⟨settled.references, settled.home⟩⟩

def IsPlain (name : String) : Prop := name.toList ≠ [] ∧ ∀ c ∈ name.toList, c ∉ ['$', '}', '~']

-- Character by character of the name; all characters there are would be too many.
instance (name : String) : Decidable (IsPlain name) :=
  @instDecidableAnd _ _ inferInstance (List.decidableBAll _ _)

variable {env : Environment} {path directory name : String}

theorem settled_of_not_mem (plain : '$' ∉ path.toList) (home : path.toList.head? ≠ some '~') :
    Settled env path := ⟨expandVariables_of_not_mem plain, home⟩

theorem IsPlain.not_mem (plain : IsPlain name) {c : Char} (special : c ∈ ['$', '}', '~']) :
    c ∉ name.toList := fun member => plain.2 c member special

theorem IsPlain.settled (plain : IsPlain name) : Settled env name :=
  settled_of_not_mem (plain.not_mem (by decide)) fun first =>
    plain.not_mem (by decide) (List.mem_of_mem_head? first)

theorem beneath_cases (directory name : String) :
    (directory.toList = [] ∧ beneath directory name = name) ∨
      ∃ above, (directory.toList = above ++ ['/'] ∨ directory.toList = above) ∧
        (beneath directory name).toList = above ++ '/' :: name.toList := by
  unfold beneath
  split
  · next empty =>
    rw [List.getLast?_eq_none_iff] at empty
    refine .inl ⟨empty, ?_⟩
    rw [← String.toList_inj, String.toList_append, empty, List.nil_append]
  · next slash =>
    obtain ⟨above, ends⟩ := List.getLast?_eq_some_iff.1 slash
    refine .inr ⟨above, .inl ends, ?_⟩
    rw [String.toList_append, ends, List.append_assoc]
    rfl
  · refine .inr ⟨directory.toList, .inr rfl, ?_⟩
    rw [String.toList_append, String.toList_append, List.append_assoc]
    rfl

theorem Settled.beneath (settled : Settled env directory) (plain : IsPlain name) :
    Settled env (beneath directory name) := by
  have named : Settled env name := plain.settled
  rcases beneath_cases directory name with ⟨-, same⟩ | ⟨above, ends, same⟩
  · rw [same]
    exact named
  · -- Also without its last slash the directory is settled, for the slash parts the work.
    have settledAbove : expandVariables env above = above := by
      rcases ends with ends | ends
      · have parted : expandVariables env (above ++ ['/']) =
            expandVariables env above ++ '/' :: expandVariables env [] :=
          expandVariables_append above (by decide)
        rw [← ends, settled.references, ends, expandVariables] at parted
        exact (List.append_cancel_right parted).symm
      · rw [← ends]
        exact settled.references
    constructor
    · rw [same, expandVariables_append _ (plain.not_mem (by decide)), settledAbove,
        named.references]
    · rw [same]
      cases above with
      | nil => simp
      | cons c rest =>
        have first := settled.home
        rcases ends with ends | ends <;> rw [ends] at first <;> exact first

theorem expand_of_settled (settled : Settled env path) (given : path ≠ "") :
    expand env path = normalize path := by
  obtain ⟨references, home⟩ := settled
  unfold expand
  rw [if_neg (by simpa using given), references]
  split
  · next rest tilde =>
    rw [tilde] at home
    exact absurd rfl home
  · rw [String.ofList_toList]

/-- A file that lies in a settled directory stays there when its path is expanded. -/
theorem expand_beneath (settled : Settled env directory) (plain : IsPlain name) :
    expand env (beneath directory name) = normalize (beneath directory name) := by
  refine expand_of_settled (settled.beneath plain) fun empty => ?_
  rcases beneath_cases directory name with ⟨-, same⟩ | ⟨above, -, same⟩
  · rw [← same, empty] at plain
    exact plain.1 rfl
  · rw [empty] at same
    exact absurd same.symm (by simp)

end WalletSetup.Path
