import WalletSetup.Number.Decimal
import WalletSetup.Proofs.Number.Numeral

/-! Runs of digits as floating-point numbers have them: digits of any script, with an underscore
between two of them here and there. Before such a number is read, its digits become those of ASCII
and its underscores go, and it is clear from what is left where each run has been. -/

set_option autoImplicit false

namespace WalletSetup.Number

open WalletSetup.Text

/-- Digits with single underscores between some of them, and the digits alone. -/
inductive Run : List Char → List Char → Prop where
  | nil : Run [] []
  | digit {c : Char} {cs ds : List Char} (digit : isDigit c = true) (rest : Run cs ds) :
    Run (c :: cs) (c :: ds)
  | spaced {c : Char} {cs ds : List Char} (digit : isDigit c = true) (rest : Run cs ds)
      (more : ds ≠ []) : Run (c :: '_' :: cs) (c :: ds)

section Characters

variable {c : Char}

def ascii (c : Char) : Char :=
  match digitValue? c with
  | some d => Char.ofNat (48 + d)
  | none => c

theorem asciiDigits_cons (c : Char) (cs : List Char) :
    asciiDigits (c :: cs) = ascii c :: asciiDigits cs := rfl

theorem ascii_other (other : isDigit c = false) : ascii c = c := by
  rw [isDigit, Option.isSome_eq_false_iff, Option.isNone_iff_eq_none] at other
  rw [ascii, other]

theorem ascii_underscore : ascii '_' = '_' := ascii_other (by decide)

theorem ascii_digit (digit : isDigit c = true) :
    (ascii c).isDigit = true ∧ digitValue? (ascii c) = digitValue? c := by
  have all : ∀ d < 10, (Char.ofNat (48 + d)).isDigit = true ∧
    digitValue? (Char.ofNat (48 + d)) = some d := by decide
  obtain ⟨d, found⟩ := Option.isSome_iff_exists.1 digit
  rw [ascii, found]
  exact all d (digitValue?_lt found)

theorem isDigit_ascii (c : Char) : (ascii c).isDigit = isDigit c := by
  cases digit : isDigit c with
  | true => exact (ascii_digit digit).1
  | false =>
    rw [ascii_other digit, ← Bool.not_eq_true]
    intro own
    rw [isDigit_of_isDigit own] at digit
    cases digit

theorem ascii_ne {mark : Char} (digit : isDigit c = true) (other : mark.isDigit = false) :
    ascii c ≠ mark := by
  rintro rfl
  rw [isDigit_ascii, digit] at other
  cases other

end Characters

section Underscores

variable {before : Option Char} {c : Char} {cs out : List Char}

theorem drop_nil : dropUnderscores none (asciiDigits []) = some [] := rfl

theorem drop_digit (digit : isDigit c = true) : dropUnderscores before (asciiDigits (c :: cs)) =
    (dropUnderscores (some (ascii c)) (asciiDigits cs)).map (ascii c :: ·) := by
  have mark : ascii c ≠ '_' := ascii_ne digit (by decide)
  rw [asciiDigits_cons, dropUnderscores, if_neg mark, if_neg (by simp [isDigit_ascii, digit])]

theorem drop_underscore (digit : isDigit c = true) :
    dropUnderscores (some (ascii c)) (asciiDigits ('_' :: cs)) =
      dropUnderscores (some '_') (asciiDigits cs) := by
  rw [asciiDigits_cons, ascii_underscore, dropUnderscores, if_pos rfl,
    if_pos (by simp [isDigit_ascii, digit])]

/-- Where no digit stands before, an underscore will not do, and otherwise it does not matter what
stands before. -/
theorem drop_quiet (noDigit : c.isDigit = false) (noUnderscore : c ≠ '_') :
    dropUnderscores (some c) (asciiDigits cs) = dropUnderscores none (asciiDigits cs) := by
  cases cs with
  | nil => simp [asciiDigits, dropUnderscores, noUnderscore]
  | cons d rest => simp [asciiDigits_cons, dropUnderscores, noDigit, noUnderscore]

theorem drop_other (other : isDigit c = false) (noUnderscore : c ≠ '_') :
    dropUnderscores none (asciiDigits (c :: cs)) =
      (dropUnderscores none (asciiDigits cs)).map (c :: ·) := by
  have same := ascii_other other
  have noDigit : c.isDigit = false := by rw [← same, isDigit_ascii, other]
  rw [asciiDigits_cons, same, dropUnderscores, if_neg noUnderscore, if_neg (by simp),
    drop_quiet noDigit noUnderscore]

/-- Before anything but an underscore it does not matter what stands before, if that is none. -/
theorem drop_steady (noUnderscore : cs.head? ≠ some '_') (settled : before ≠ some '_') :
    dropUnderscores before (asciiDigits cs) = dropUnderscores none (asciiDigits cs) := by
  cases cs with
  | nil => simp [asciiDigits, dropUnderscores, settled]
  | cons d rest =>
    have mark : ascii d ≠ '_' := by
      cases digit : isDigit d with
      | true => exact ascii_ne digit (by decide)
      | false => simpa [ascii_other digit] using noUnderscore
    simp [asciiDigits_cons, dropUnderscores, mark, settled]

theorem drop_after_underscore (done : dropUnderscores (some '_') (asciiDigits cs) = some out) :
    (∃ d rest, cs = d :: rest ∧ isDigit d = true) ∧
      dropUnderscores none (asciiDigits cs) = some out := by
  cases cs with
  | nil => simp [asciiDigits, dropUnderscores] at done
  | cons d rest =>
    cases digit : isDigit d with
    | true =>
      rw [drop_digit digit] at done ⊢
      exact ⟨⟨d, rest, rfl, digit⟩, done⟩
    | false =>
      rw [asciiDigits_cons, dropUnderscores, isDigit_ascii, digit] at done
      simp at done

theorem exists_rest (other : isDigit c = false)
    (done : dropUnderscores none (asciiDigits (c :: cs)) = some out) :
    c ≠ '_' ∧ ∃ left, out = c :: left ∧ dropUnderscores none (asciiDigits cs) = some left := by
  by_cases same : c = '_'
  · rw [same, asciiDigits_cons, ascii_underscore, dropUnderscores, if_pos rfl] at done
    cases done
  · rw [drop_other other same, Option.map_eq_some_iff] at done
    obtain ⟨left, done, rfl⟩ := done
    exact ⟨same, left, rfl, done⟩

theorem eq_nil_of_drop (done : dropUnderscores none (asciiDigits cs) = some []) : cs = [] := by
  cases cs with
  | nil => rfl
  | cons c rest =>
    cases digit : isDigit c with
    | true =>
      rw [drop_digit digit, Option.map_eq_some_iff] at done
      obtain ⟨_, _, same⟩ := done
      cases same
    | false =>
      obtain ⟨-, left, same, -⟩ := exists_rest digit done
      cases same

/-- What is not an underscore stays. -/
theorem mem_of_drop (done : dropUnderscores before (asciiDigits cs) = some out) {c : Char}
    (member : c ∈ cs) (noUnderscore : c ≠ '_') (other : isDigit c = false) : c ∈ out := by
  induction cs generalizing before out with
  | nil => cases member
  | cons d rest ih =>
    rw [asciiDigits_cons, dropUnderscores] at done
    split at done
    · next mark =>
      have later : c ∈ rest := by
        rcases List.mem_cons.1 member with rfl | later
        · rw [ascii_other other] at mark
          exact absurd mark noUnderscore
        · exact later
      split at done
      · exact ih done later
      · cases done
    · split at done
      · cases done
      · rw [Option.map_eq_some_iff] at done
        obtain ⟨left, done, rfl⟩ := done
        rcases List.mem_cons.1 member with rfl | later
        · rw [ascii_other other]
          exact List.mem_cons_self
        · exact List.mem_cons_of_mem _ (ih done later)

end Underscores

section Runs

variable {cs ws ds rest out : List Char} {c : Char}

theorem Run.all (run : Run ws ds) : ∀ c ∈ ds, isDigit c = true := by
  induction run with
  | nil => exact nofun
  | digit digit _ ih | spaced digit _ _ ih => exact List.forall_mem_cons.2 ⟨digit, ih⟩

theorem Run.drop (run : Run ws ds) (stops : rest.head? ≠ some '_') {before : Option Char}
    (settled : before ≠ some '_' ∨ ds ≠ []) : dropUnderscores before (asciiDigits (ws ++ rest)) =
      (dropUnderscores none (asciiDigits rest)).map (ds.map ascii ++ ·) := by
  induction run generalizing before with
  | nil =>
    rw [List.nil_append, drop_steady stops (settled.resolve_right fun more => more rfl)]
    exact Option.map_id'.symm
  | @digit c _ _ digit _ ih =>
    have noUnderscore : some (ascii c) ≠ some '_' := by simpa using ascii_ne digit (by decide)
    rw [List.cons_append, drop_digit digit, ih (.inl noUnderscore), Option.map_map]
    rfl
  | @spaced c _ _ digit _ more ih =>
    rw [List.cons_append, List.cons_append, drop_digit digit, drop_underscore digit,
      ih (.inr more), Option.map_map]
    rfl

/-- A text that is read begins with a run, which may be empty, and no digit comes right after it. -/
theorem exists_run (done : dropUnderscores none (asciiDigits cs) = some out) :
    ∃ ws ds rest left, cs = ws ++ rest ∧ Run ws ds ∧ out = ds.map ascii ++ left ∧
      dropUnderscores none (asciiDigits rest) = some left ∧
      ∀ c ∈ rest.head?, isDigit c = false := by
  induction length : cs.length using Nat.strong_induction_on generalizing cs out with
  | _ n ih =>
    subst length
    cases cs with
    | nil => exact ⟨[], [], [], out, rfl, .nil, rfl, done, nofun⟩
    | cons c cs =>
      cases digit : isDigit c with
      | false => exact ⟨[], [], c :: cs, out, rfl, .nil, rfl, done, by simpa using digit⟩
      | true =>
        rw [drop_digit digit, Option.map_eq_some_iff] at done
        obtain ⟨later, done, rfl⟩ := done
        by_cases underscore : cs.head? = some '_'
        -- An underscore is passed over together with the digit before it.
        · obtain ⟨others, rfl⟩ : ∃ others, cs = '_' :: others := by
            cases cs with
            | nil => cases underscore
            | cons d others => exact ⟨others, by simpa using underscore⟩
          rw [drop_underscore digit] at done
          obtain ⟨⟨d, more, rfl, next⟩, done⟩ := drop_after_underscore done
          obtain ⟨ws, ds, rest, left, split, run, rfl, done, stops⟩ :=
            ih _ (by simp) done rfl
          have filled : ds ≠ [] := by
            rintro rfl
            cases run
            rw [List.nil_append] at split
            subst split
            have last := stops d rfl
            rw [next] at last
            cases last
          exact ⟨c :: '_' :: ws, c :: ds, rest, left, by simp [split], .spaced digit run filled,
            rfl, done, stops⟩
        · have noUnderscore : some (ascii c) ≠ some '_' := by
            simpa using ascii_ne digit (by decide)
          rw [drop_steady underscore noUnderscore] at done
          obtain ⟨ws, ds, rest, left, rfl, run, rfl, done, stops⟩ := ih _ (by simp) done rfl
          exact ⟨c :: ws, c :: ds, rest, left, rfl, .digit digit run, rfl, done, stops⟩

theorem takeWhile_run {p : Char → Bool} (all : ∀ c ∈ ws, p c = true)
    (stops : ∀ c ∈ rest.head?, p c = false) :
    (ws ++ rest).takeWhile p = ws ∧ (ws ++ rest).dropWhile p = rest := by
  rw [List.takeWhile_append_of_pos all, List.dropWhile_append_of_pos all]
  cases rest with
  | nil => simp
  | cons c others =>
    have stop := stops c rfl
    rw [List.takeWhile_cons_of_neg (by simp [stop]), List.dropWhile_cons_of_neg (by simp [stop]),
      List.append_nil]
    exact ⟨rfl, rfl⟩

theorem Run.ascii_all (run : Run ws ds) : ∀ c ∈ ds.map ascii, c.isDigit = true := by
  intro c member
  obtain ⟨d, known, rfl⟩ := List.mem_map.1 member
  exact (ascii_digit (run.all d known)).1

theorem Run.digitsIn_eq (run : Run ws ds) {qs es : List Char} (later : Run qs es) :
    digitsIn (ds.map ascii ++ es.map ascii) = value (ds ++ es) := by
  have same {cs : List Char} (all : ∀ c ∈ cs, isDigit c = true) :
      (cs.map ascii).filterMap digitValue? = cs.filterMap digitValue? := by
    rw [List.filterMap_map]
    exact List.filterMap_congr fun c member => (ascii_digit (all c member)).2
  rw [digitsIn, value, List.filterMap_append, List.filterMap_append, same run.all, same later.all]

theorem Run.digitsIn_map (run : Run ws ds) : digitsIn (ds.map ascii) = value ds := by
  simpa using run.digitsIn_eq .nil

theorem take_run (done : dropUnderscores none (asciiDigits cs) = some out) :
    ∃ ws ds rest, cs = ws ++ rest ∧ Run ws ds ∧ out.takeWhile Char.isDigit = ds.map ascii ∧
      dropUnderscores none (asciiDigits rest) = some (out.dropWhile Char.isDigit) ∧
      ∀ c ∈ rest.head?, isDigit c = false := by
  obtain ⟨ws, ds, rest, left, rfl, run, rfl, done, stops⟩ := exists_run done
  have stop : ∀ c ∈ left.head?, c.isDigit = false := by
    cases rest with
    | nil =>
      cases drop_nil.symm.trans done
      exact nofun
    | cons c others =>
      have other := stops c rfl
      obtain ⟨-, left, rfl, -⟩ := exists_rest other done
      intro d first
      obtain rfl : c = d := Option.some.inj first
      rw [← ascii_other other, isDigit_ascii, other]
  obtain ⟨taken, left⟩ := takeWhile_run run.ascii_all stop
  exact ⟨ws, ds, rest, rfl, run, taken, left.symm ▸ done, stops⟩

end Runs

end WalletSetup.Number
