import Mathlib.Algebra.Group.Nat.Defs
import Mathlib.Data.List.Basic
import Mathlib.Data.List.TakeWhile
import WalletSetup.Number.Numeral
import WalletSetup.Proofs.Text.Cutting
import WalletSetup.Proofs.Text.Figures

/-! Which texts whole numbers are read from, if no blanks stand around them: digits of any script,
with a sign or without one. Whole numbers are read as they are written. -/

set_option autoImplicit false

namespace WalletSetup.Number

open WalletSetup.Text

structure IsRun (digits : List Char) : Prop where
  filled : digits ≠ []
  all : ∀ c ∈ digits, isDigit c = true
  short : digits.length ≤ digitLimit

def value (digits : List Char) : Nat := ofDigits 10 (digits.filterMap digitValue?)

/-- The number that a text stands for. -/
inductive Denotes : List Char → Int → Prop where
  | unsigned {digits : List Char} (run : IsRun digits) : Denotes digits (value digits)
  | plus {digits : List Char} (run : IsRun digits) : Denotes ('+' :: digits) (value digits)
  | minus {digits : List Char} (run : IsRun digits) : Denotes ('-' :: digits) (-value digits)

section Characters

variable {c : Char}

theorem digitValue?_of_isDigit (digit : c.isDigit = true) :
    digitValue? c = some (c.toNat - 48) := by
  rw [digitValue?, if_pos digit]

theorem isDigit_of_isDigit (digit : c.isDigit = true) : isDigit c = true := by
  rw [isDigit, digitValue?_of_isDigit digit, Option.isSome_some]

theorem isPadding_of_isFigure (figure : IsFigure c) : isPadding c = false := by
  by_cases ascii : c.toNat < 128
  · have none : IsFigure c → isPadding c = false := forall_ascii ascii (by decide +kernel)
    exact none figure
  · rw [isPadding, if_neg (by omega)]
    exact isBlank_of_isFigure figure

theorem takeSign_of_isDigit {cs : List Char} (digit : isDigit c = true) :
    takeSign (c :: cs) = (false, c :: cs) := by
  unfold takeSign
  split
  · next same => cases same; exact absurd digit (by decide)
  · next same => cases same; exact absurd digit (by decide)
  · rfl

end Characters

section Digits

variable {digits : List Char}

theorem readDigits_of_all (filled : digits ≠ []) (all : ∀ c ∈ digits, isDigit c = true) :
    readDigits digits = if digitLimit < digits.length then .error (.tooLong digits.length)
      else .ok (value digits) := by
  have run : digits.takeWhile (fun c => isDigit c || c = '_') = digits := by
    apply List.takeWhile_eq_self_iff.2
    intro c member
    rw [all c member, Bool.true_or]
  have noUnderscore : '_' ∉ digits := fun member => absurd (all _ member) (by decide)
  have separated : wellSeparated digits = true := by
    rw [wellSeparated, splitOn_of_not_mem noUnderscore]
    simpa using filled
  have count : (digits.filterMap digitValue?).length = digits.length :=
    List.filterMap_length_eq_length.2 all
  unfold readDigits
  simp only [run, separated, count]
  rw [if_neg (by decide), if_neg (Nat.lt_irrefl digits.length)]
  rfl

theorem IsRun.read (run : IsRun digits) : readDigits digits = .ok (value digits) := by
  rw [readDigits_of_all run.filled run.all, if_neg (Nat.not_lt.2 run.short)]

theorem IsRun.takeSign (run : IsRun digits) : takeSign digits = (false, digits) := by
  obtain ⟨c, cs, rfl⟩ := List.exists_cons_of_ne_nil run.filled
  exact takeSign_of_isDigit (run.all c List.mem_cons_self)

end Digits

section Texts

variable {cs : List Char} {n : Int}

theorem isFigure_of_takeSign (all : ∀ c ∈ (takeSign cs).2, isDigit c = true) :
    ∀ c ∈ cs, IsFigure c := by
  unfold takeSign at all
  split at all
  · exact List.forall_mem_cons.2 ⟨.inr (.inr rfl), fun c member => .inl (all c member)⟩
  · exact List.forall_mem_cons.2 ⟨.inr (.inl rfl), fun c member => .inl (all c member)⟩
  · exact fun c member => .inl (all c member)

theorem readInteger_of_takeSign (all : ∀ c ∈ (takeSign cs).2, isDigit c = true) :
    readInteger (String.ofList cs) = (readDigits (takeSign cs).2).map (signed (takeSign cs).1) := by
  have noPadding : ∀ c ∈ cs, isPadding c = false := fun c member =>
    isPadding_of_isFigure (isFigure_of_takeSign all c member)
  rw [readInteger, String.toList_ofList, trimBy_of_none noPadding]

theorem denotes_takeSign (run : IsRun (takeSign cs).2) :
    Denotes cs (signed (takeSign cs).1 (value (takeSign cs).2)) := by
  unfold takeSign at run ⊢
  split at run
  · exact .minus run
  · exact .plus run
  · exact .unsigned run

theorem Denotes.takeSign_eq (text : Denotes cs n) :
    IsRun (takeSign cs).2 ∧ n = signed (takeSign cs).1 (value (takeSign cs).2) := by
  cases text with
  | unsigned run =>
    rw [run.takeSign]
    exact ⟨run, rfl⟩
  | plus run => exact ⟨run, rfl⟩
  | minus run => exact ⟨run, rfl⟩

theorem Denotes.isFigure (text : Denotes cs n) : ∀ c ∈ cs, IsFigure c :=
  isFigure_of_takeSign text.takeSign_eq.1.all

theorem Denotes.read (text : Denotes cs n) : readInteger (String.ofList cs) = .ok n := by
  obtain ⟨run, same⟩ := text.takeSign_eq
  rw [readInteger_of_takeSign run.all, run.read, same]
  rfl

theorem denotes_of_read (filled : (takeSign cs).2 ≠ [])
    (all : ∀ c ∈ (takeSign cs).2, isDigit c = true)
    (read : readInteger (String.ofList cs) = .ok n) : Denotes cs n := by
  rw [readInteger_of_takeSign all, readDigits_of_all filled all] at read
  split at read
  · cases read
  · next short =>
    cases read
    exact denotes_takeSign ⟨filled, all, Nat.not_lt.1 short⟩

end Texts

section Decimals

variable {n : Nat}

theorem isDigit_of_mem_digits {c : Char} (member : c ∈ Nat.toDigits 10 n) : c.isDigit = true :=
  Nat.isDigit_of_mem_toDigits (by decide) (by decide) member

theorem isRun_toDigits (short : n < 10 ^ digitLimit) : IsRun (Nat.toDigits 10 n) where
  filled := Nat.toDigits_ne_nil
  all _ member := isDigit_of_isDigit (isDigit_of_mem_digits member)
  short := (Nat.length_toDigits_le_iff (by decide) (by decide)).2 short

theorem value_toDigits (n : Nat) : value (Nat.toDigits 10 n) = n := by
  have values : (Nat.toDigits 10 n).filterMap digitValue? =
      (Nat.toDigits 10 n).map fun c => c.toNat - 48 :=
    List.filterMap_eq_map_iff_forall_eq_some.2 fun c member =>
      digitValue?_of_isDigit (isDigit_of_mem_digits member)
  have read : Nat.ofDigitChars 10 (Nat.toDigits 10 n) 0 = n := Nat.ofDigitChars_ten_toDigits
  rw [value, values, ofDigits, List.foldl_map]
  rw [Nat.ofDigitChars_eq_foldl] at read
  simp only [Nat.mul_comm 10] at read
  exact read

end Decimals

def intChars (n : Int) : List Char :=
  if n < 0 then '-' :: Nat.toDigits 10 n.natAbs else Nat.toDigits 10 n.natAbs

theorem toList_toString (n : Int) : (toString n).toList = intChars n := by
  rw [Int.toString_eq_repr, Int.repr_eq_if, intChars]
  by_cases negative : n < 0
  · rw [if_pos negative, if_neg (by omega), String.toList_append, Nat.toList_repr,
      show (-n).toNat = n.natAbs by omega]
    rfl
  · rw [if_neg negative, if_pos (by omega), Nat.toList_repr, show n.toNat = n.natAbs by omega]

theorem denotes_intChars {n : Int} (short : n.natAbs < 10 ^ digitLimit) :
    Denotes (intChars n) n := by
  have run := isRun_toDigits short
  have same := value_toDigits n.natAbs
  unfold intChars
  by_cases negative : n < 0
  · rw [if_pos negative]
    convert Denotes.minus run
    omega
  · rw [if_neg negative]
    convert Denotes.unsigned run
    omega

/-- Whole numbers are read as they are written, unless they are too long. -/
theorem readInteger_intChars {n : Int} (short : n.natAbs < 10 ^ digitLimit) :
    readInteger (String.ofList (intChars n)) = .ok n :=
  (denotes_intChars short).read

end WalletSetup.Number
