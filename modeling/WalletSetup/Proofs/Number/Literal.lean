import WalletSetup.Proofs.Number.Runs

/-! Which texts floating-point numbers are read from: digits with at most one point among them, and
perhaps a power of ten behind them. A sign and blanks may stand around the whole. -/

set_option autoImplicit false

namespace WalletSetup.Number

open WalletSetup.Text

inductive Sign : List Char → Bool → Prop where
  | none : Sign [] false
  | plus : Sign ['+'] false
  | minus : Sign ['-'] true

/-- At least one digit, with at most one point, and the digits before and after the point. -/
inductive Mantissa : List Char → List Char → List Char → Prop where
  | whole {ws ds : List Char} (run : Run ws ds) (some : ds ≠ []) : Mantissa ws ds []
  | pointed {ws ps ds es : List Char} (before : Run ws ds) (after : Run ps es)
      (some : ds ≠ [] ∨ es ≠ []) : Mantissa (ws ++ '.' :: ps) ds es

inductive Power : List Char → Int → Prop where
  | none : Power [] 0
  | given {mark : Char} {sign ws ds : List Char} {negative : Bool} (marked : mark = 'e' ∨ mark = 'E')
      (first : Sign sign negative) (run : Run ws ds) (some : ds ≠ []) :
    Power (mark :: (sign ++ ws)) (signed negative (value ds))

/-- A number without a sign, as digits and the power of ten that they are multiplied by. -/
inductive Literal : List Char → Nat → Int → Prop where
  | of {ms ps ds es : List Char} {power : Int} (mantissa : Mantissa ms ds es)
      (scale : Power ps power) : Literal (ms ++ ps) (value (ds ++ es)) (power - es.length)

section Signs

variable {cs out sign : List Char} {negative : Bool}

theorem exists_sign (done : dropUnderscores none (asciiDigits cs) = some out) :
    ∃ sign rest, cs = sign ++ rest ∧ Sign sign (takeSign out).1 ∧
      dropUnderscores none (asciiDigits rest) = some (takeSign out).2 := by
  cases cs with
  | nil =>
    cases drop_nil.symm.trans done
    exact ⟨[], [], rfl, .none, rfl⟩
  | cons c rest =>
    cases digit : isDigit c with
    | true =>
      have first := done
      rw [drop_digit digit, Option.map_eq_some_iff] at first
      obtain ⟨left, -, rfl⟩ := first
      rw [takeSign_of_isDigit (isDigit_of_isDigit (ascii_digit digit).1)]
      exact ⟨[], c :: rest, rfl, .none, done⟩
    | false =>
      obtain ⟨-, left, rfl, later⟩ := exists_rest digit done
      unfold takeSign
      split
      · next same =>
        obtain ⟨rfl, rfl⟩ := List.cons.inj same
        exact ⟨['-'], rest, rfl, .minus, later⟩
      · next same =>
        obtain ⟨rfl, rfl⟩ := List.cons.inj same
        exact ⟨['+'], rest, rfl, .plus, later⟩
      · exact ⟨[], c :: rest, rfl, .none, done⟩

theorem drop_sign (first : Sign sign negative) (cs : List Char) :
    dropUnderscores none (asciiDigits (sign ++ cs)) =
      (dropUnderscores none (asciiDigits cs)).map (sign ++ ·) := by
  cases first with
  | none => exact Option.map_id'.symm
  | plus => exact drop_other (by decide) (by decide)
  | minus => exact drop_other (by decide) (by decide)

theorem takeSign_append (first : Sign sign negative)
    (unsigned : out.head? ≠ some '-' ∧ out.head? ≠ some '+') :
    takeSign (sign ++ out) = (negative, out) := by
  cases first with
  | none =>
    rw [List.nil_append]
    unfold takeSign
    split
    · exact absurd rfl unsigned.1
    · exact absurd rfl unsigned.2
    · rfl
  | plus | minus => rfl

end Signs

section Literals

variable {cs out : List Char} {negative : Bool}

theorem power_of_read {power : Int} (done : dropUnderscores none (asciiDigits cs) = some out)
    (stops : ∀ c ∈ cs.head?, isDigit c = false) (read : readPower? out = some power) :
    Power cs power := by
  cases cs with
  | nil =>
    cases drop_nil.symm.trans done
    cases read
    exact .none
  | cons c rest =>
    -- Mark, sign and digits are taken off one by one, as the underscores between them go.
    obtain ⟨-, left, rfl, behind⟩ := exists_rest (stops c rfl) done
    obtain ⟨sign, digits, rfl, first, rest⟩ := exists_sign behind
    unfold readPower? at read
    dsimp only at read
    generalize takeSign left = parts at first rest read
    obtain ⟨negative, out⟩ := parts
    dsimp only at first rest read
    split at read
    · next marked =>
      simp only [Bool.and_eq_true, Bool.or_eq_true, decide_eq_true_eq, Bool.not_eq_true',
        List.isEmpty_eq_false_iff, List.all_eq_true] at marked
      obtain ⟨⟨mark, filled⟩, all⟩ := marked
      cases read
      obtain ⟨ws, ds, last, rfl, run, taken, last, -⟩ := take_run rest
      rw [List.takeWhile_eq_self_iff.2 all] at taken
      rw [List.dropWhile_eq_nil_iff.2 all] at last
      obtain rfl := eq_nil_of_drop last
      subst taken
      rw [List.append_nil, run.digitsIn_map]
      exact .given mark first run (by simpa using filled)
    · cases read

theorem exists_pointed {behind : List Char} (stops : ∀ c ∈ cs.head?, isDigit c = false)
    (done : dropUnderscores none (asciiDigits cs) = some ('.' :: behind)) :
    ∃ later, cs = '.' :: later ∧ dropUnderscores none (asciiDigits later) = some behind := by
  cases cs with
  | nil => cases drop_nil.symm.trans done
  | cons c later =>
    obtain ⟨-, left, same, more⟩ := exists_rest (stops c rfl) done
    obtain ⟨rfl, rfl⟩ := List.cons.inj same
    exact ⟨later, rfl, more⟩

theorem literal_of_read {x : Binary64} (done : dropUnderscores none (asciiDigits cs) = some out)
    (read : readDecimal? negative out = some x) :
    ∃ digits power, Literal cs digits power ∧ x = .ofDecimal negative digits power := by
  obtain ⟨ws, ds, rest, rfl, run, taken, done, stops⟩ := take_run done
  unfold readDecimal? at read
  rw [taken] at read
  generalize out.dropWhile Char.isDigit = left at done read
  dsimp only at read
  split at read
  -- A point and what comes behind it.
  · next behind =>
    obtain ⟨later, rfl, pointed⟩ := exists_pointed stops done
    obtain ⟨ps, es, last, rfl, part, taken, last, stops⟩ := take_run pointed
    dsimp only at read
    rw [taken] at read
    split at read
    · cases read
    · next some =>
      obtain ⟨power, scale, rfl⟩ := Option.map_eq_some_iff.1 read
      have mantissa : Mantissa (ws ++ '.' :: ps) ds es :=
        .pointed run part (imp_iff_not_or.1 (by simpa using some))
      have literal := Literal.of mantissa (power_of_read last stops scale)
      rw [List.append_assoc] at literal
      refine ⟨_, _, literal, ?_⟩
      rw [run.digitsIn_eq part, List.length_map]
  · split at read
    · cases read
    · next some =>
      obtain ⟨power, scale, rfl⟩ := Option.map_eq_some_iff.1 read
      have mantissa : Mantissa ws ds [] := .whole run (by simpa using some)
      refine ⟨_, _, Literal.of mantissa (power_of_read done stops scale), ?_⟩
      rw [← run.digitsIn_eq .nil]
      rfl

theorem noDigit_of_mark {left : List Char} (last : ∀ c ∈ left.head?, c = 'e' ∨ c = 'E') :
    ∀ c ∈ left.head?, c.isDigit = false := by
  intro c first
  rcases last c first with rfl | rfl <;> decide

theorem noUnderscore_of_mark {left : List Char} (last : ∀ c ∈ left.head?, c = 'e' ∨ c = 'E') :
    left.head? ≠ some '_' := by
  intro same
  exact absurd (last '_' same) (by decide)

theorem read_of_power {power : Int} (scale : Power cs power) : ∃ left,
    dropUnderscores none (asciiDigits cs) = some left ∧ readPower? left = some power ∧
      (∀ c ∈ cs.head?, c = 'e' ∨ c = 'E') ∧ ∀ c ∈ left.head?, c = 'e' ∨ c = 'E' := by
  cases scale with
  | none => exact ⟨[], rfl, rfl, nofun, nofun⟩
  | @given mark sign ws ds negative marked first run some =>
    have digits : dropUnderscores .none (asciiDigits (ws ++ [])) = _ :=
      run.drop (by simp) (.inr some)
    rw [List.append_nil, drop_nil, Option.map_some, List.append_nil] at digits
    have other : isDigit mark = false ∧ mark ≠ '_' := by rcases marked with rfl | rfl <;> decide
    have done : dropUnderscores none (asciiDigits (mark :: (sign ++ ws))) =
        .some (mark :: (sign ++ ds.map ascii)) := by
      rw [drop_other other.1 other.2, drop_sign first, digits]
      rfl
    -- The digits start with a digit, so that no second sign is taken off.
    have unsigned : (ds.map ascii).head? ≠ .some '-' ∧ (ds.map ascii).head? ≠ .some '+' := by
      obtain ⟨d, others, rfl⟩ := List.exists_cons_of_ne_nil some
      have digit := run.all d List.mem_cons_self
      exact ⟨by simpa using ascii_ne digit (by decide), by simpa using ascii_ne digit (by decide)⟩
    refine ⟨_, done, ?_, by simpa using marked, by simpa using marked⟩
    have marks : (decide (mark = 'e') || decide (mark = 'E')) = true := by simpa using marked
    have all : (ds.map ascii).all Char.isDigit = true := List.all_eq_true.2 run.ascii_all
    have filled : (ds.map ascii).isEmpty = false := by simpa using some
    unfold readPower?
    dsimp only
    rw [takeSign_append first unsigned, marks, all, filled, run.digitsIn_map]
    rfl

theorem readDecimal?_whole {whole left : List Char} (all : ∀ c ∈ whole, c.isDigit = true)
    (last : ∀ c ∈ left.head?, c = 'e' ∨ c = 'E') :
    readDecimal? negative (whole ++ left) =
      if whole.isEmpty then none
      else (readPower? left).map fun power => .ofDecimal negative (digitsIn whole) power := by
  obtain ⟨taken, dropped⟩ := takeWhile_run all (noDigit_of_mark last)
  unfold readDecimal?
  rw [taken, dropped]
  dsimp only
  split
  · exact absurd (last '.' rfl) (by decide)
  · simp

theorem readDecimal?_pointed {whole behind : List Char} (all : ∀ c ∈ whole, c.isDigit = true) :
    readDecimal? negative (whole ++ '.' :: behind) =
      if whole.isEmpty && (behind.takeWhile Char.isDigit).isEmpty then none
      else (readPower? (behind.dropWhile Char.isDigit)).map fun power =>
        .ofDecimal negative (digitsIn (whole ++ behind.takeWhile Char.isDigit))
          (power - (behind.takeWhile Char.isDigit).length) := by
  have stop : ∀ c ∈ ('.' :: behind).head?, c.isDigit = false := by simp
  obtain ⟨taken, dropped⟩ := takeWhile_run all stop
  unfold readDecimal?
  rw [taken, dropped]
  rfl

/-- The text is read as these digits under either sign. Its first character is no sign. -/
def ReadsAs (cs : List Char) (digits : Nat) (power : Int) : Prop :=
  ∃ c rest, dropUnderscores none (asciiDigits cs) = some (c :: rest) ∧
    (c.isDigit = true ∨ c = '.') ∧
    ∀ negative, readDecimal? negative (c :: rest) = some (.ofDecimal negative digits power)

section Mantissas

variable {ws ps ms ds es : List Char} {power : Int}

theorem Run.readsAs (run : Run ws ds) (filled : ds ≠ []) (scale : Power ps power) :
    ReadsAs (ws ++ ps) (value ds) power := by
  obtain ⟨left, done, read, stops, last⟩ := read_of_power scale
  have out : dropUnderscores none (asciiDigits (ws ++ ps)) = _ :=
    run.drop (noUnderscore_of_mark stops) (.inr filled)
  rw [done, Option.map_some] at out
  have decimal (negative : Bool) : readDecimal? negative (ds.map ascii ++ left) =
      some (.ofDecimal negative (value ds) power) := by
    rw [readDecimal?_whole run.ascii_all last, if_neg (by simpa using filled), read,
      run.digitsIn_map]
    rfl
  obtain ⟨d, others, rfl⟩ := List.exists_cons_of_ne_nil filled
  exact ⟨ascii d, _, out, .inl (ascii_digit (run.all d List.mem_cons_self)).1, decimal⟩

theorem Run.readsAs_pointed (run : Run ws ds) (part : Run ms es) (filled : ds ≠ [] ∨ es ≠ [])
    (scale : Power ps power) :
    ReadsAs (ws ++ '.' :: (ms ++ ps)) (value (ds ++ es)) (power - es.length) := by
  obtain ⟨left, done, read, stops, last⟩ := read_of_power scale
  -- The underscores go on both sides of the point, from the last part on.
  have behind : dropUnderscores none (asciiDigits ('.' :: (ms ++ ps))) =
      some ('.' :: (es.map ascii ++ left)) := by
    have out : dropUnderscores none (asciiDigits (ms ++ ps)) = _ :=
      part.drop (noUnderscore_of_mark stops) (.inl nofun)
    rw [drop_other (by decide) (by decide), out, done]
    rfl
  have out : dropUnderscores none (asciiDigits (ws ++ '.' :: (ms ++ ps))) = _ :=
    run.drop (by simp) (.inl nofun)
  rw [behind, Option.map_some] at out
  have decimal (negative : Bool) :
      readDecimal? negative (ds.map ascii ++ '.' :: (es.map ascii ++ left)) =
        some (.ofDecimal negative (value (ds ++ es)) (power - es.length)) := by
    obtain ⟨taken, dropped⟩ := takeWhile_run part.ascii_all (noDigit_of_mark last)
    rw [readDecimal?_pointed run.ascii_all, taken, dropped, run.digitsIn_eq part,
      List.length_map, if_neg, read]
    · rfl
    · simpa using imp_iff_not_or.2 filled
  cases ds with
  | nil => exact ⟨'.', _, out, .inr rfl, decimal⟩
  | cons d others =>
    exact ⟨ascii d, _, out, .inl (ascii_digit (run.all d List.mem_cons_self)).1, decimal⟩

end Mantissas

theorem read_of_literal {digits : Nat} {power : Int} (literal : Literal cs digits power) :
    ReadsAs cs digits power := by
  obtain @⟨ms, ps, ds, es, power, mantissa, scale⟩ := literal
  cases mantissa with
  | whole run filled => simpa using run.readsAs filled scale
  | pointed before after filled =>
    rw [List.append_assoc]
    exact before.readsAs_pointed after filled scale

end Literals

section Texts

variable {c : Char}

def IsMark (c : Char) : Prop := isDigit c = true ∨ c ∈ ['_', '.', 'e', 'E', '+', '-']

instance (c : Char) : Decidable (IsMark c) :=
  inferInstanceAs (Decidable (isDigit c = true ∨ c ∈ ['_', '.', 'e', 'E', '+', '-']))

theorem not_isPadding_of_isMark (mark : IsMark c) : isPadding c = false := by
  rcases mark with digit | other
  · exact isPadding_of_isFigure (.inl digit)
  · simp only [List.mem_cons, List.not_mem_nil, or_false] at other
    rcases other with rfl | rfl | rfl | rfl | rfl | rfl <;> decide

theorem Run.isMark {ws ds : List Char} (run : Run ws ds) : ∀ c ∈ ws, IsMark c := by
  induction run with
  | nil => exact nofun
  | digit digit _ ih => exact List.forall_mem_cons.2 ⟨.inl digit, ih⟩
  | spaced digit _ _ ih =>
    exact List.forall_mem_cons.2 ⟨.inl digit, List.forall_mem_cons.2 ⟨.inr (by decide), ih⟩⟩

theorem Sign.isMark {sign : List Char} {negative : Bool} (first : Sign sign negative) :
    ∀ c ∈ sign, IsMark c := by
  cases first <;> simp [IsMark]

theorem Literal.isMark {cs : List Char} {digits : Nat} {power : Int}
    (literal : Literal cs digits power) : ∀ c ∈ cs, IsMark c := by
  obtain ⟨mantissa, scale⟩ := literal
  refine List.forall_mem_append.2 ⟨?_, ?_⟩
  · cases mantissa with
    | whole run _ => exact run.isMark
    | pointed before after _ =>
      refine List.forall_mem_append.2 ⟨before.isMark, ?_⟩
      exact List.forall_mem_cons.2 ⟨.inr (by decide), after.isMark⟩
  · cases scale with
    | none => exact nofun
    | given marked first run _ =>
      refine List.forall_mem_cons.2 ⟨.inr ?_, List.forall_mem_append.2 ⟨first.isMark, run.isMark⟩⟩
      rcases marked with rfl | rfl <;> decide

theorem readSpecial?_eq_some {negative : Bool} {cs : List Char} {x : Binary64}
    (read : readSpecial? negative cs = some x) : x.isFinite = false ∧
      cs.map Char.toLower ∈ ["inf".toList, "infinity".toList, "nan".toList] := by
  unfold readSpecial? at read
  simp only [← String.toList_inj, String.toList_ofList] at read
  split at read
  · next named =>
    cases read
    simp only [Bool.or_eq_true, decide_eq_true_eq] at named
    exact ⟨rfl, by rcases named with named | named <;> simp [named]⟩
  · split at read
    · next named =>
      cases read
      exact ⟨rfl, by simp [named]⟩
    · cases read

theorem readSpecial?_eq_none {negative : Bool} {cs : List Char}
    (first : c.isDigit = true ∨ c = '.') : readSpecial? negative (c :: cs) = none := by
  have ascii : c.toNat < 128 := by
    rcases first with digit | rfl
    · have bounds := isDigit_iff_toNat.1 digit
      omega
    · decide
  have apart : c.isDigit = true ∨ c = '.' → c.toLower ≠ 'i' ∧ c.toLower ≠ 'n' :=
    forall_ascii ascii (by decide +kernel)
  obtain ⟨noI, noN⟩ := apart first
  rw [← Option.not_isSome_iff_eq_none, Option.isSome_iff_exists]
  rintro ⟨x, read⟩
  have named := (readSpecial?_eq_some read).2
  simp only [List.map_cons, List.mem_cons, List.not_mem_nil, or_false] at named
  rcases named with named | named | named
  · exact noI (List.cons.inj named).1
  · exact noI (List.cons.inj named).1
  · exact noN (List.cons.inj named).1

theorem readReal?_eq (s : String) : readReal? s =
    (dropUnderscores none (asciiDigits (trimBy isPadding s.toList))).bind fun out =>
      (readSpecial? (takeSign out).1 (takeSign out).2).orElse fun _ =>
        readDecimal? (takeSign out).1 (takeSign out).2 := rfl

/-- Between blanks stands a sign with a number, or a name of what is not finite. -/
theorem exists_core {s : String} {x : Binary64} (read : readReal? s = some x) :
    ∃ before core after, s.toList = before ++ core ++ after ∧ (∀ c ∈ before, isPadding c = true) ∧
      (∀ c ∈ after, isPadding c = true) ∧
      ((∃ sign body negative digits power, core = sign ++ body ∧ Sign sign negative ∧
          Literal body digits power ∧ x = .ofDecimal negative digits power) ∨
        ∃ out, dropUnderscores none (asciiDigits core) = some out ∧ x.isFinite = false ∧
          (takeSign out).2.map Char.toLower ∈
            ["inf".toList, "infinity".toList, "nan".toList]) := by
  obtain ⟨before, after, whole, leading, trailing⟩ := exists_trimBy isPadding s.toList
  rw [readReal?_eq] at read
  generalize trimBy isPadding s.toList = core at whole read
  refine ⟨before, core, after, whole, leading, trailing, ?_⟩
  rw [Option.bind_eq_some_iff] at read
  obtain ⟨out, done, read⟩ := read
  cases special : readSpecial? (takeSign out).1 (takeSign out).2 with
  | some y =>
    rw [special] at read
    cases read
    exact .inr ⟨out, done, readSpecial?_eq_some special⟩
  | none =>
    rw [special] at read
    obtain ⟨sign, body, rfl, first, rest⟩ := exists_sign done
    obtain ⟨digits, power, literal, rfl⟩ := literal_of_read rest read
    exact .inl ⟨sign, body, _, digits, power, rfl, first, literal, rfl⟩

/-- Blanks, a sign and a number are read as what they say. -/
theorem readReal?_literal {before sign body after : List Char} {negative : Bool} {digits : Nat}
    {power : Int} (literal : Literal body digits power) (first : Sign sign negative)
    (leading : ∀ c ∈ before, isPadding c = true) (trailing : ∀ c ∈ after, isPadding c = true) :
    readReal? (String.ofList (before ++ (sign ++ body) ++ after)) =
      some (.ofDecimal negative digits power) := by
  have marks : ∀ c ∈ sign ++ body, IsMark c :=
    List.forall_mem_append.2 ⟨first.isMark, literal.isMark⟩
  have core : trimBy isPadding (before ++ (sign ++ body) ++ after) = sign ++ body :=
    (trimBy_eq_iff fun c member => not_isPadding_of_isMark (marks c member)).2
      ⟨before, after, rfl, leading, trailing⟩
  obtain ⟨c, rest, done, head, decimal⟩ := read_of_literal literal
  have unsigned : (c :: rest).head? ≠ some '-' ∧ (c :: rest).head? ≠ some '+' := by
    constructor
    all_goals
      intro same
      obtain rfl : c = _ := Option.some.inj same
      revert head
      decide
  rw [readReal?_eq, String.toList_ofList, core, drop_sign first, done, Option.map_some,
    Option.bind_some, takeSign_append first unsigned, readSpecial?_eq_none head]
  exact decimal negative

theorem mem_takeSign {cs : List Char} (member : c ∈ cs) (other : c ≠ '-' ∧ c ≠ '+') :
    c ∈ (takeSign cs).2 := by
  unfold takeSign
  split
  · exact (List.mem_cons.1 member).resolve_left other.1
  · exact (List.mem_cons.1 member).resolve_left other.2
  · exact member

/-- No number is read from a text with a letter that units of time have and numbers do not. -/
theorem readReal?_eq_none {s : String} (member : c ∈ s.toList) (letter : c ∈ ['s', 'm', 'h']) :
    readReal? s = none := by
  obtain ⟨other, noPadding, noSign, noName⟩ : ¬IsMark c ∧ isPadding c = false ∧
      (c ≠ '-' ∧ c ≠ '+') ∧ ∀ name ∈ ["inf".toList, "infinity".toList, "nan".toList],
        c.toLower ∉ name := by
    simp only [List.mem_cons, List.not_mem_nil, or_false] at letter
    rcases letter with rfl | rfl | rfl <;> decide
  rw [← Option.not_isSome_iff_eq_none, Option.isSome_iff_exists]
  rintro ⟨x, read⟩
  obtain ⟨before, core, after, whole, leading, trailing, cases⟩ := exists_core read
  have inside : c ∈ core := by
    rw [whole, List.mem_append, List.mem_append] at member
    rcases member with (outside | inside) | outside
    · exact absurd (leading c outside) (by simp [noPadding])
    · exact inside
    · exact absurd (trailing c outside) (by simp [noPadding])
  rcases cases with ⟨sign, body, _, _, _, rfl, first, literal, -⟩ | ⟨out, done, -, named⟩
  · exact other (List.forall_mem_append.2 ⟨first.isMark, literal.isMark⟩ c inside)
  · have noDigit : isDigit c = false := by
      rw [← Bool.not_eq_true]
      exact fun digit => other (.inl digit)
    have noUnderscore : c ≠ '_' := by
      rintro rfl
      exact other (.inr (by decide))
    have kept := mem_takeSign (mem_of_drop done inside noUnderscore noDigit) noSign
    exact noName _ named (List.mem_map_of_mem kept)

end Texts

end WalletSetup.Number
