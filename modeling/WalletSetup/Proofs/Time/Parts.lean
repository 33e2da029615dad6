import WalletSetup.Proofs.Number.Literal
import WalletSetup.Time.Duration

/-! Amounts of time with units, one after the other. The loop that reads them takes one part off the
text at each turn, and it reads the texts that are made of parts and no others. -/

set_option autoImplicit false

namespace WalletSetup.Time.Duration

open WalletSetup.Number WalletSetup.Text

def unitNames : List (List Char × Scale) := [
  (['n', 's'], .nanosecond), (['u', 's'], .microsecond), (['µ', 's'], .microsecond),
  (['m', 's'], .millisecond), (['s'], .second), (['m'], .minute), (['h'], .hour)]

/-- Amounts with units one after the other, and what they say. An amount has no underscores and no
power of ten. -/
inductive Parts : List Char → List (Binary64 × Scale) → Prop where
  | none : Parts [] []
  | part {amount ds es name cs : List Char} {unit : Scale} {parts : List (Binary64 × Scale)}
      (number : Mantissa amount ds es) (plain : '_' ∉ amount) (named : (name, unit) ∈ unitNames)
      (rest : Parts cs parts) :
    Parts (amount ++ (name ++ cs))
      ((.ofDecimal false (value (ds ++ es)) (-es.length), unit) :: parts)

def total (parts : List (Binary64 × Scale)) : Binary64 :=
  parts.foldl (fun sum (amount, unit) => sum + amount * unit.seconds) .zero

section Units

variable {cs rest name : List Char} {unit : Scale}

theorem takeScale?_eq_some (taken : takeScale? cs = some (unit, rest)) :
    ∃ name, (name, unit) ∈ unitNames ∧ cs = name ++ rest := by
  unfold takeScale? at taken
  split at taken
  all_goals cases taken
  · exact ⟨['n', 's'], by decide, rfl⟩
  · exact ⟨['u', 's'], by decide, rfl⟩
  · exact ⟨['µ', 's'], by decide, rfl⟩
  · exact ⟨['m', 's'], by decide, rfl⟩
  · exact ⟨['s'], by decide, rfl⟩
  · exact ⟨['m'], by decide, rfl⟩
  · exact ⟨['h'], by decide, rfl⟩

theorem takeScale?_name (named : (name, unit) ∈ unitNames) (apart : ∀ c ∈ rest.head?, c ≠ 's') :
    takeScale? (name ++ rest) = some (unit, rest) := by
  simp only [unitNames, List.mem_cons, Prod.mk.injEq, List.not_mem_nil, or_false] at named
  rcases named with ⟨rfl, rfl⟩ | ⟨rfl, rfl⟩ | ⟨rfl, rfl⟩ | ⟨rfl, rfl⟩ | ⟨rfl, rfl⟩ | ⟨rfl, rfl⟩ |
    ⟨rfl, rfl⟩
  case inr.inr.inr.inr.inr.inl =>
    -- A minute is one only if no `s` follows.
    cases rest with
    | nil => rfl
    | cons c others =>
      have other : c ≠ 's' := apart c rfl
      simp [takeScale?, other]
  all_goals rfl

theorem unitNames_head : ∀ entry ∈ unitNames, ∃ c ∈ entry.1.head?, isDigit c = false ∧ c ≠ '.' := by
  simp only [unitNames, List.forall_mem_cons, List.head?_cons, Option.mem_some_iff,
    exists_eq_left']
  decide

theorem unitNames_letter : ∀ entry ∈ unitNames, ∃ c ∈ entry.1, c ∈ ['s', 'm', 'h'] := by
  simp [unitNames]

end Units

section Amounts

variable {cs amount rest ds es : List Char}

theorem run_of_all (all : ∀ c ∈ ds, isDigit c = true) : Run ds ds := by
  induction ds with
  | nil => exact .nil
  | cons c others ih =>
    exact .digit (all c List.mem_cons_self) (ih fun d member => all d (List.mem_cons_of_mem _ member))

theorem Run.eq_of_plain {ws : List Char} (run : Run ws ds) (plain : '_' ∉ ws) : ws = ds := by
  induction run with
  | nil => rfl
  | digit _ _ ih => rw [ih fun member => plain (List.mem_cons_of_mem _ member)]
  | spaced => exact absurd (List.mem_cons_of_mem _ List.mem_cons_self) plain

theorem takeAmount?_eq_some (taken : takeAmount? cs = some (amount, rest)) :
    cs = amount ++ rest ∧ ∃ ds es, Mantissa amount ds es ∧ '_' ∉ amount := by
  have digits (cs : List Char) : ∀ c ∈ cs.takeWhile isDigit, isDigit c = true :=
    List.all_eq_true.1 List.all_takeWhile
  have plain (cs : List Char) : '_' ∉ cs.takeWhile isDigit := fun member =>
    absurd (digits cs _ member) (by decide)
  have whole := List.takeWhile_append_dropWhile (p := isDigit) (l := cs)
  unfold takeAmount? at taken
  dsimp only at taken
  split at taken
  · next behind point =>
    split at taken
    · cases taken
    · next some =>
      cases taken
      rw [point] at whole
      refine ⟨?_, _, _, .pointed (run_of_all (digits cs)) (run_of_all (digits behind))
        (imp_iff_not_or.1 (by simpa using some)), ?_⟩
      · rw [List.append_assoc, List.cons_append, List.takeWhile_append_dropWhile, whole]
      · simp [plain]
  · split at taken
    · cases taken
    · next some =>
      cases taken
      exact ⟨whole.symm, _, _, .whole (run_of_all (digits cs)) (by simpa using some), plain cs⟩

theorem takeAmount?_amount (number : Mantissa amount ds es) (plain : '_' ∉ amount)
    (stops : ∀ c ∈ rest.head?, isDigit c = false ∧ c ≠ '.') :
    takeAmount? (amount ++ rest) = some (amount, rest) := by
  have stop : ∀ c ∈ rest.head?, isDigit c = false := fun c first => (stops c first).1
  cases number with
  | whole run some =>
    obtain rfl := Run.eq_of_plain run plain
    obtain ⟨taken, dropped⟩ := takeWhile_run run.all stop
    unfold takeAmount?
    rw [taken, dropped]
    dsimp only
    split
    · exact absurd rfl (stops '.' rfl).2
    · rw [if_neg (by simpa using some)]
  | @pointed ws ps _ _ before after some =>
    rw [List.mem_append, List.mem_cons, not_or, not_or] at plain
    obtain rfl := Run.eq_of_plain before plain.1
    obtain rfl := Run.eq_of_plain after plain.2.2
    have point : ∀ c ∈ ('.' :: (ps ++ rest)).head?, isDigit c = false := by
      intro c first
      obtain rfl : '.' = c := Option.some.inj first
      decide
    obtain ⟨taken, dropped⟩ := takeWhile_run before.all point
    obtain ⟨taken', dropped'⟩ := takeWhile_run after.all stop
    unfold takeAmount?
    rw [List.append_assoc, List.cons_append, taken, dropped]
    change (if ws.isEmpty && ((ps ++ rest).takeWhile isDigit).isEmpty then Option.none
      else Option.some (ws ++ '.' :: (ps ++ rest).takeWhile isDigit,
        (ps ++ rest).dropWhile isDigit)) = _
    rw [taken', dropped', if_neg]
    simpa using imp_iff_not_or.2 some

end Amounts

section PartLists

variable {cs rest : List Char}

def TakesPart (rest cs : List Char) : Prop := ∃ amount behind unit,
  takeAmount? cs = some (amount, behind) ∧ takeScale? behind = some (unit, rest)

/-- The loop comes to an end on every text: each turn makes what is left shorter. -/
theorem takesPart_wellFounded : WellFounded TakesPart := by
  apply Subrelation.wf _ (measure List.length).wf
  rintro rest cs ⟨amount, behind, unit, number, named⟩
  exact Nat.lt_of_lt_of_le (length_of_takeScale? named) (length_of_takeAmount? number)

theorem readParts?_eq (cs : List Char) : readParts? cs =
    if cs.isEmpty then some [] else (takeAmount? cs).bind fun (amount, behind) =>
      (takeScale? behind).bind fun (unit, rest) => (readParts? rest).map ((amount, unit) :: ·) := by
  rw [readParts?]
  split
  · rfl
  · split
    · next failed => rw [failed, Option.bind_none]
    · next amount behind taken =>
      rw [taken, Option.bind_some]
      dsimp only
      split
      · next failed => rw [failed, Option.bind_none]
      · next unit rest taken => rw [taken, Option.bind_some]

def amountOf (part : List Char × Scale) : Binary64 × Scale :=
  ((readReal? (String.ofList part.1)).getD .zero, part.2)

theorem sumParts_eq (parts : List (List Char × Scale)) :
    sumParts parts = total (parts.map amountOf) := by
  rw [sumParts, total, List.foldl_map]
  rfl

theorem literal_of_mantissa {amount ds es : List Char} (number : Mantissa amount ds es) :
    Literal amount (value (ds ++ es)) (-es.length) := by
  have literal := Literal.of number .none
  rwa [List.append_nil, Int.zero_sub] at literal

theorem readReal?_unsigned {digits : Nat} {power : Int} (literal : Literal cs digits power) :
    readReal? (String.ofList cs) = some (.ofDecimal false digits power) := by
  have read : readReal? (String.ofList ([] ++ ([] ++ cs) ++ [])) = _ :=
    readReal?_literal literal .none nofun nofun
  rwa [List.append_nil] at read

theorem parts_of_read {parts : List (List Char × Scale)} (read : readParts? cs = some parts) :
    Parts cs (parts.map amountOf) := by
  induction cs using takesPart_wellFounded.induction generalizing parts with
  | _ cs ih =>
    rw [readParts?_eq] at read
    split at read
    · next nothing =>
      cases read
      rw [List.isEmpty_iff.1 nothing]
      exact .none
    · rw [Option.bind_eq_some_iff] at read
      obtain ⟨⟨amount, behind⟩, taken, read⟩ := read
      rw [Option.bind_eq_some_iff] at read
      obtain ⟨⟨unit, rest⟩, scaled, read⟩ := read
      obtain ⟨others, later, rfl⟩ := Option.map_eq_some_iff.1 read
      have more := ih rest ⟨amount, behind, unit, taken, scaled⟩ later
      obtain ⟨rfl, ds, es, number, plain⟩ := takeAmount?_eq_some taken
      obtain ⟨name, named, rfl⟩ := takeScale?_eq_some scaled
      have amountRead := readReal?_unsigned (literal_of_mantissa number)
      rw [List.map_cons, amountOf, amountRead]
      exact .part number plain named more

theorem mantissa_head {amount ds es : List Char} (number : Mantissa amount ds es) (cs : List Char) :
    ∃ c rest, amount ++ cs = c :: rest ∧ (isDigit c = true ∨ c = '.') := by
  cases number with
  | whole run some =>
    cases run with
    | nil => exact absurd rfl some
    | digit digit _ | spaced digit _ _ => exact ⟨_, _, rfl, .inl digit⟩
  | pointed before _ _ =>
    cases before with
    | nil => exact ⟨_, _, rfl, .inr rfl⟩
    | digit digit _ | spaced digit _ _ => exact ⟨_, _, rfl, .inl digit⟩

theorem read_of_parts {parts : List (Binary64 × Scale)} (all : Parts cs parts) :
    ∃ texts, readParts? cs = some texts ∧ texts.map amountOf = parts := by
  induction all with
  | none => exact ⟨[], readParts?_eq [], rfl⟩
  | @part amount ds es name cs unit parts number plain named rest ih =>
    obtain ⟨texts, read, same⟩ := ih
    -- The next part starts with a digit or a point, so that no unit runs on into it.
    have apart : ∀ c ∈ cs.head?, c ≠ 's' := by
      intro c first
      cases rest with
      | none => cases first
      | part number _ _ _ =>
        obtain ⟨d, others, split, mark⟩ := mantissa_head number _
        rw [split] at first
        obtain rfl : d = c := Option.some.inj first
        rintro rfl
        revert mark
        decide
    have stops : ∀ c ∈ (name ++ cs).head?, isDigit c = false ∧ c ≠ '.' := by
      obtain ⟨d, first, other⟩ := unitNames_head _ named
      intro c head
      rw [List.head?_append_of_ne_nil _ (by rintro rfl; cases first), first] at head
      exact Option.some.inj head ▸ other
    obtain ⟨c, others, split, -⟩ := mantissa_head number (name ++ cs)
    have filled : (amount ++ (name ++ cs)).isEmpty = false := by rw [split]; rfl
    refine ⟨(amount, unit) :: texts, ?_, ?_⟩
    · rw [readParts?_eq, filled, takeAmount?_amount number plain stops, Option.bind_some]
      dsimp only
      rw [takeScale?_name named apart, Option.bind_some, read]
      rfl
    · rw [List.map_cons, same, amountOf, readReal?_unsigned (literal_of_mantissa number)]
      rfl

theorem parts_letter {parts : List (Binary64 × Scale)} (all : Parts cs parts) (some : parts ≠ []) :
    ∃ c ∈ cs, c ∈ ['s', 'm', 'h'] := by
  cases all with
  | none => exact absurd rfl some
  | part _ _ named _ =>
    obtain ⟨c, member, letter⟩ := unitNames_letter _ named
    exact ⟨c, List.mem_append_right _ (List.mem_append_left _ member), letter⟩

end PartLists

end WalletSetup.Time.Duration
