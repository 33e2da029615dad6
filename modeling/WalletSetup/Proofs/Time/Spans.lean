import WalletSetup.Proofs.Time.Parts
import WalletSetup.Proofs.Time.Seconds

/-! Which texts spans of time are read from: a sign or none, then a number of seconds or amounts with
units. The sign is cut off before the number is read, and what numbers may have around them comes
between the two. -/

set_option autoImplicit false

namespace WalletSetup.Time.Duration

open WalletSetup.Number WalletSetup.Text

inductive Body : List Char → Binary64 → Prop where
  | number {cs : List Char} {digits : Nat} {power : Int} (literal : Literal cs digits power) :
    Body cs (.ofDecimal false digits power)
  | parts {cs : List Char} {parts : List (Binary64 × Scale)} (all : Parts cs parts)
      (some : parts ≠ []) : Body cs (total parts)

def signedSeconds (negative : Bool) (x : Binary64) : Binary64 := if negative then -x else x

/-- A span as it should be written: a sign or none, directly followed by the rest. -/
inductive Written : List Char → Binary64 → Prop where
  | of {sign cs : List Char} {negative : Bool} {x : Binary64} (first : Sign sign negative)
      (body : Body cs x) : Written (sign ++ cs) (signedSeconds negative x)

/-- What is taken for a span besides: a sign, then blanks or a second sign or both, then a number. -/
inductive Slip : List Char → Binary64 → Prop where
  | of {sign blanks again cs : List Char} {negative inner : Bool} {digits : Nat} {power : Int}
      (first : Sign sign negative) (signed : sign ≠ []) (blank : ∀ c ∈ blanks, isPadding c = true)
      (second : Sign again inner) (apart : blanks ++ again ≠ []) (literal : Literal cs digits power) :
    Slip (sign ++ (blanks ++ (again ++ cs)))
      (signedSeconds negative (.ofDecimal inner digits power))

section Bodies

variable {cs : List Char} {x : Binary64}

theorem Body.head (body : Body cs x) : ∃ c rest, cs = c :: rest ∧ (isDigit c = true ∨ c = '.') := by
  cases body with
  | number literal =>
    obtain ⟨mantissa, _⟩ := literal
    exact mantissa_head mantissa _
  | parts all some =>
    cases all with
    | none => exact absurd rfl some
    | part number _ _ _ => exact mantissa_head number _

theorem Body.read (body : Body cs x) : readSeconds? cs = some x := by
  unfold readSeconds?
  cases body with
  | number literal =>
    rw [readReal?_unsigned literal]
    rfl
  | parts all some =>
    obtain ⟨c, member, letter⟩ := parts_letter all some
    obtain ⟨texts, read, rfl⟩ := read_of_parts all
    rw [readReal?_eq_none (by rwa [String.toList_ofList]) letter, read]
    exact congrArg Option.some (sumParts_eq texts)

theorem Body.fits (body : Body cs x) : x.Fits := by
  cases body with
  | number => exact Binary64.fits_ofDecimal _ _ _
  | parts _ some =>
    rw [total, ← List.dropLast_append_getLast some, List.foldl_append]
    exact Binary64.fits_add _ _

theorem finite_of_ofSeconds? {d : Duration} (made : ofSeconds? x = some d) : x.isFinite = true := by
  cases x with
  | finite => rfl
  | infinite | nan => cases made

/-- What a finite number of seconds is read from, if nothing that numbers may have behind them
stands at the end. -/
theorem body_of_read (read : readSeconds? cs = some x) (filled : cs ≠ [])
    (finite : x.isFinite = true) (ends : ∀ c ∈ cs.getLast?, isPadding c = false) :
    Body cs x ∨ ∃ blanks again body inner digits power, cs = blanks ++ (again ++ body) ∧
      (∀ c ∈ blanks, isPadding c = true) ∧ Sign again inner ∧ blanks ++ again ≠ [] ∧
      Literal body digits power ∧ x = .ofDecimal inner digits power := by
  unfold readSeconds? at read
  cases number : readReal? (String.ofList cs) with
  | some y =>
    rw [number] at read
    obtain rfl : y = x := Option.some.inj read
    obtain ⟨before, core, after, whole, leading, trailing, kinds⟩ := exists_core number
    rw [String.toList_ofList] at whole
    -- Nothing is skipped behind the number, for the text does not end in a blank.
    have noneAfter : after = [] := by
      by_contra some
      have last := ends (after.getLast some) (by
        rw [whole, List.getLast?_append_of_ne_nil _ some, List.getLast?_eq_some_getLast some]
        rfl)
      rw [trailing _ (List.getLast_mem some)] at last
      cases last
    rw [noneAfter, List.append_nil] at whole
    rcases kinds with ⟨sign, body, inner, digits, power, rfl, first, literal, rfl⟩ | kind
    · by_cases nothing : before ++ sign = []
      · obtain ⟨rfl, rfl⟩ := List.append_eq_nil_iff.1 nothing
        cases first
        rw [whole]
        exact .inl (.number literal)
      · exact .inr ⟨before, sign, body, inner, digits, power, whole, leading, first, nothing,
          literal, rfl⟩
    · obtain ⟨_, _, infinite, _⟩ := kind
      rw [infinite] at finite
      cases finite
  | none =>
    rw [number] at read
    obtain ⟨texts, parts, rfl⟩ := Option.map_eq_some_iff.1 read
    have all := parts_of_read parts
    rw [sumParts_eq]
    refine .inl (.parts all ?_)
    intro nothing
    rw [nothing] at all
    cases all
    exact filled rfl

end Bodies

section Texts

variable {cs : List Char} {x y : Binary64} {d : Duration}

theorem isBlank_of_isPadding {c : Char} (padding : isPadding c = true) : isBlank c = true := by
  by_cases ascii : c.toNat < 128
  · have all : isPadding c = true → isBlank c = true := forall_ascii ascii (by decide +kernel)
    exact all padding
  · rwa [isPadding, if_neg (by omega)] at padding

theorem trimChars_ends (cs : List Char) : (∀ c ∈ (trimChars cs).head?, isPadding c = false) ∧
    ∀ c ∈ (trimChars cs).getLast?, isPadding c = false := by
  have apart {c : Char} (noBlank : isBlank c = false) : isPadding c = false := by
    rw [← Bool.not_eq_true]
    intro padding
    rw [isBlank_of_isPadding padding] at noBlank
    cases noBlank
  obtain ⟨first, last⟩ : (∀ c ∈ (trimBy isBlank cs).head?, isBlank c = false) ∧ _ := trimBy_ends
  exact ⟨fun c member => apart (first c member), fun c member => apart (last c member)⟩

theorem exists_takeSign (cs : List Char) :
    ∃ sign, cs = sign ++ (takeSign cs).2 ∧ Sign sign (takeSign cs).1 ∧
      (sign = [] → cs.head? ≠ some '-' ∧ cs.head? ≠ some '+') := by
  unfold takeSign
  split
  · exact ⟨['-'], rfl, .minus, nofun⟩
  · exact ⟨['+'], rfl, .plus, nofun⟩
  · next noMinus noPlus =>
    refine ⟨[], rfl, .none, fun _ => ⟨?_, ?_⟩⟩
    · intro first
      obtain ⟨rest, rfl⟩ := List.head?_eq_some_iff.1 first
      exact noMinus rest rfl
    · intro first
      obtain ⟨rest, rfl⟩ := List.head?_eq_some_iff.1 first
      exact noPlus rest rfl

theorem parse_eq (text : String) : parse text =
    if trimChars text.toList = [] then .error .empty
    else match (if (takeSign (trimChars text.toList)).2.isEmpty then none else
        (readSeconds? (takeSign (trimChars text.toList)).2).bind fun seconds =>
          ofSeconds? (signedSeconds (takeSign (trimChars text.toList)).1 seconds)) with
      | some d => .ok d
      | none => .error (.invalid text) := by
  unfold parse
  cases trimChars text.toList with
  | nil => rfl
  | cons c rest => rfl

theorem Body.unsigned (body : Body cs x) : cs.head? ≠ some '-' ∧ cs.head? ≠ some '+' := by
  obtain ⟨c, rest, rfl, head⟩ := body.head
  constructor
  all_goals
    intro same
    obtain rfl : c = _ := Option.some.inj same
    revert head
    decide

theorem isFinite_signedSeconds (negative : Bool) (x : Binary64) :
    (signedSeconds negative x).isFinite = x.isFinite := by
  cases negative <;> cases x <;> rfl

theorem takeSign_of_signed {sign : List Char} {negative : Bool} (first : Sign sign negative)
    (signed : sign ≠ []) (rest : List Char) : takeSign (sign ++ rest) = (negative, rest) := by
  cases first with
  | none => exact absurd rfl signed
  | plus | minus => rfl

/-- What is read is a span as it should be written, or a slip. -/
theorem written_or_slip {text : String} (read : parse text = .ok d) :
    ∃ x, (Written (trimChars text.toList) x ∨ Slip (trimChars text.toList) x) ∧
      ofSeconds? x = some d := by
  obtain ⟨start, ends⟩ := trimChars_ends text.toList
  rw [parse_eq] at read
  generalize trimChars text.toList = cs at read start ends ⊢
  split at read
  · cases read
  split at read
  · next d' value =>
    obtain rfl : d' = d := Except.ok.inj read
    obtain ⟨sign, whole, first, unsigned⟩ := exists_takeSign cs
    generalize takeSign cs = parts at value whole first
    obtain ⟨negative, rest⟩ := parts
    dsimp only at value whole first
    subst whole
    split at value
    · cases value
    · next filled =>
      have filled : rest ≠ [] := by simpa using filled
      obtain ⟨x, seconds, made⟩ := Option.bind_eq_some_iff.1 value
      have finite := finite_of_ofSeconds? made
      rw [isFinite_signedSeconds] at finite
      rw [List.getLast?_append_of_ne_nil _ filled] at ends
      refine ⟨_, ?_, made⟩
      rcases body_of_read seconds filled finite ends with
        body | ⟨blanks, again, body, inner, digits, power, rfl, blank, second, apart, literal, rfl⟩
      · exact .inl (.of first body)
      -- Without a sign of its own, what is left over would start with a blank, which has been
      -- trimmed, or with a sign, which would have been taken.
      · refine .inr (.of first ?_ blank second apart literal)
        rintro rfl
        obtain ⟨noMinus, noPlus⟩ := unsigned rfl
        cases blanks with
        | nil =>
          cases second with
          | none => exact apart rfl
          | plus => exact noPlus rfl
          | minus => exact noMinus rfl
        | cons c others =>
          have padding := blank c List.mem_cons_self
          rw [start c rfl] at padding
          cases padding
  · cases read

theorem parse_of_seconds {text : String} {sign rest : List Char} {negative : Bool}
    (whole : trimChars text.toList = sign ++ rest) (filled : rest ≠ [])
    (cut : takeSign (sign ++ rest) = (negative, rest)) (seconds : readSeconds? rest = some x)
    (made : ofSeconds? (signedSeconds negative x) = some d) : parse text = .ok d := by
  have some : sign ++ rest ≠ [] := fun nothing => filled (List.append_eq_nil_iff.1 nothing).2
  rw [parse_eq, whole, if_neg some, cut, if_neg (by simpa using filled), seconds,
    Option.bind_some, made]

theorem Written.parse {text : String} (written : Written (trimChars text.toList) x)
    (made : ofSeconds? x = some d) : parse text = .ok d := by
  generalize whole : trimChars text.toList = cs at written
  obtain ⟨first, body⟩ := written
  obtain ⟨c, rest, same, -⟩ := body.head
  exact parse_of_seconds whole (by simp [same]) (takeSign_append first body.unsigned) body.read made

theorem Slip.parse {text : String} (slip : Slip (trimChars text.toList) x)
    (made : ofSeconds? x = some d) : parse text = .ok d := by
  generalize whole : trimChars text.toList = cs at slip
  obtain @⟨sign, blanks, again, cs, negative, inner, digits, power, first, signed, blank, second,
    apart, literal⟩ := slip
  have read : readReal? (String.ofList (blanks ++ (again ++ cs) ++ [])) = _ :=
    readReal?_literal literal second blank nofun
  rw [List.append_nil] at read
  have seconds : readSeconds? (blanks ++ (again ++ cs)) =
      some (.ofDecimal inner digits power) := by
    unfold readSeconds?
    rw [read]
    rfl
  have filled : blanks ++ (again ++ cs) ≠ [] := by
    rw [← List.append_assoc]
    exact List.append_ne_nil_of_left_ne_nil apart cs
  exact parse_of_seconds whole filled (takeSign_of_signed first signed _) seconds made

theorem Slip.not_written (slip : Slip cs x) : ¬Written cs y := by
  obtain @⟨sign, blanks, again, cs, _, _, _, _, first, signed, blank, second, apart, _⟩ := slip
  intro written
  generalize whole : sign ++ (blanks ++ (again ++ cs)) = text at written
  obtain ⟨alone, body⟩ := written
  have cut := takeSign_append alone body.unsigned
  rw [← whole, takeSign_of_signed first signed] at cut
  obtain ⟨c, rest, start, head⟩ := body.head
  rw [← (Prod.mk.inj cut).2] at start
  cases blanks with
  | cons b others =>
    obtain rfl : b = c := (List.cons.inj start).1
    have mark : IsMark b := head.imp_right fun point => by rw [point]; decide
    have padding := blank b List.mem_cons_self
    rw [not_isPadding_of_isMark mark] at padding
    cases padding
  | nil =>
    cases second with
    | none => exact apart rfl
    | plus | minus =>
      obtain rfl : _ = c := (List.cons.inj start).1
      revert head
      decide

theorem Written.fits (written : Written cs x) : x.Fits := by
  obtain @⟨_, _, negative, _, _, body⟩ := written
  cases negative with
  | false => exact body.fits
  | true => exact body.fits.neg

theorem Slip.fits (slip : Slip cs x) : x.Fits := by
  obtain @⟨_, _, _, _, negative, inner, digits, power, _, _, _, _, _, _⟩ := slip
  have fits := Binary64.fits_ofDecimal inner digits power
  cases negative with
  | false => exact fits
  | true => exact fits.neg

end Texts

/-- What a span is read from: what should be written, or a slip, so long as the seconds lie within
the range of spans. The two have nothing in common, and the loop over the parts comes to an end. -/
theorem spans_are_read_by_grammar (text : String) :
    (∀ d, parse text = .ok d ↔ ∃ x,
      (Written (trimChars text.toList) x ∨ Slip (trimChars text.toList) x) ∧
        ofSeconds? x = some d) ∧
      (∀ x, Written (trimChars text.toList) x ∨ Slip (trimChars text.toList) x →
        ((∃ d, ofSeconds? x = some d) ↔ InSpan x)) ∧
      (∀ x, Written (trimChars text.toList) x → InSpan x → ∃ d, parse text = .ok d) ∧
      (∀ x, Slip (trimChars text.toList) x → ∀ y, ¬Written (trimChars text.toList) y) ∧
      WellFounded TakesPart := by
  refine ⟨?_, ?_, ?_, fun x slip y => slip.not_written, takesPart_wellFounded⟩
  · intro d
    constructor
    · exact written_or_slip
    · rintro ⟨x, written | slip, made⟩
      · exact written.parse made
      · exact slip.parse made
  · rintro x (written | slip)
    · exact ofSeconds?_isSome_iff written.fits
    · exact ofSeconds?_isSome_iff slip.fits
  · intro x written inside
    obtain ⟨d, made⟩ := (ofSeconds?_isSome_iff written.fits).2 inside
    exact ⟨d, written.parse made⟩

set_option maxRecDepth 20000 in
/-- A second sign is taken before a number of seconds, but not before parts. -/
theorem second_sign_is_taken :
    parse "--5" = .ok ⟨5000000⟩ ∧ (∀ x, ¬Written (trimChars "--5".toList) x) ∧
      parse "--5s" = .error (.invalid "--5s") := by
  have trimmed : trimChars "--5".toList = ['-'] ++ ([] ++ (['-'] ++ ['5'])) := by decide +kernel
  have digit : Run ['5'] ['5'] := .digit (by decide) .nil
  have number : Literal ['5'] (value (['5'] ++ [])) (0 - ([] : List Char).length) :=
    .of (.whole digit (List.cons_ne_nil _ _)) .none
  have noBlank : ∀ c ∈ ([] : List Char), isPadding c = true := nofun
  have slip := Slip.of .minus (by decide) noBlank .minus (by decide) number
  refine ⟨by decide +kernel, fun x => ?_, by decide +kernel⟩
  rw [trimmed]
  exact slip.not_written

end WalletSetup.Time.Duration
