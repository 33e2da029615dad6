import WalletSetup.Json.Printer
import WalletSetup.Json.Reader
import WalletSetup.Proofs.Number.Numeral

/-! Tables of plain texts and whole numbers are read as they are written. -/

set_option autoImplicit false

namespace WalletSetup.Json

open WalletSetup.Data WalletSetup.Number WalletSetup.Text

def isPlain (c : Char) : Bool := ' ' ≤ c && c ≤ '~' && c != '\x22' && c != '\x5c'

def Plain (s : String) : Prop := ∀ c ∈ s.toList, isPlain c = true

theorem escapeChar_of_isPlain {c : Char} (plain : isPlain c = true) : escapeChar c = [c] := by
  simp only [isPlain, Bool.and_eq_true, bne_iff_ne, ne_eq] at plain
  obtain ⟨⟨⟨low, high⟩, noQuote⟩, noSlash⟩ := plain
  rw [escapeChar, if_neg (by simp [noQuote, noSlash]), if_pos (by rw [low, high]; rfl)]

theorem renderText_of_plain {s : String} (plain : Plain s) :
    renderText s = '\x22' :: s.toList ++ ['\x22'] := by
  have kept {cs : List Char} (plain : ∀ c ∈ cs, isPlain c = true) :
      cs.flatMap escapeChar = cs := by
    induction cs with
    | nil => rfl
    | cons c rest ih =>
      rw [List.flatMap_cons, escapeChar_of_isPlain (plain c List.mem_cons_self),
        ih fun c member => plain c (List.mem_cons_of_mem _ member)]
      rfl
  rw [renderText, kept plain]

theorem textBody_of_plain {cs : List Char} (plain : ∀ c ∈ cs, isPlain c = true)
    (rest : List Char) : textBody (cs ++ '\x22' :: rest) = some (cs, rest) := by
  induction cs with
  | nil => rw [List.nil_append, textBody, if_pos rfl]
  | cons c cs ih =>
    have first := plain c List.mem_cons_self
    simp only [isPlain, Bool.and_eq_true, bne_iff_ne, ne_eq, decide_eq_true_iff] at first
    obtain ⟨⟨⟨low, high⟩, noQuote⟩, noSlash⟩ := first
    have shown : 32 ≤ c.toNat := low
    rw [List.cons_append, textBody, if_neg noQuote, if_neg noSlash, if_neg (by omega),
      ih fun c member => plain c (List.mem_cons_of_mem _ member), Option.map_some]

theorem text_of_plain {s : String} (plain : Plain s) (rest : List Char) :
    text (s.toList ++ '\x22' :: rest) = .ok (s, rest) := by
  rw [text, textBody_of_plain plain]
  dsimp only
  rw [String.ofList_toList]

/-- What may follow an entry of a table. -/
def Stops (cs : List Char) : Prop := ∃ c rest, cs = c :: rest ∧ (c = ',' ∨ c = '\x7d')

theorem toDigits_zero_first {n : Nat} {rest : List Char}
    (zero : Nat.toDigits 10 n = '0' :: rest) : rest = [] := by
  induction n using Nat.strongRecOn generalizing rest with
  | ind n ih =>
    by_cases small : n < 10
    · rw [Nat.toDigits_of_lt_base small, List.cons.injEq] at zero
      exact zero.2.symm
    · rw [Nat.toDigits_of_base_le (by decide) (by omega)] at zero
      obtain ⟨c, cs, digits⟩ :=
        List.exists_cons_of_ne_nil (Nat.toDigits_ne_nil (n := n / 10) (b := 10))
      rw [digits, List.cons_append, List.cons.injEq] at zero
      obtain ⟨rfl, -⟩ := zero
      obtain rfl := ih (n / 10) (by omega) digits
      have value := Nat.ofDigitChars_ten_toDigits (n := n / 10)
      rw [digits, Nat.ofDigitChars_cons, Nat.ofDigitChars_nil] at value
      simp at value
      omega

theorem Stops.not_isDigit {rest : List Char} (stops : Stops rest) :
    rest.takeWhile Char.isDigit = [] ∧ rest.dropWhile Char.isDigit = rest := by
  obtain ⟨c, more, rfl, rfl | rfl⟩ := stops
  · exact ⟨List.takeWhile_cons_of_neg (by decide), List.dropWhile_cons_of_neg (by decide)⟩
  · exact ⟨List.takeWhile_cons_of_neg (by decide), List.dropWhile_cons_of_neg (by decide)⟩

theorem wholeRun_toDigits (n : Nat) {rest : List Char} (stops : Stops rest) :
    wholeRun (Nat.toDigits 10 n ++ rest) = (Nat.toDigits 10 n, rest) := by
  have digits : ∀ c ∈ Nat.toDigits 10 n, c.isDigit = true := fun _ => isDigit_of_mem_digits
  obtain ⟨c, cs, shape⟩ := List.exists_cons_of_ne_nil (Nat.toDigits_ne_nil (n := n) (b := 10))
  unfold wholeRun
  split
  · next more same =>
    rw [shape, List.cons_append, List.cons.injEq] at same
    obtain ⟨rfl, rfl⟩ := same
    obtain rfl := toDigits_zero_first shape
    rw [shape]
    rfl
  · rw [List.takeWhile_append_of_pos digits, List.dropWhile_append_of_pos digits,
      stops.not_isDigit.1, stops.not_isDigit.2, List.append_nil]

theorem Stops.noFraction {rest : List Char} (stops : Stops rest) :
    fractionRun rest = ([], rest) ∧ powerRun rest = ([], rest) := by
  obtain ⟨c, more, rfl, rfl | rfl⟩ := stops
  · exact ⟨rfl, by simp [powerRun]⟩
  · exact ⟨rfl, by simp [powerRun]⟩

theorem number_intChars {n : Int} (short : n.natAbs < 10 ^ digitLimit) {rest : List Char}
    (stops : Stops rest) : number (intChars n ++ rest) = .ok (.integer n, rest) := by
  have run := wholeRun_toDigits n.natAbs stops
  have read := readInteger_intChars short
  obtain ⟨c, cs, digits⟩ :=
    List.exists_cons_of_ne_nil (Nat.toDigits_ne_nil (n := n.natAbs) (b := 10))
  have digit : c.isDigit = true := isDigit_of_mem_digits (n := n.natAbs) (by simp [digits])
  -- A number that is not negative starts with a digit, and that is no sign.
  have noSign : c ≠ '-' := by
    rintro rfl
    exact absurd digit (by decide)
  rw [digits] at run
  unfold intChars at read ⊢
  by_cases negative : n < 0
  · rw [if_pos negative, digits] at read ⊢
    simp only [number, List.cons_append] at run ⊢
    simp only [run, stops.noFraction.1, stops.noFraction.2, List.append_nil, List.isEmpty_nil,
      Bool.and_self, if_true, List.nil_append, read]
  · rw [if_neg negative, digits] at read ⊢
    unfold number
    split
    next sign body same =>
    have unsigned : sign = [] ∧ body = c :: (cs ++ rest) := by
      split at same
      · next first => exact absurd (List.cons.inj first).1 noSign
      · cases same
        exact ⟨rfl, rfl⟩
    obtain ⟨rfl, rfl⟩ := unsigned
    rw [List.cons_append] at run
    simp only [run, stops.noFraction.1, stops.noFraction.2, List.append_nil, List.isEmpty_nil,
      Bool.and_self, if_true, List.nil_append, read]

def startsNumber : List Char → Bool
  | '-' :: c :: _ => c.isDigit
  | c :: _ => c.isDigit
  | [] => false

theorem startsNumber_intChars (n : Int) (rest : List Char) :
    startsNumber (intChars n ++ rest) = true := by
  obtain ⟨c, cs, digits⟩ :=
    List.exists_cons_of_ne_nil (Nat.toDigits_ne_nil (n := n.natAbs) (b := 10))
  have digit : c.isDigit = true := isDigit_of_mem_digits (n := n.natAbs) (by simp [digits])
  unfold intChars
  split
  · rw [digits]
    exact digit
  · have noSign : c ≠ '-' := by
      rintro rfl
      exact absurd digit (by decide)
    simp [digits, startsNumber, noSign, digit]

theorem words_start_no_number : ∀ entry ∈ words,
    startsNumber entry.1.toList = false ∧ 2 ≤ entry.1.toList.length := by decide +kernel

theorem word?_eq_none {cs : List Char} (starts : startsNumber cs = true) : word? cs = none := by
  -- Two characters are enough to tell a word from a number.
  rw [word?, Option.map_eq_none_iff, List.find?_eq_none]
  rintro ⟨word, found⟩ member isPrefix
  obtain ⟨other, long⟩ := words_start_no_number _ member
  obtain ⟨more, rfl⟩ := List.isPrefixOf_iff_prefix.1 isPrefix
  dsimp only at other long starts
  rcases letters : word.toList with _ | ⟨a, _ | ⟨b, rest⟩⟩
  · rw [letters] at long
    cases long
  · rw [letters] at long
    simp at long
  · rw [letters] at other starts
    have same : startsNumber (a :: b :: rest ++ more) = startsNumber (a :: b :: rest) := by
      by_cases sign : a = '-'
      · subst sign
        rfl
      · simp [startsNumber, sign]
    rw [same, other] at starts
    cases starts

/-- Values whose text is read back without more ado. -/
inductive Scalar : Value → Prop where
  | text {s : String} (plain : Plain s) : Scalar (.text s)
  | integer {n : Int} (short : n.natAbs < 10 ^ digitLimit) : Scalar (.integer n)

theorem value_of_scalar {v : Value} (scalar : Scalar v) (fuel room : Nat) {rest : List Char}
    (stops : Stops rest) : value (fuel + 1) room (render v ++ rest) = .ok (v, rest) := by
  cases scalar with
  | @text s plain =>
    rw [render, renderText_of_plain plain, List.append_assoc, List.cons_append, value]
    rw [List.singleton_append, text_of_plain plain]
    rfl
  | @integer n short =>
    have starts := startsNumber_intChars n rest
    have noWord := word?_eq_none starts
    have read := number_intChars short stops
    rw [render, toList_toString]
    -- The first character is none of those that open a text, a list or a table.
    generalize intChars n ++ rest = cs at starts noWord read ⊢
    unfold value
    split
    · cases starts
    · cases starts
    · cases starts
    · rw [noWord]
      exact read

theorem skipSpaces_of_not_isSpace {c : Char} (shown : isSpace c = false) (cs : List Char) :
    skipSpaces (c :: cs) = c :: cs :=
  List.dropWhile_cons_of_neg (by simp [shown])

theorem skipSpaces_scalar {v : Value} (scalar : Scalar v) (rest : List Char) :
    skipSpaces (' ' :: (render v ++ rest)) = render v ++ rest := by
  have shown : ∃ c cs, render v = c :: cs ∧ isSpace c = false := by
    cases scalar with
    | text => exact ⟨_, _, rfl, by decide⟩
    | @integer n short =>
      have starts := startsNumber_intChars n []
      rw [List.append_nil, ← toList_toString, ← render] at starts
      cases shape : render (.integer n) with
      | nil => rw [shape] at starts; cases starts
      | cons c cs =>
        refine ⟨c, cs, rfl, ?_⟩
        rw [shape] at starts
        cases space : isSpace c with
        | false => rfl
        | true =>
          simp only [isSpace, Bool.or_eq_true, decide_eq_true_iff] at space
          rcases space with ((rfl | rfl) | rfl) | rfl <;> cases starts
  obtain ⟨c, cs, shape, shown⟩ := shown
  rw [shape, List.cons_append]
  exact skipSpaces_of_not_isSpace shown (cs ++ rest)

def Flat (table : Entries) : Prop := ∀ entry ∈ table, Plain entry.1 ∧ Scalar entry.2

theorem stops_renderEntries (table : Entries) (tail : List Char) :
    Stops (renderEntries table ++ '\x7d' :: tail) := by
  cases table with
  | nil => exact ⟨_, _, rfl, .inr rfl⟩
  | cons entry rest => exact ⟨',', _, rfl, .inl rfl⟩

def afterEntry (fuel room : Nat) (entry : String × Value) :
    List Char → Except Error (Entries × List Char)
  | '\x7d' :: rest => .ok ([entry], rest)
  | ',' :: rest => do
    let (others, rest) ← entries fuel room (skipSpaces rest)
    .ok (entry :: others, rest)
  | _ => .error .malformed

theorem entries_cons {key : String} {v : Value} (plain : Plain key) (scalar : Scalar v)
    (fuel room : Nat) {more : List Char} (stops : Stops more) :
    entries (fuel + 2) room (renderText key ++ ':' :: ' ' :: (render v ++ more)) =
      afterEntry (fuel + 1) room (key, v) more := by
  have read := value_of_scalar scalar fuel room stops
  have shown : skipSpaces more = more := by
    obtain ⟨c, rest, rfl, rfl | rfl⟩ := stops
    · exact skipSpaces_of_not_isSpace (by decide) rest
    · exact skipSpaces_of_not_isSpace (by decide) rest
  rw [renderText_of_plain plain, List.append_assoc, List.singleton_append, List.cons_append,
    entries]
  simp only [text_of_plain plain, bind, Except.bind,
    skipSpaces_of_not_isSpace (show isSpace ':' = false by decide), skipSpaces_scalar scalar, read,
    shown]
  rfl

theorem entries_of_flat {key : String} {v : Value} {rest : Entries} (plain : Plain key)
    (scalar : Scalar v) (flat : Flat rest) (fuel : Nat) (enough : rest.length ≤ fuel) (room : Nat)
    (tail : List Char) :
    entries (fuel + 2) room (renderText key ++ ':' :: ' ' :: (render v ++
      (renderEntries rest ++ '\x7d' :: tail))) = .ok ((key, v) :: rest, tail) := by
  -- Each entry takes one step, and its value another.
  induction rest generalizing key v fuel with
  | nil => rw [entries_cons plain scalar fuel room (stops_renderEntries [] tail)]; rfl
  | cons entry rest ih =>
    obtain ⟨nextKey, next⟩ := entry
    obtain ⟨fuel, rfl⟩ : ∃ less, fuel = less + 1 := ⟨fuel - 1, by simp at enough; omega⟩
    obtain ⟨nextPlain, nextScalar⟩ := flat _ List.mem_cons_self
    have others := ih nextPlain nextScalar (fun entry member => flat _ (List.mem_cons_of_mem _ member))
      fuel (by simpa using enough)
    have shape : renderEntries ((nextKey, next) :: rest) ++ '\x7d' :: tail =
        ',' :: ' ' :: (renderText nextKey ++ ':' :: ' ' :: (render next ++
          (renderEntries rest ++ '\x7d' :: tail))) := by
      simp [renderEntries]
    have quoted : skipSpaces (' ' :: (renderText nextKey ++ ':' :: ' ' :: (render next ++
        (renderEntries rest ++ '\x7d' :: tail)))) = renderText nextKey ++ ':' :: ' ' ::
          (render next ++ (renderEntries rest ++ '\x7d' :: tail)) := by
      exact skipSpaces_of_not_isSpace (show isSpace '\x22' = false by decide) _
    rw [entries_cons plain scalar (fuel + 1) room (stops_renderEntries _ tail), shape]
    simp only [afterEntry, quoted, others, bind, Except.bind]

end WalletSetup.Json
