import WalletSetup.Proofs.Bootstrap.Reading
import WalletSetup.Proofs.Machine.Lines
import WalletSetup.Proofs.Number.Numeral
import WalletSetup.Proofs.Text.Hex
import WalletSetup.Proofs.Time.Instants
import WalletSetup.Proofs.Wallet.Endings

/-! Questions and the lines that answer them. Each question takes the first line of a text that will
do and leaves the text behind it unread. -/

set_option autoImplicit false

namespace WalletSetup.Bootstrap

open WalletSetup.Act WalletSetup.Number WalletSetup.Text WalletSetup.Time WalletSetup.Wallet

section Answers

variable {α : Type}

/-- How a question ends on a text, and the terminal after it: with the first line that will do,
behind which the text is left, or at the end of the text. The prompt is printed for every line that
is read, and for the end. -/
inductive Answers (q : Question α) (accepts : String → α → Prop) (input : String) (t : Terminal) :
    Except PromptError α → Terminal → Prop where
  | answered {refused later : List String} {line rest : String} {a : α}
      (lines : Terminal.Lines input (refused ++ line :: later))
      (split : input = String.join refused ++ line ++ rest) (more : Terminal.Lines rest later)
      (others : ∀ other ∈ refused, ∀ b, ¬accepts other b) (accepted : accepts line a) :
    Answers q accepts input t (.ok a) ((t.reading rest).print (q.transcript refused.length))
  | unanswered {lines : List String} (whole : Terminal.Lines input lines)
      (others : ∀ other ∈ lines, ∀ b, ¬accepts other b) :
    Answers q accepts input t (.error .endOfInput)
      { (t.reading "").print (q.transcript lines.length) with ended := true }

/-- On every text the question ends in this way, and nothing but the terminal is changed. -/
def TakesFirst (q : Question α) (accepts : String → α → Prop) : Prop :=
  ∀ (m : Machine) (input : String), ∃ result after,
    q.put.run { m with terminal := m.terminal.reading input } =
      (result, { m with terminal := after }) ∧
    Answers q accepts input m.terminal result after

variable {q : Question α} {accepts : String → α → Prop}

theorem answer_answers (known : ∀ line a, q.accept line = some a ↔ accepts line a) (t : Terminal)
    (input : String) : Answers q accepts input t (q.answer (t.reading input)).1
      (q.answer (t.reading input)).2 := by
  have others {lines : List String} (none : ∀ line ∈ lines, q.accept line = none) :
      ∀ line ∈ lines, ∀ b, ¬accepts line b := by
    intro line member b accepted
    rw [← known, none line member] at accepted
    cases accepted
  have whole := Terminal.lines_ofInput input
  unfold Question.answer
  dsimp only [Terminal.reading]
  rcases asked : q.ask (Terminal.ofInput input) with ⟨_ | ⟨a, later⟩, printed⟩
  · obtain ⟨none, transcript⟩ := Question.ask_none (congrArg Prod.fst asked)
    rw [asked] at transcript
    obtain rfl : printed = _ := transcript
    exact .unanswered whole (others none)
  · obtain ⟨refused, line, lines, none, accepted, transcript⟩ :=
      Question.ask_first (congrArg Prod.fst asked)
    rw [asked] at transcript
    obtain rfl : printed = _ := transcript
    rw [lines, List.append_cons] at whole
    -- The lines that are left are those of what is left of the text.
    obtain ⟨rest, more, split⟩ := whole.drop
    rw [← more.ofInput_eq]
    rw [← List.append_cons] at whole
    rw [String.join_append, String.join_cons, String.join_nil, String.append_empty] at split
    exact .answered whole split more (others none) ((known _ _).1 accepted)

/-- It suffices to know the lines that will do. -/
theorem takesFirst_of_accept (known : ∀ line a, q.accept line = some a ↔ accepts line a) :
    TakesFirst q accepts := by
  intro m input
  exact ⟨_, _, Question.put_run q _, answer_answers known m.terminal input⟩

end Answers

section Lines

variable {line : String}

def Chooses (valid : List String) (default line answer : String) : Prop :=
  answer = (if lower (trim line) = "" then lower default else lower (trim line)) ∧
    ∃ word ∈ valid, lower word = answer

def Dates (default line : String) (t : Instant) : Prop :=
  ∃ n, Denotes (if trim line = "" then default else trim line).toList n ∧
    Instant.yearStart 1 ≤ n ∧ n < Instant.yearStart 10000 ∧ t = ⟨n * 1000000⟩

/-- The line holds a seed of 16 to 64 bytes in digits of either letter case, and blanks around
it. -/
structure Tells (line : String) (seed : Bytes) : Prop where
  spelled : ∃ before digits after, line = before ++ digits ++ after ∧ Blank before ∧ Blank after ∧
    Spells digits seed
  least : 16 ≤ seed.length
  most : seed.length ≤ 64

def Confirms (line : String) : Prop :=
  ∃ opening closing, trim line = opening ++ "OK" ++ closing ∧
    (∀ c ∈ opening.toList, c = '\x22') ∧ ∀ c ∈ closing.toList, c = '\x22'

theorem accept_choice_iff {lead default answer : String} {valid : List String} :
    (choice lead valid default).accept line = some answer ↔ Chooses valid default line answer := by
  have reply : replyOr (lower default) line =
      if lower (trim line) = "" then lower default else lower (trim line) := by
    simp only [replyOr, reply, String.isEmpty_iff]
  unfold choice Chooses
  dsimp only
  rw [reply, Option.ite_none_right_eq_some, List.mem_map, Option.some.injEq]
  constructor
  · rintro ⟨known, same⟩
    exact ⟨same.symm, by rwa [same] at known⟩
  · rintro ⟨same, known⟩
    exact ⟨by rwa [← same], same.symm⟩

theorem isWholeNumber_iff {cs : List Char} : isWholeNumber cs = true ↔
    (takeSign cs).2 ≠ [] ∧ ∀ c ∈ (takeSign cs).2, isDigit c = true := by
  rw [isWholeNumber, Bool.and_eq_true, Bool.not_eq_true', List.isEmpty_eq_false_iff,
    List.all_eq_true]

theorem readTimestamp?_eq_some_iff {s : String} {t : Instant} : readTimestamp? s = some t ↔
    ∃ n, Denotes s.toList n ∧ Instant.ofSeconds n = .ok t := by
  have text : String.ofList s.toList = s := String.ofList_toList
  unfold readTimestamp?
  constructor
  · intro read
    split at read
    · next whole =>
      obtain ⟨filled, all⟩ := isWholeNumber_iff.1 whole
      obtain ⟨n, number, made⟩ := Option.bind_eq_some_iff.1 read
      rw [Except.toOption_eq_some_iff] at number made
      exact ⟨n, denotes_of_read filled all (by rwa [text]), made⟩
    · cases read
  · rintro ⟨n, number, made⟩
    have run := number.takeSign_eq.1
    have read := number.read
    rw [text] at read
    rw [if_pos (isWholeNumber_iff.2 ⟨run.filled, run.all⟩), read]
    exact Except.toOption_eq_some_iff.2 made

theorem denotes_lower_iff {s : String} {n : Int} :
    Denotes (lower s).toList n ↔ Denotes s.toList n := by
  constructor
  · intro text
    have same := (lower_eq_figures_iff (s := s) text.isFigure).1 rfl
    rwa [← same] at text
  · intro text
    rwa [(lower_eq_figures_iff text.isFigure).2 rfl]

theorem accept_timestamp_iff {lead default : String} {t : Instant} :
    (timestamp lead default).accept line = some t ↔ Dates default line t := by
  have empty : (reply line).isEmpty = true ↔ trim line = "" := by
    rw [reply, String.isEmpty_iff, lower_eq_figures_iff]
    rw [String.toList_empty]
    exact nofun
  unfold timestamp Dates
  dsimp only
  rw [readTimestamp?_eq_some_iff]
  simp only [← Instant.ofSeconds_eq_ok_iff]
  unfold replyOr
  by_cases blank : trim line = ""
  · rw [if_pos (empty.2 blank), if_pos blank]
  · rw [if_neg (mt empty.1 blank), if_neg blank, reply]
    simp only [denotes_lower_iff]

theorem readSeed?_eq_some_iff {s : String} {seed : Bytes} : readSeed? s = some seed ↔
    decodeHex s = .ok seed ∧ 16 ≤ seed.length ∧ seed.length ≤ 64 := by
  unfold readSeed?
  cases decodeHex s with
  | error flaw => simp
  | ok bytes =>
    dsimp only
    rw [Option.ite_none_right_eq_some, isSeedSize_iff, Option.some.injEq, Except.ok.injEq]
    constructor
    · rintro ⟨size, rfl⟩
      exact ⟨rfl, size⟩
    · rintro ⟨rfl, size⟩
      exact ⟨size, rfl⟩

theorem spells_trim_iff {seed : Bytes} : Spells (trim line) seed ↔
    ∃ before digits after, line = before ++ digits ++ after ∧ Blank before ∧ Blank after ∧
      Spells digits seed := by
  constructor
  · intro spelled
    obtain ⟨before, after, whole, leading, trailing⟩ := (trim_eq_iff spelled.not_blank).1 rfl
    exact ⟨before, trim line, after, whole, leading, trailing, spelled⟩
  · rintro ⟨before, digits, after, whole, leading, trailing, spelled⟩
    rwa [(trim_eq_iff spelled.not_blank).2 ⟨before, after, whole, leading, trailing⟩]

theorem accept_existingSeed_iff {seed : Bytes} :
    existingSeed.accept line = some seed ↔ Tells line seed := by
  unfold existingSeed
  dsimp only
  rw [readSeed?_eq_some_iff, reply, decodeHex_lower_eq_ok_iff, spells_trim_iff]
  exact ⟨fun ⟨spelled, least, most⟩ => ⟨spelled, least, most⟩,
    fun ⟨spelled, least, most⟩ => ⟨spelled, least, most⟩⟩

theorem isAcknowledgement_iff : isAcknowledgement line = true ↔ Confirms line := by
  rw [isAcknowledgement, decide_eq_true_iff, trimBy_eq_iff (by simp)]
  simp only [decide_eq_true_eq]
  constructor
  · rintro ⟨opening, closing, whole, opens, closes⟩
    refine ⟨String.ofList opening, String.ofList closing, ?_, ?_, ?_⟩
    · rw [trim, whole, String.ofList_append, String.ofList_append]
    · rwa [String.toList_ofList]
    · rwa [String.toList_ofList]
  · rintro ⟨opening, closing, whole, opens, closes⟩
    refine ⟨opening.toList, closing.toList, ?_, opens, closes⟩
    rw [trim, ← String.toList_inj, String.toList_ofList] at whole
    rw [whole, String.toList_append, String.toList_append]
    rfl

theorem accept_acknowledgement_iff {u : Unit} :
    acknowledgement.accept line = some u ↔ Confirms line := by
  unfold acknowledgement
  dsimp only
  rw [Option.ite_none_right_eq_some, isAcknowledgement_iff]
  exact and_iff_left rfl

end Lines

/-- Every question takes the first line of a text that will do for it, leaves the text behind that
line and prints its prompt once for every line it reads. Without such a line it reads the whole
text. -/
theorem questions_take_the_first_line :
    (∀ lead valid default, TakesFirst (choice lead valid default) (Chooses valid default)) ∧
    (∀ lead default, TakesFirst (timestamp lead default) (Dates default)) ∧
    TakesFirst existingSeed Tells ∧ TakesFirst acknowledgement (fun line _ => Confirms line) :=
  ⟨fun _ _ _ => takesFirst_of_accept fun _ _ => accept_choice_iff,
    fun _ _ => takesFirst_of_accept fun _ _ => accept_timestamp_iff,
    takesFirst_of_accept fun _ _ => accept_existingSeed_iff,
    takesFirst_of_accept fun _ _ => accept_acknowledgement_iff⟩

end WalletSetup.Bootstrap
