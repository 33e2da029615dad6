import WalletSetup.Proofs.Bootstrap.Questions
import WalletSetup.Proofs.Bootstrap.Requests
import WalletSetup.Proofs.Text.Occurrences

/-! A new seed and its way back. Its text is shown once only, and whoever tells that text in a later
run gets the same seed. -/

set_option autoImplicit false

namespace WalletSetup.Bootstrap

open WalletSetup.Act WalletSetup.Text WalletSetup.Wallet

def newSeed (host : Host) (m : Machine) : Bytes :=
  Machine.randomBytes host.entropy m.drawn seedSize

section Words

variable {word : List Char}

/-- The text adds no occurrence of the word, whatever comes after it. -/
def Silent (word : List Char) (text : String) : Prop :=
  ∀ rest, occurrences word (text.toList ++ rest) = occurrences word rest

theorem silent_empty (word : List Char) : Silent word "" := fun rest => by
  rw [String.toList_empty, List.nil_append]

theorem Silent.append {text other : String} (first : Silent word text)
    (second : Silent word other) : Silent word (text ++ other) := fun rest => by
  rw [String.toList_append, List.append_assoc, first, second]

theorem Silent.transcript {α : Type} {q : Question α} (prompt : Silent word q.prompt)
    (complaint : Silent word q.complaint) (refused : Nat) : Silent word (q.transcript refused) := by
  induction refused with
  | zero => exact prompt
  | succ refused ih => exact (prompt.append complaint).append ih

/-- The text ends with a blank, and its spaces lie too close to one another for so long a word. -/
def Broken (length : Nat) (text : String) : Prop := text.toList.getLast?.any isBlank = true ∧
  ∀ piece ∈ splitOn ' ' text.toList.dropLast, piece.length < length

instance (length : Nat) (text : String) : Decidable (Broken length text) :=
  inferInstanceAs (Decidable (_ ∧ _))

theorem Broken.silent {text : String} (filled : word ≠ []) (solid : ∀ c ∈ word, isBlank c = false)
    (broken : Broken word.length text) : Silent word text := by
  intro rest
  have absent {c : Char} (blank : isBlank c = true) : c ∉ word := fun member => by
    rw [solid c member] at blank
    cases blank
  obtain ⟨ends, short⟩ := broken
  cases last : text.toList.getLast? with
  | none =>
    rw [last] at ends
    cases ends
  | some c =>
    rw [last] at ends
    rw [← List.dropLast_append_getLast? c last, List.append_assoc, List.singleton_append,
      occurrences_cut _ _ filled (absent ends),
      occurrences_of_pieces filled (absent (by decide)) short, Nat.zero_add]

end Words

section Showing

variable {host : Host} {m : Machine} {asked : Terminal}

theorem length_newSeed (host : Host) (m : Machine) : (newSeed host m).length = 32 := by
  rw [newSeed, length_randomBytes]
  rfl

def warning : String := "\nIMPORTANT: Keep the seed in a safe place as you will NOT be able " ++
  "to restore your wallet without it.\n\n"

theorem seedNotice_eq (seed : Bytes) : seedNotice seed =
    "Your wallet generation seed is: " ++ (encodeHex seed ++ ("\n" ++ warning)) := by
  unfold seedNotice warning
  simp only [toString, String.append_assoc]

theorem seed_run_fresh (host : Host)
    (fresh : useExistingSeed.answer m.terminal = (.ok false, asked)) :
    (seed host).run m =
      ((acknowledgement.answer (asked.print (seedNotice (newSeed host m)))).1.map
        fun _ => (newSeed host m, host.now),
      { m with
        drawn := m.drawn + seedSize
        terminal := (acknowledgement.answer (asked.print (seedNotice (newSeed host m)))).2 }) := by
  unfold seed newSeed
  rw [run_bind, Question.put_run, fresh]
  dsimp only
  rw [if_neg Bool.false_ne_true, run_bind, run_draw]
  dsimp only
  rw [run_bind, run_say]
  dsimp only
  rw [run_bind, Question.put_run]
  dsimp only
  rcases acknowledgement.answer _ with ⟨_ | _, after⟩ <;> rfl

theorem wish_broken : Broken 64 useExistingSeed.prompt := by decide +kernel

theorem lead_broken : Broken 64 "Your wallet generation seed is: " := by decide +kernel

theorem warning_broken : Broken 64 warning := by decide +kernel

theorem acknowledgement_broken : Broken 64 acknowledgement.prompt := by decide +kernel

/-- However often the questions before and after it are put, the seed is shown once. -/
theorem occurrences_shown {seed : Bytes} (size : seed.length = 32) (before after : Nat) :
    occurrences (hexChars seed) (useExistingSeed.transcript before ++
      (seedNotice seed ++ acknowledgement.transcript after)).toList = 1 := by
  have long : (hexChars seed).length = 64 := by rw [length_hexChars, size]
  have filled : hexChars seed ≠ [] := List.ne_nil_of_length_eq_add_one long
  have solid : ∀ c ∈ hexChars seed, isBlank c = false :=
    fun c member => (isSmallDigit_of_mem c member).2.2
  have silent {text : String} (broken : Broken 64 text) : Silent (hexChars seed) text := by
    rw [← long] at broken
    exact broken.silent filled solid
  have noLineEnd : '\n' ∉ hexChars seed := fun member => by
    have blank := solid '\n' member
    exact absurd blank (by decide)
  have hex : (encodeHex seed).toList = hexChars seed := String.toList_ofList
  have wished := (silent wish_broken).transcript (silent_empty _) before
  have stored := (silent acknowledgement_broken).transcript (silent_empty _) after
  have lineEnd : ("\n" : String).toList = ['\n'] := rfl
  rw [seedNotice_eq, String.toList_append, wished]
  simp only [String.toList_append, List.append_assoc, hex, lineEnd]
  rw [silent lead_broken, List.singleton_append, occurrences_cut _ _ filled noLineEnd,
    occurrences_self filled, silent warning_broken]
  have rest := stored []
  rw [List.append_nil] at rest
  rw [rest]
  rfl

/-- In a run that makes a new seed the text of that seed is shown once, and it is a way to tell the
seed. -/
structure ShowsOnce (host : Host) (m : Machine)
    (ended : Except PromptError (Bytes × Time.Instant) × Machine) : Prop where
  result : ended.1 = .ok (newSeed host m, host.now) ∨ ended.1 = .error .endOfInput
  shown : ∃ shown, ended.2.terminal.output = m.terminal.output ++ shown ∧
    occurrences (encodeHex (newSeed host m)).toList shown.toList = 1
  text : ∀ before after, Blank before → Blank after →
    Tells (before ++ encodeHex (newSeed host m) ++ after) (newSeed host m)

theorem seed_showsOnce (fresh : useExistingSeed.answer m.terminal = (.ok false, asked)) :
    ShowsOnce host m ((seed host).run m) where
  result := by
    rw [seed_run_fresh host fresh]
    unfold Question.answer
    rcases acknowledgement.ask _ with ⟨_ | ⟨_, _⟩, _⟩
    · exact .inr rfl
    · exact .inl rfl
  shown := by
    obtain ⟨before, wished⟩ := useExistingSeed.answer_output m.terminal
    obtain ⟨after, stored⟩ :=
      acknowledgement.answer_output (asked.print (seedNotice (newSeed host m)))
    rw [fresh] at wished
    refine ⟨useExistingSeed.transcript before ++
      (seedNotice (newSeed host m) ++ acknowledgement.transcript after), ?_, ?_⟩
    · rw [seed_run_fresh host fresh]
      dsimp only at wished ⊢
      rw [stored, Terminal.print, wished]
      simp only [String.append_assoc]
    · rw [encodeHex, String.toList_ofList]
      exact occurrences_shown (length_newSeed host m) before after
  text before after leading trailing :=
    ⟨⟨before, _, after, rfl, leading, trailing, spells_encodeHex _⟩,
      by rw [length_newSeed]; decide, by rw [length_newSeed]; decide⟩

end Showing

section Telling

variable {m after : Machine} {line : String} {later : List String} {told : Bytes}

theorem existingSeed_at_once (lines : m.terminal.lines = line :: later) (tells : Tells line told) :
    existingSeed.put.run m = (.ok told,
      { m with terminal := { m.terminal.print existingSeed.prompt with lines := later } }) := by
  have asked : existingSeed.ask ([] ++ line :: later) = _ :=
    Question.ask_refused nofun (accept_existingSeed_iff.2 tells)
  rw [Question.put_run, Question.answer, lines, ← List.nil_append (line :: later), asked]
  rfl

theorem existingSeed_tells (done : existingSeed.put.run m = (.ok told, after)) :
    ∃ refused line, m.terminal.lines = refused ++ line :: after.terminal.lines ∧
      Tells line told := by
  obtain ⟨refused, line, lines, -, accepted, -⟩ := Question.answer_first (Question.put_eq_ok done).1
  exact ⟨refused, line, lines, accept_existingSeed_iff.1 accepted⟩

def afterTelling (wished : Terminal) (refused later : List String) : Terminal :=
  { wished.print (existingSeed.transcript refused.length) with lines := later }

theorem seed_run_restored (host : Host) {wished : Terminal} {refused : List String}
    (wish : useExistingSeed.answer m.terminal = (.ok true, wished))
    (lines : wished.lines = refused ++ line :: later)
    (others : ∀ other ∈ refused, ∀ seed, ¬Tells other seed) (tells : Tells line told) :
    (seed host).run m = ((birthday.answer (afterTelling wished refused later)).1.map (told, ·),
      { m with terminal := (birthday.answer (afterTelling wished refused later)).2 }) := by
  have none : ∀ other ∈ refused, existingSeed.accept other = none := fun other member =>
    Option.eq_none_iff_forall_ne_some.2 fun seed accepted =>
      others other member seed (accept_existingSeed_iff.1 accepted)
  rw [seed_run_told host wish lines none (accept_existingSeed_iff.2 tells), run_bind,
    Question.put_run, ← afterTelling]
  dsimp only
  rcases birthday.answer (afterTelling wished refused later) with ⟨_ | born, after⟩ <;> rfl

end Telling

/-- A line that holds a seed of 16 to 64 bytes in hexadecimal tells it at once, and no other line
tells one. The text of a new seed is shown once in its run, whether or not it is acknowledged, and a
later run that is told this text comes to the same seed. -/
theorem shown_seed_is_restored :
    (∀ (m : Machine) line later seed, m.terminal.lines = line :: later → Tells line seed →
      existingSeed.put.run m = (.ok seed,
        { m with terminal := { m.terminal.print existingSeed.prompt with lines := later } })) ∧
    (∀ (m after : Machine) seed, existingSeed.put.run m = (.ok seed, after) →
      ∃ refused line, m.terminal.lines = refused ++ line :: after.terminal.lines ∧
        Tells line seed) ∧
    ∀ (host : Host) (m : Machine) asked, useExistingSeed.answer m.terminal = (.ok false, asked) →
      ShowsOnce host m ((seed host).run m) ∧
      ∀ (other : Host) (n : Machine) wished refused line later,
        useExistingSeed.answer n.terminal = (.ok true, wished) →
        wished.lines = refused ++ line :: later →
        (∀ other ∈ refused, ∀ seed, ¬Tells other seed) → Tells line (newSeed host m) →
        (seed other).run n =
          ((birthday.answer (afterTelling wished refused later)).1.map (newSeed host m, ·),
            { n with terminal := (birthday.answer (afterTelling wished refused later)).2 }) :=
  ⟨fun _ _ _ _ => existingSeed_at_once, fun _ _ _ => existingSeed_tells, fun _ _ _ fresh =>
    ⟨seed_showsOnce fresh, fun other _ _ _ _ _ => seed_run_restored other⟩⟩

def newcomer : Machine := .start (.bare ["w"]) 0 (.start ["no\n", "OK\n"] none)

def returner : Machine := .start (.bare ["w"]) 0
  (.start ["yes\n", encodeHex (List.replicate 32 0) ++ "\n", "0\n"] none)

theorem seed_of_zeros_is_restored :
    ((seed Host.plain).run newcomer).1 = .ok (List.replicate 32 0, Host.plain.now) ∧
      ShowsOnce Host.plain newcomer ((seed Host.plain).run newcomer) ∧
      ((seed Host.plain).run returner).1 = .ok (List.replicate 32 0, ⟨0⟩) := by
  obtain ⟨shows, restores⟩ := shown_seed_is_restored.2.2 Host.plain newcomer _ (by rfl)
  have line : Tells (encodeHex (List.replicate 32 0) ++ "\n") (newSeed Host.plain newcomer) := by
    have text := shows.text "" "\n" (by decide) (by decide)
    rwa [String.empty_append] at text
  refine ⟨by rfl, shows, ?_⟩
  rw [restores Host.plain returner _ [] _ _ (by rfl) (by rfl) nofun line]
  rfl

end WalletSetup.Bootstrap
