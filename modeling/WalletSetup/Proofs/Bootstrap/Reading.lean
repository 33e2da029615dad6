import WalletSetup.Bootstrap.Prompt
import WalletSetup.Proofs.Machine.Steps
import WalletSetup.Proofs.Text.Encoding

/-! How questions read the terminal. Each uses up some of what is to be read and leaves the rest
unread: with another rest it would have gone the same way. -/

set_option autoImplicit false

namespace WalletSetup.Bootstrap

open WalletSetup.Act WalletSetup.Text

namespace Question

variable {α : Type} {q : Question α}

def answer (q : Question α) (t : Terminal) : Except PromptError α × Terminal :=
  match q.ask t.lines with
  | (some (a, rest), printed) => (.ok a, { t.print printed with lines := rest })
  | (none, printed) => (.error .endOfInput, { t.print printed with lines := [], ended := true })

theorem put_run (q : Question α) (m : Machine) : q.put.run m =
    ((q.answer m.terminal).1, { m with terminal := (q.answer m.terminal).2 }) := by
  unfold put answer
  rw [run_bind, run_get]
  dsimp only
  rw [run_bind, run_say]
  dsimp only
  rcases q.ask m.terminal.lines with ⟨_ | ⟨a, rest⟩, printed⟩ <;> rfl

theorem put_eq_ok {m after : Machine} {a : α} (done : q.put.run m = (.ok a, after)) :
    q.answer m.terminal = (.ok a, after.terminal) ∧
      after = { m with terminal := after.terminal } := by
  rw [put_run] at done
  obtain ⟨answered, rfl⟩ := Prod.ext_iff.1 done
  exact ⟨Prod.ext answered rfl, rfl⟩

/-- What is printed when so many lines will not do before one does. -/
def transcript (q : Question α) : Nat → String
  | 0 => q.prompt
  | refused + 1 => q.prompt ++ q.complaint ++ q.transcript refused

/-- Lines that will not do are passed over, whatever comes after them. -/
theorem ask_refused {refused rest : List String} {line : String} {a : α}
    (none : ∀ other ∈ refused, q.accept other = none) (accepted : q.accept line = some a) :
    q.ask (refused ++ line :: rest) = (some (a, rest), q.transcript refused.length) := by
  induction refused with
  | nil => rw [List.nil_append, ask, accepted]; rfl
  | cons first more ih =>
    rw [List.cons_append, ask, none first List.mem_cons_self]
    dsimp only
    rw [ih fun other member => none other (List.mem_cons_of_mem _ member)]
    rfl

theorem ask_rest {lines rest : List String} {a : α} (found : (q.ask lines).1 = some (a, rest)) :
    ∃ used, lines = used ++ rest ∧
      ∀ more, q.ask (used ++ more) = (some (a, more), (q.ask lines).2) := by
  induction lines with
  | nil => cases found
  | cons line others ih =>
    unfold ask at found
    split at found
    · next accepted =>
      cases found
      refine ⟨[line], rfl, fun more => ?_⟩
      rw [List.singleton_append, ask, ask, accepted]
    · next refused =>
      obtain ⟨used, rfl, same⟩ := ih found
      refine ⟨line :: used, rfl, fun more => ?_⟩
      rw [List.cons_append, ask, ask, refused]
      dsimp only
      rw [same more]

/-- The answer is in the first line that will do, and the lines behind it are left. -/
theorem ask_first {lines rest : List String} {a : α} (found : (q.ask lines).1 = some (a, rest)) :
    ∃ refused line, lines = refused ++ line :: rest ∧ (∀ other ∈ refused, q.accept other = none) ∧
      q.accept line = some a ∧ (q.ask lines).2 = q.transcript refused.length := by
  induction lines with
  | nil => cases found
  | cons line others ih =>
    unfold ask at found ⊢
    cases accepted : q.accept line with
    | some answer =>
      rw [accepted] at found
      cases found
      exact ⟨[], line, rfl, nofun, accepted, rfl⟩
    | none =>
      rw [accepted] at found
      obtain ⟨refused, answered, rfl, before, accepts, printed⟩ := ih found
      refine ⟨line :: refused, answered, rfl, ?_, accepts, ?_⟩
      · simpa using ⟨accepted, before⟩
      · dsimp only
        rw [printed]
        rfl

theorem ask_none {lines : List String} (none : (q.ask lines).1 = none) :
    (∀ line ∈ lines, q.accept line = Option.none) ∧
      (q.ask lines).2 = q.transcript lines.length := by
  induction lines with
  | nil => exact ⟨nofun, rfl⟩
  | cons line others ih =>
    unfold ask at none ⊢
    cases accepted : q.accept line with
    | some answer =>
      rw [accepted] at none
      cases none
    | none =>
      rw [accepted] at none
      obtain ⟨refused, printed⟩ := ih none
      refine ⟨List.forall_mem_cons.2 ⟨accepted, refused⟩, ?_⟩
      dsimp only
      rw [printed]
      rfl

theorem answer_first {t after : Terminal} {a : α} (found : q.answer t = (.ok a, after)) :
    ∃ refused line, t.lines = refused ++ line :: after.lines ∧
      (∀ other ∈ refused, q.accept other = none) ∧ q.accept line = some a ∧
      after = { t.print (q.transcript refused.length) with lines := after.lines } := by
  unfold answer at found
  rcases asked : q.ask t.lines with ⟨_ | ⟨answered, rest⟩, printed⟩
  · rw [asked] at found
    cases found
  · rw [asked] at found
    cases found
    obtain ⟨refused, line, lines, before, accepts, transcript⟩ := ask_first (congrArg Prod.fst asked)
    rw [asked] at transcript
    exact ⟨refused, line, lines, before, accepts, by rw [← transcript]⟩

theorem answer_output (q : Question α) (t : Terminal) :
    ∃ refused, (q.answer t).2.output = t.output ++ q.transcript refused := by
  unfold answer
  rcases asked : q.ask t.lines with ⟨_ | ⟨a, later⟩, printed⟩
  · obtain ⟨-, transcript⟩ := ask_none (congrArg Prod.fst asked)
    rw [asked] at transcript
    exact ⟨_, by rw [← transcript]; rfl⟩
  · obtain ⟨refused, -, -, -, -, transcript⟩ := ask_first (congrArg Prod.fst asked)
    rw [asked] at transcript
    exact ⟨_, by rw [← transcript]; rfl⟩

theorem answer_rest {t after : Terminal} {a : α} (found : q.answer t = (.ok a, after)) :
    ∃ used, t.lines = used ++ after.lines ∧ ∀ more,
      q.answer { t with lines := used ++ more } = (.ok a, { after with lines := more }) := by
  unfold answer at found
  rcases asked : q.ask t.lines with ⟨_ | ⟨answered, rest⟩, printed⟩
  · rw [asked] at found
    cases found
  · rw [asked] at found
    cases found
    obtain ⟨used, lines, same⟩ := ask_rest (congrArg Prod.fst asked)
    refine ⟨used, lines, fun more => ?_⟩
    unfold answer
    dsimp only
    rw [same more, asked]
    rfl

end Question

section Passphrase

variable {lead : String} {confirm : Bool} {entry again : String} {rest : List String}

theorem takePassphrase_cons : takePassphrase lead confirm (entry :: rest) =
    if (trim entry).isEmpty then
      ((takePassphrase lead confirm rest).1,
        maskedLine lead ++ (takePassphrase lead confirm rest).2)
    else if confirm then
      match rest with
      | [] => (none, maskedLine lead ++ maskedLine confirmPrompt ++ "\n")
      | again :: rest =>
        if trim again = trim entry then
          (some (trim entry, rest), maskedLine lead ++ maskedLine confirmPrompt)
        else
          ((takePassphrase lead confirm rest).1, maskedLine lead ++ maskedLine confirmPrompt ++
            mismatchNotice ++ (takePassphrase lead confirm rest).2)
    else (some (trim entry, rest), maskedLine lead) := by
  cases rest <;> rfl

theorem takePassphrase_blank (blank : (trim entry).isEmpty = true) :
    takePassphrase lead confirm (entry :: rest) = ((takePassphrase lead confirm rest).1,
      maskedLine lead ++ (takePassphrase lead confirm rest).2) := by
  rw [takePassphrase_cons, if_pos blank]

section Filled

variable (filled : ¬(trim entry).isEmpty = true)

include filled

theorem takePassphrase_once :
    takePassphrase lead false (entry :: rest) = (some (trim entry, rest), maskedLine lead) := by
  rw [takePassphrase_cons, if_neg filled, if_neg Bool.false_ne_true]

theorem takePassphrase_alone : takePassphrase lead true [entry] =
    (none, maskedLine lead ++ maskedLine confirmPrompt ++ "\n") := by
  rw [takePassphrase_cons, if_neg filled, if_pos rfl]

theorem takePassphrase_equal (equal : trim again = trim entry) :
    takePassphrase lead true (entry :: again :: rest) =
      (some (trim entry, rest), maskedLine lead ++ maskedLine confirmPrompt) := by
  rw [takePassphrase_cons, if_neg filled, if_pos rfl]
  dsimp only
  rw [if_pos equal]

theorem takePassphrase_apart (apart : ¬trim again = trim entry) :
    takePassphrase lead true (entry :: again :: rest) = ((takePassphrase lead true rest).1,
      maskedLine lead ++ maskedLine confirmPrompt ++ mismatchNotice ++
        (takePassphrase lead true rest).2) := by
  rw [takePassphrase_cons, if_neg filled, if_pos rfl]
  dsimp only
  rw [if_neg apart]

end Filled

theorem takePassphrase_rest {entries : List String} {passphrase : String}
    (found : (takePassphrase lead confirm entries).1 = some (passphrase, rest)) :
    ∃ used, entries = used ++ rest ∧ ∀ more, takePassphrase lead confirm (used ++ more) =
      (some (passphrase, more), (takePassphrase lead confirm entries).2) := by
  -- One case for each way in which the entries can start.
  induction entries using takePassphrase.induct lead confirm with
  | case1 => cases found
  | case2 entry others blank _ _ _ ih =>
    rw [takePassphrase_blank blank] at found
    obtain ⟨used, rfl, same⟩ := ih found
    refine ⟨entry :: used, rfl, fun more => ?_⟩
    rw [List.cons_append, takePassphrase_blank blank, takePassphrase_blank blank, same more]
  | case3 entry filled asked =>
    cases asked
    rw [takePassphrase_alone filled] at found
    cases found
  | case4 entry filled asked again others equal =>
    cases asked
    rw [takePassphrase_equal filled equal] at found
    cases found
    refine ⟨[entry, again], rfl, fun more => ?_⟩
    rw [takePassphrase_equal filled equal]
    exact takePassphrase_equal filled equal
  | case5 entry filled asked again others apart _ _ _ ih =>
    cases asked
    rw [takePassphrase_apart filled apart] at found
    obtain ⟨used, rfl, same⟩ := ih found
    refine ⟨entry :: again :: used, rfl, fun more => ?_⟩
    rw [List.cons_append, List.cons_append, takePassphrase_apart filled apart,
      takePassphrase_apart filled apart, same more]
  | case6 entry others filled unasked =>
    cases Bool.eq_false_iff.2 unasked
    rw [takePassphrase_once filled] at found
    cases found
    refine ⟨[entry], rfl, fun more => ?_⟩
    rw [takePassphrase_once filled]
    exact takePassphrase_once filled

theorem takePassphrase_filled {entries : List String} {passphrase : String}
    (found : (takePassphrase lead confirm entries).1 = some (passphrase, rest)) :
    passphrase.isEmpty = false := by
  induction entries using takePassphrase.induct lead confirm with
  | case1 => cases found
  | case2 entry others blank _ _ _ ih =>
    rw [takePassphrase_blank blank] at found
    exact ih found
  | case3 entry filled asked =>
    cases asked
    rw [takePassphrase_alone filled] at found
    cases found
  | case4 entry filled asked again others equal =>
    cases asked
    rw [takePassphrase_equal filled equal] at found
    cases found
    exact Bool.eq_false_iff.2 filled
  | case5 entry filled asked again others apart _ _ _ ih =>
    cases asked
    rw [takePassphrase_apart filled apart] at found
    exact ih found
  | case6 entry others filled unasked =>
    cases Bool.eq_false_iff.2 unasked
    rw [takePassphrase_once filled] at found
    cases found
    exact Bool.eq_false_iff.2 filled

end Passphrase

section Entering

variable {host other : Host} {lead : String} {confirm : Bool} {t after : Terminal}
  {passphrase : Bytes}

def enter (host : Host) (lead : String) (confirm : Bool) (t : Terminal) :
    Except PromptError Bytes × Terminal :=
  match host.environment.nonempty? passphraseVariable with
  | some value => (.ok (encodeUtf8 value), t)
  | none =>
    match takePassphrase s!"{lead}: " confirm (maskedEntries t) with
    | (some (passphrase, rest), printed) =>
      (.ok (encodeUtf8 passphrase), (keepMasked t rest.length).print printed)
    | (none, printed) => (.error .aborted, { (keepMasked t 0).print printed with ended := true })

theorem promptPassphrase_run (host : Host) (lead : String) (confirm : Bool) (m : Machine) :
    (promptPassphrase host lead confirm).run m = ((enter host lead confirm m.terminal).1,
      { m with terminal := (enter host lead confirm m.terminal).2 }) := by
  unfold promptPassphrase enter
  cases host.environment.nonempty? passphraseVariable with
  | some value => rfl
  | none =>
    dsimp only
    rw [run_bind, run_get]
    dsimp only
    rcases takePassphrase s!"{lead}: " confirm (maskedEntries m.terminal) with
      ⟨_ | ⟨taken, rest⟩, printed⟩ <;> rfl

theorem masked_rest {prompt printed entered : String} {rest : List String}
    (taken : takePassphrase prompt confirm (maskedEntries t) = (some (entered, rest), printed)) :
    ∃ used, t.lines = used ++ (keepMasked t rest.length).lines ∧ ∀ more, ∃ others,
      takePassphrase prompt confirm (maskedEntries { t with lines := used ++ more }) =
          (some (entered, others), printed) ∧
        keepMasked { t with lines := used ++ more } others.length =
          { keepMasked t rest.length with lines := more } := by
  obtain ⟨lines, masked, output, ended⟩ := t
  cases masked with
  | some entries => exact ⟨[], rfl, fun more => ⟨rest, taken, rfl⟩⟩
  | none =>
    -- The entries are the lines themselves, so those that are taken come from the first lines.
    obtain ⟨first, split, same⟩ := takePassphrase_rest (congrArg Prod.fst taken)
    obtain ⟨used, left, rfl, rfl, rfl⟩ := List.map_eq_append_iff.1 split
    have drop (more : List String) : (used ++ more).drop ((used ++ more).length - more.length) =
        more := by
      rw [List.length_append, Nat.add_sub_cancel, List.drop_left]
    refine ⟨used, ?_, fun more => ?_⟩
    · simp only [keepMasked, List.length_map, drop]
    · have continued := same (more.map fun line => String.ofList (line.toList.filter (· ≠ '\n')))
      rw [← List.map_append, taken] at continued
      refine ⟨_, continued, ?_⟩
      simp only [keepMasked, List.length_map, drop]

theorem enter_rest (found : enter host lead confirm t = (.ok passphrase, after)) :
    ∃ used, t.lines = used ++ after.lines ∧ ∀ more,
      enter host lead confirm { t with lines := used ++ more } =
        (.ok passphrase, { after with lines := more }) := by
  unfold enter at found ⊢
  cases set : host.environment.nonempty? passphraseVariable with
  | some value =>
    rw [set] at found
    cases found
    exact ⟨[], rfl, fun more => rfl⟩
  | none =>
    rw [set] at found
    dsimp only at found ⊢
    rcases taken : takePassphrase s!"{lead}: " confirm (maskedEntries t) with
      ⟨_ | ⟨entered, rest⟩, printed⟩
    · rw [taken] at found
      cases found
    · rw [taken] at found
      cases found
      obtain ⟨used, lines, same⟩ := masked_rest taken
      refine ⟨used, lines, fun more => ?_⟩
      obtain ⟨others, takenToo, kept⟩ := same more
      rw [takenToo]
      dsimp only
      rw [kept]
      rfl

theorem nonempty?_eq_some {env : Path.Environment} {name value : String}
    (set : env.nonempty? name = some value) : value.isEmpty = false := by
  have kept := (Option.filter_eq_some_iff.1 set).2
  rwa [Bool.not_eq_true'] at kept

/-- A passphrase is never empty, wherever it comes from. -/
theorem enter_nonempty (found : enter host lead confirm t = (.ok passphrase, after)) :
    passphrase ≠ [] := by
  rw [← List.isEmpty_eq_false_iff]
  unfold enter at found
  cases set : host.environment.nonempty? passphraseVariable with
  | some value =>
    rw [set] at found
    cases found
    rw [encodeUtf8_isEmpty, nonempty?_eq_some set]
  | none =>
    rw [set] at found
    dsimp only at found
    rcases taken : takePassphrase s!"{lead}: " confirm (maskedEntries t) with
      ⟨_ | ⟨entered, rest⟩, printed⟩
    · rw [taken] at found
      cases found
    · rw [taken] at found
      cases found
      rw [encodeUtf8_isEmpty, takePassphrase_filled (congrArg Prod.fst taken)]

/-- Environments in both of which the variable stands in for the prompt, or in neither, differ in the
passphrase at most, which is empty in neither. -/
theorem enter_other {env : Path.Environment} (lead : String) (confirm : Bool) (t : Terminal)
    (set : (env.nonempty? passphraseVariable).isSome =
      (host.environment.nonempty? passphraseVariable).isSome) :
    Except.Alike (fun p q => q.isEmpty = p.isEmpty) (enter host lead confirm t).1
        (enter { host with environment := env } lead confirm t).1 ∧
      (enter { host with environment := env } lead confirm t).2 = (enter host lead confirm t).2 := by
  unfold enter
  dsimp only
  cases first : host.environment.nonempty? passphraseVariable with
  | none =>
    rw [first, Option.isSome_none, Option.isSome_eq_false_iff, Option.isNone_iff_eq_none] at set
    rw [set]
    dsimp only
    rcases takePassphrase s!"{lead}: " confirm (maskedEntries t) with ⟨_ | ⟨entered, rest⟩, printed⟩
    · exact ⟨.error _, rfl⟩
    · exact ⟨.ok rfl, rfl⟩
  | some value =>
    rw [first, Option.isSome_some] at set
    obtain ⟨otherValue, second⟩ := Option.isSome_iff_exists.1 set
    rw [second]
    refine ⟨.ok ?_, rfl⟩
    rw [encodeUtf8_isEmpty, encodeUtf8_isEmpty, nonempty?_eq_some first, nonempty?_eq_some second]

end Entering

end WalletSetup.Bootstrap
