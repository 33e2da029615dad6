import WalletSetup.Proofs.Bootstrap.Reading
import WalletSetup.Proofs.Text.Cutting

/-! Masked entries in attempts. An attempt ends with the entry after its first one that is not
blank, so that no entry is compared with one of another attempt. -/

set_option autoImplicit false

namespace WalletSetup.Bootstrap

open WalletSetup.Act WalletSetup.Text

/-- An attempt at a passphrase: blank entries, one that is not blank, and one to confirm it, which
may be anything. -/
structure Attempt where
  blanks : List String
  entry : String
  again : String
  blank : ∀ other ∈ blanks, Blank other
  filled : ¬Blank entry

structure Unfinished where
  blanks : List String
  entry : Option String
  blank : ∀ other ∈ blanks, Blank other
  filled : ∀ given ∈ entry, ¬Blank given

def prompts (lead : String) (times : Nat) : String :=
  String.join (List.replicate times (maskedLine lead))

namespace Attempt

def entries (a : Attempt) : List String := a.blanks ++ [a.entry, a.again]

def Agrees (a : Attempt) : Prop := trim a.again = trim a.entry

instance (a : Attempt) : Decidable a.Agrees :=
  inferInstanceAs (Decidable (trim a.again = trim a.entry))

def asked (lead : String) (a : Attempt) : String :=
  prompts lead (a.blanks.length + 1) ++ maskedLine confirmPrompt

def all (attempts : List Attempt) : List String := attempts.flatMap entries

def refusals (lead : String) (attempts : List Attempt) : String :=
  String.join (attempts.map fun a => a.asked lead ++ mismatchNotice)

theorem all_cons (a : Attempt) (more : List Attempt) : all (a :: more) = a.entries ++ all more :=
  List.flatMap_cons

theorem refusals_cons (lead : String) (a : Attempt) (more : List Attempt) :
    refusals lead (a :: more) = a.asked lead ++ mismatchNotice ++ refusals lead more := by
  rw [refusals, List.map_cons, String.join_cons]
  rfl

end Attempt

namespace Unfinished

def entries (u : Unfinished) : List String := u.blanks ++ u.entry.toList

def asked (lead : String) (u : Unfinished) : String :=
  prompts lead (u.blanks.length + 1) ++ (if u.entry.isSome then maskedLine confirmPrompt else "") ++
    "\n"

end Unfinished

/-- How entries are taken, with or without confirmation: the passphrase and the entries after it, if
there is one, and what is printed. -/
inductive Taking (lead : String) :
    Bool → List String → Option (String × List String) × String → Prop where
  | first {blanks rest : List String} {entry : String} (blank : ∀ other ∈ blanks, Blank other)
      (filled : ¬Blank entry) : Taking lead false (blanks ++ entry :: rest)
        (some (trim entry, rest), prompts lead (blanks.length + 1))
  | blank {blanks : List String} (blank : ∀ other ∈ blanks, Blank other) :
    Taking lead false blanks (none, prompts lead (blanks.length + 1) ++ "\n")
  | confirmed {failed : List Attempt} {last : Attempt} {rest : List String}
      (apart : ∀ a ∈ failed, ¬a.Agrees) (agrees : last.Agrees) :
    Taking lead true (Attempt.all failed ++ (last.entries ++ rest))
      (some (trim last.entry, rest), Attempt.refusals lead failed ++ last.asked lead)
  | unfinished {failed : List Attempt} {last : Unfinished} (apart : ∀ a ∈ failed, ¬a.Agrees) :
    Taking lead true (Attempt.all failed ++ last.entries)
      (none, Attempt.refusals lead failed ++ last.asked lead)

section Entries

variable {lead : String} {confirm : Bool} {blanks rest : List String}

theorem prompts_succ (lead : String) (times : Nat) :
    prompts lead (times + 1) = maskedLine lead ++ prompts lead times := by
  rw [prompts, List.replicate_succ, String.join_cons]
  rfl

theorem prompts_succ_end (lead : String) (times : Nat) :
    prompts lead (times + 1) = prompts lead times ++ maskedLine lead := by
  rw [prompts, List.replicate_succ', String.join_append, String.join_cons, String.join_nil,
    String.append_empty]
  rfl

theorem takePassphrase_nil :
    takePassphrase lead confirm [] = (none, maskedLine lead ++ "\n") := rfl

theorem takePassphrase_blanks (blank : ∀ other ∈ blanks, Blank other) :
    takePassphrase lead confirm (blanks ++ rest) = ((takePassphrase lead confirm rest).1,
      prompts lead blanks.length ++ (takePassphrase lead confirm rest).2) := by
  induction blanks with
  | nil =>
    rw [List.nil_append, List.length_nil, prompts, List.replicate_zero, String.join_nil,
      String.empty_append]
  | cons first more ih =>
    have here := trim_isEmpty_iff.2 (blank first List.mem_cons_self)
    rw [List.cons_append, takePassphrase_blank here,
      ih fun other member => blank other (List.mem_cons_of_mem _ member), List.length_cons,
      prompts_succ, String.append_assoc]

theorem takePassphrase_attempt (a : Attempt) : takePassphrase lead true (a.entries ++ rest) =
    if a.Agrees then (some (trim a.entry, rest), a.asked lead)
    else ((takePassphrase lead true rest).1,
      a.asked lead ++ mismatchNotice ++ (takePassphrase lead true rest).2) := by
  have filled : ¬(trim a.entry).isEmpty = true := mt trim_isEmpty_iff.1 a.filled
  rw [Attempt.entries, List.append_assoc, takePassphrase_blanks a.blank, List.cons_append,
    List.singleton_append, Attempt.asked, prompts_succ_end]
  by_cases agrees : a.Agrees
  · rw [if_pos agrees, takePassphrase_equal filled agrees]
    simp only [String.append_assoc]
  · rw [if_neg agrees, takePassphrase_apart filled agrees]
    simp only [String.append_assoc]

theorem takePassphrase_failed {failed : List Attempt} (apart : ∀ a ∈ failed, ¬a.Agrees) :
    takePassphrase lead true (Attempt.all failed ++ rest) = ((takePassphrase lead true rest).1,
      Attempt.refusals lead failed ++ (takePassphrase lead true rest).2) := by
  induction failed with
  | nil =>
    rw [Attempt.refusals, List.map_nil, String.join_nil, String.empty_append]
    rfl
  | cons a more ih =>
    rw [Attempt.all_cons, List.append_assoc, takePassphrase_attempt,
      if_neg (apart a List.mem_cons_self), Attempt.refusals_cons,
      ih fun other member => apart other (List.mem_cons_of_mem _ member)]
    simp only [String.append_assoc]

theorem takePassphrase_unfinished (u : Unfinished) :
    takePassphrase lead true u.entries = (none, u.asked lead) := by
  obtain ⟨blanks, entry, blank, filled⟩ := u
  rw [Unfinished.entries, takePassphrase_blanks blank, Unfinished.asked, prompts_succ_end]
  cases entry with
  | none =>
    rw [Option.toList_none, takePassphrase_nil, Option.isSome_none, if_neg Bool.false_ne_true,
      String.append_empty]
    simp only [String.append_assoc]
  | some given =>
    have filled : ¬(trim given).isEmpty = true := mt trim_isEmpty_iff.1 (filled given rfl)
    rw [Option.toList_some, takePassphrase_alone filled, Option.isSome_some, if_pos rfl]
    simp only [String.append_assoc]

theorem exists_attempt (entries : List String) :
    (∃ u : Unfinished, entries = u.entries) ∨
      ∃ (a : Attempt) (rest : List String), entries = a.entries ++ rest := by
  induction entries with
  | nil => exact .inl ⟨⟨[], none, nofun, nofun⟩, rfl⟩
  | cons entry more ih =>
    by_cases here : Blank entry
    · rcases ih with ⟨⟨blanks, last, blank, filled⟩, rfl⟩ |
        ⟨⟨blanks, given, again, blank, filled⟩, rest, rfl⟩
      · exact .inl ⟨⟨entry :: blanks, last, List.forall_mem_cons.2 ⟨here, blank⟩, filled⟩, rfl⟩
      · exact .inr ⟨⟨entry :: blanks, given, again, List.forall_mem_cons.2 ⟨here, blank⟩, filled⟩,
          rest, rfl⟩
    · cases more with
      | nil => exact .inl ⟨⟨[], some entry, nofun, by simpa using here⟩, rfl⟩
      | cons again rest => exact .inr ⟨⟨[], entry, again, nofun, here⟩, rest, rfl⟩

/-- Entries are attempts that fail, and then one that succeeds or one that they do not suffice
for. -/
theorem exists_attempts (entries : List String) : ∃ failed rest,
    entries = Attempt.all failed ++ rest ∧ (∀ a ∈ failed, ¬a.Agrees) ∧
      ((∃ u : Unfinished, rest = u.entries) ∨
        ∃ (last : Attempt) (others : List String),
          rest = last.entries ++ others ∧ last.Agrees) := by
  induction size : entries.length using Nat.strongRecOn generalizing entries with
  | ind n ih =>
    rcases exists_attempt entries with ⟨u, rfl⟩ | ⟨a, others, rfl⟩
    · exact ⟨[], _, rfl, nofun, .inl ⟨u, rfl⟩⟩
    · by_cases agrees : a.Agrees
      · exact ⟨[], _, rfl, nofun, .inr ⟨a, others, rfl, agrees⟩⟩
      · have shorter : others.length < n := by
          rw [← size, Attempt.entries]
          simp only [List.length_append, List.length_cons]
          omega
        obtain ⟨failed, rest, rfl, apart, ending⟩ := ih _ shorter others rfl
        refine ⟨a :: failed, rest, ?_, List.forall_mem_cons.2 ⟨agrees, apart⟩, ending⟩
        rw [Attempt.all_cons, List.append_assoc]

theorem exists_filled (entries : List String) : (∀ other ∈ entries, Blank other) ∨
    ∃ blanks entry rest, entries = blanks ++ entry :: rest ∧ (∀ other ∈ blanks, Blank other) ∧
      ¬Blank entry := by
  induction entries with
  | nil => exact .inl nofun
  | cons entry more ih =>
    by_cases here : Blank entry
    · rcases ih with all | ⟨blanks, given, rest, rfl, blank, filled⟩
      · exact .inl (List.forall_mem_cons.2 ⟨here, all⟩)
      · exact .inr ⟨entry :: blanks, given, rest, rfl, List.forall_mem_cons.2 ⟨here, blank⟩, filled⟩
    · exact .inr ⟨[], entry, more, rfl, nofun, here⟩

theorem takePassphrase_taking (lead : String) (confirm : Bool) (entries : List String) :
    Taking lead confirm entries (takePassphrase lead confirm entries) := by
  cases confirm with
  | false =>
    rcases exists_filled entries with blank | ⟨blanks, entry, rest, rfl, blank, filled⟩
    · have taken : takePassphrase lead false (entries ++ []) = _ := takePassphrase_blanks blank
      rw [List.append_nil, takePassphrase_nil, ← String.append_assoc, ← prompts_succ_end] at taken
      rw [taken]
      exact .blank blank
    · rw [takePassphrase_blanks blank, takePassphrase_once (mt trim_isEmpty_iff.1 filled),
        ← prompts_succ_end]
      exact .first blank filled
  | true =>
    obtain ⟨failed, rest, rfl, apart, ⟨u, rfl⟩ | ⟨last, others, rfl, agrees⟩⟩ :=
      exists_attempts entries
    · rw [takePassphrase_failed apart, takePassphrase_unfinished]
      exact .unfinished apart
    · rw [takePassphrase_failed apart, takePassphrase_attempt, if_pos agrees]
      exact .confirmed apart agrees

end Entries

section Entering

variable {host : Host} {lead : String} {confirm : Bool} {t : Terminal}

/-- How a passphrase is entered: it is the value of the variable, if that is not empty, and nothing
is read; else it is taken from the masked entries, and those that are not needed stay. -/
inductive Entered (host : Host) (lead : String) (confirm : Bool) (t : Terminal) :
    Except PromptError Bytes → Terminal → Prop where
  | given {value : String} (set : host.environment.nonempty? passphraseVariable = some value) :
    Entered host lead confirm t (.ok (encodeUtf8 value)) t
  | taken {passphrase printed : String} {rest : List String}
      (unset : host.environment.nonempty? passphraseVariable = none)
      (taking : Taking lead confirm (maskedEntries t) (some (passphrase, rest), printed))
      (left : maskedEntries (keepMasked t rest.length) = rest) :
    Entered host lead confirm t (.ok (encodeUtf8 passphrase))
      ((keepMasked t rest.length).print printed)
  | aborted {printed : String} (unset : host.environment.nonempty? passphraseVariable = none)
      (taking : Taking lead confirm (maskedEntries t) (none, printed))
      (left : maskedEntries (keepMasked t 0) = []) :
    Entered host lead confirm t (.error .aborted)
      { (keepMasked t 0).print printed with ended := true }

/-- Of the masked entries the last ones are left, as many as are to be kept. -/
theorem maskedEntries_keepMasked {used rest : List String}
    (split : maskedEntries t = used ++ rest) :
    maskedEntries (keepMasked t rest.length) = rest := by
  have kept : (maskedEntries t).drop ((maskedEntries t).length - rest.length) = rest := by
    rw [split, List.length_append, Nat.add_sub_cancel, List.drop_left]
  obtain ⟨lines, masked, output, ended⟩ := t
  cases masked with
  | some entries => exact kept
  | none =>
    rw [maskedEntries, Option.getD_none, List.length_map, ← List.map_drop] at kept
    exact kept

theorem enter_entered (host : Host) (lead : String) (confirm : Bool) (t : Terminal) :
    Entered host (lead ++ ": ") confirm t (enter host lead confirm t).1
      (enter host lead confirm t).2 := by
  unfold enter
  cases set : host.environment.nonempty? passphraseVariable with
  | some value => exact .given set
  | none =>
    have taking := takePassphrase_taking (lead ++ ": ") confirm (maskedEntries t)
    rw [show s!"{lead}: " = lead ++ ": " from rfl]
    rcases taken : takePassphrase (lead ++ ": ") confirm (maskedEntries t) with
      ⟨_ | ⟨passphrase, rest⟩, printed⟩
    · rw [taken] at taking
      exact .aborted set taking (maskedEntries_keepMasked (List.append_nil _).symm)
    · rw [taken] at taking
      obtain ⟨used, split, -⟩ := takePassphrase_rest (congrArg Prod.fst taken)
      exact .taken set taking (maskedEntries_keepMasked split)

/-- A passphrase is the value of the variable or comes from the masked entries: without confirmation
from the first that is not blank, with confirmation from the first attempt whose two entries agree.
No further entry is used. It is never empty, and if the entries run out first, the prompt is
aborted. -/
theorem passphrase_is_taken_by_attempts (host : Host) (lead : String) (confirm : Bool)
    (m : Machine) : ∃ result after,
      (promptPassphrase host lead confirm).run m = (result, { m with terminal := after }) ∧
      Entered host (lead ++ ": ") confirm m.terminal result after ∧ result ≠ .ok [] := by
  refine ⟨_, _, promptPassphrase_run host lead confirm m, enter_entered _ _ _ _, fun empty => ?_⟩
  have entered : enter host lead confirm m.terminal = (.ok [], _) := Prod.ext empty rfl
  exact enter_nonempty entered rfl

end Entering

end WalletSetup.Bootstrap
