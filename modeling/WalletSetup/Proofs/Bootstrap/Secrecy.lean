import WalletSetup.Proofs.Bootstrap.Outcomes
import WalletSetup.Proofs.Bootstrap.Questions
import WalletSetup.Proofs.Wallet.Secrecy

/-! What is entered in secret stays there. Two users who enter different passphrases by the
variable of the environment, or different seeds of old, see the same on their terminals and find
the same in their logs and files, but for the private section. -/

set_option autoImplicit false

namespace WalletSetup.Bootstrap

open WalletSetup.Act WalletSetup.Machine WalletSetup.Text WalletSetup.Wallet

section Seeds

/-- Every seed of a size that will do can be told, in hexadecimal. -/
theorem accept_encodeHex {seed : Bytes} (size : isSeedSize seed.length = true) :
    existingSeed.accept (encodeHex seed ++ "\n") = some seed := by
  obtain ⟨least, most⟩ := isSeedSize_iff.1 size
  have line : encodeHex seed ++ "\n" = "" ++ encodeHex seed ++ "\n" := by
    rw [String.empty_append]
  exact accept_existingSeed_iff.2
    ⟨⟨"", _, "\n", line, by decide, by decide, spells_encodeHex seed⟩, least, most⟩

theorem existingSeed_size {line : String} {seed : Bytes}
    (accepted : existingSeed.accept line = some seed) : isSeedSize seed.length = true := by
  have tells := accept_existingSeed_iff.1 accepted
  exact isSeedSize_iff.2 ⟨tells.least, tells.most⟩

end Seeds

section Lines

variable {host : Host} {t : Terminal} {before later : List String} {line : String}

theorem seed_run_told (host : Host) {m : Machine} {wished : Terminal} {refused : List String}
    {told : Bytes}
    (wish : useExistingSeed.answer m.terminal = (.ok true, wished))
    (lines : wished.lines = refused ++ line :: later)
    (none : ∀ other ∈ refused, existingSeed.accept other = none)
    (accepted : existingSeed.accept line = some told) :
    (seed host).run m = (birthday.put >>= fun birthday => pure (told, birthday)).run
      { m with terminal := { wished.print (existingSeed.transcript refused.length) with
        lines := later } } := by
  have answered : existingSeed.answer wished = (.ok told,
      { wished.print (existingSeed.transcript refused.length) with lines := later }) := by
    unfold Question.answer
    rw [lines, Question.ask_refused none accepted]
  unfold seed
  rw [run_bind, Question.put_run, wish]
  dsimp only
  rw [if_pos rfl, run_bind, Question.put_run]
  dsimp only
  rw [answered]

/-- Asked for a seed, the user wants to use one of old and tells it in this line. No line that is
read before it tells one. -/
structure SeedNext (t : Terminal) (before : List String) (line : String) (later : List String) :
    Prop where
  lines : t.lines = before ++ line :: later
  wish : ∃ wished refused, useExistingSeed.answer t = (.ok true, wished) ∧
    wished.lines = refused ++ line :: later ∧
    ∀ other ∈ refused, existingSeed.accept other = none

/-- As it goes on, the lines between do not matter to what is left of the questions. -/
theorem SeedNext.seed_run (next : SeedNext t before line later) (host : Host) :
    ∃ after, ∀ other told, existingSeed.accept other = some told →
      ∀ m : Machine, m.terminal = { t with lines := before ++ other :: later } →
        (seed host).run m = (birthday.put >>= fun birthday => pure (told, birthday)).run
          { m with terminal := after } := by
  obtain ⟨wished, refused, wish, rest, none⟩ := next.wish
  obtain ⟨used, split, wishes⟩ := Question.answer_rest wish
  have between : before = used ++ refused := by
    rw [next.lines, rest, ← List.append_assoc] at split
    exact List.append_cancel_right split
  refine ⟨{ wished.print (existingSeed.transcript refused.length) with lines := later },
    fun other told accepted m there => ?_⟩
  have wishesToo : useExistingSeed.answer m.terminal =
      (.ok true, { wished with lines := refused ++ other :: later }) := by
    rw [there, between, List.append_assoc]
    exact wishes _
  have run := seed_run_told host wishesToo rfl none accepted
  exact run

def passphraseLead : String := "Enter the passphrase for your new wallet"

/-- The user enters a passphrase and then tells a seed of old in this line. -/
structure SeedLine (host : Host) (t : Terminal) (before : List String) (line : String)
    (later : List String) : Prop where
  lines : t.lines = before ++ line :: later
  entered : ∃ passphrase after between,
    enter host passphraseLead true t = (.ok passphrase, after) ∧ SeedNext after between line later

theorem SeedLine.enter_eq (told : SeedLine host t before line later) :
    ∃ passphrase after between, enter host passphraseLead true t = (.ok passphrase, after) ∧
      SeedNext after between line later ∧ ∀ other,
        enter host passphraseLead true { t with lines := before ++ other :: later } =
          (.ok passphrase, { after with lines := between ++ other :: later }) := by
  obtain ⟨passphrase, after, between, entered, next⟩ := told.entered
  obtain ⟨used, split, enters⟩ := enter_rest entered
  refine ⟨passphrase, after, between, entered, next, fun other => ?_⟩
  have before_eq : before = used ++ between := by
    rw [told.lines, next.lines, ← List.append_assoc] at split
    exact List.append_cancel_right split
  rw [before_eq, List.append_assoc]
  exact enters _

inductive SeedsApart (At : Terminal → List String → String → List String → Prop) :
    Terminal → Terminal → Prop where
  | same (t : Terminal) : SeedsApart At t t
  | told {t : Terminal} {before later : List String} {line other : String}
    {seed otherSeed : Bytes} (there : At t before line later)
    (accepted : existingSeed.accept line = some seed)
    (otherAccepted : existingSeed.accept other = some otherSeed) :
    SeedsApart At t { t with lines := before ++ other :: later }

inductive Unasked (At : Terminal → List String → String → List String → Prop) (m : Machine) :
    Machine → Prop where
  | intro {t : Terminal} (apart : SeedsApart At m.terminal t) :
    Unasked At m { m with terminal := t }

theorem Unasked.veiled {At : Terminal → List String → String → List String → Prop} {m n : Machine}
    {path network : String} {rounds : Int} (unasked : Unasked At m n) :
    Veiled path network rounds m n := by
  obtain ⟨apart⟩ := unasked
  refine ⟨.same _, ?_⟩
  generalize m.terminal = t at apart
  cases apart <;> rfl

end Lines

section Runs

variable {host : Host} {env : Path.Environment} {c : Configuration} {directory : Path.Parts}
  {m n : Machine}

theorem create_paired {r : WalletRequest} {privatePassphrase seed : Bytes}
    (passphrases : privatePassphrase.isEmpty = r.privatePassphrase.isEmpty)
    (seeds : isSeedSize seed.length = isSeedSize r.seed.length) :
    Paired Eq (Veiled (filePath r.directory).render r.network.name host.rounds)
      ((create (createWallet host) r).run m)
      ((create (createWallet host) { r with privatePassphrase, seed }).run m) := by
  unfold create
  refine .same fun _ said => ?_
  refine .next (.discard (.adapt _ (createWallet_paired passphrases seeds))) ?_
  intro _ _ made otherMade _ veiled
  exact veiled.say _

def SeedsAlike (one other : Bytes × Time.Instant) : Prop :=
  isSeedSize other.1.length = isSeedSize one.1.length ∧ other.2 = one.2

theorem seed_paired (unasked : Unasked SeedNext m n) :
    Paired SeedsAlike Eq ((seed host).run m) ((seed host).run n) := by
  obtain ⟨files, drawn, terminal, journal, logFile, requests⟩ := m
  obtain ⟨apart⟩ := unasked
  cases apart with
  | same =>
    apply Paired.mono ?_ Paired.refl
    rintro one _ rfl
    exact ⟨rfl, rfl⟩
  | @told before later line _ _ _ there accepted otherAccepted =>
    -- Behind the line that tells the seed there is nothing left that differs.
    obtain ⟨after, same⟩ := there.seed_run host
    have whole : terminal = { terminal with lines := before ++ line :: later } := by
      rw [← there.lines]
    rw [same _ _ accepted _ whole, same _ _ otherAccepted _ rfl]
    refine .same fun birthday left => .pure ⟨?_, rfl⟩ rfl
    rw [existingSeed_size accepted, existingSeed_size otherAccepted]

theorem passphrase_run (host : Host) (m : Machine) : (passphrase host true).run m =
    ((enter host passphraseLead true m.terminal).1,
      { m with terminal := (enter host passphraseLead true m.terminal).2 }) :=
  promptPassphrase_run host _ _ m

section Files

variable {At : Terminal → List String → String → List String → Prop}

theorem walletPresent_paired (unasked : Unasked At m n) :
    Paired Eq (Unasked At) ((walletPresent directory).run m) ((walletPresent directory).run n) := by
  obtain ⟨apart⟩ := unasked
  unfold walletPresent
  rw [run_bind, run_get, run_bind, run_get]
  dsimp only
  cases m.files.present (filePath directory).render with
  | error e => exact .throw _ ⟨apart⟩
  | ok present => exact .pure rfl ⟨apart⟩

theorem ensureDirectory_paired (unasked : Unasked At m n) :
    Paired Eq (Unasked At) ((ensureDirectory directory).run m)
      ((ensureDirectory directory).run n) := by
  obtain ⟨apart⟩ := unasked
  unfold ensureDirectory
  rw [run_bind, run_get, run_bind, run_get]
  dsimp only
  rw [run_bind, run_modify, run_bind, run_modify]
  dsimp only
  cases (m.files.ensureDirectory directory).2 with
  | some refusal => exact .throw _ ⟨apart⟩
  | none => exact .pure rfl ⟨apart⟩

end Files

section Environment

variable (set : (env.nonempty? passphraseVariable).isSome =
  (host.environment.nonempty? passphraseVariable).isSome)

include set

theorem passphrase_paired (unasked : Unasked (SeedLine host) m n) :
    Paired (fun p q => q.isEmpty = p.isEmpty) (Unasked SeedNext) ((passphrase host true).run m)
      ((passphrase { host with environment := env } true).run n) := by
  obtain @⟨t, apart⟩ := unasked
  obtain ⟨alike, terminal⟩ := enter_other passphraseLead true t set
  rw [passphrase_run, passphrase_run, terminal]
  generalize m.terminal = first at apart ⊢
  cases apart with
  | same => exact ⟨alike, ⟨.same _⟩⟩
  | told there accepted otherAccepted =>
    obtain ⟨passphrase, after, between, entered, next, enters⟩ := there.enter_eq
    rw [enters] at alike ⊢
    rw [entered]
    exact ⟨alike, ⟨.told next accepted otherAccepted⟩⟩

theorem createWithUser_paired (unasked : Unasked (SeedLine host) m n) :
    Paired Eq (Veiled (filePath directory).render c.network.name host.rounds)
      ((createWithUser host (createWallet host) c directory).run m)
      ((createWithUser { host with environment := env }
        (createWallet { host with environment := env }) c directory).run n) := by
  unfold createWithUser
  refine .bind (.adapt _ (passphrase_paired set unasked)) (fun _ _ => Unasked.veiled) ?_
  rintro passphrase other m n passphrases unasked
  refine .bind (.adapt _ (seed_paired unasked)) (fun _ _ => .of_eq) ?_
  rintro ⟨seed, birthday⟩ ⟨otherSeed, _⟩ m _ ⟨seeds, same⟩ rfl
  -- From here on the machines are the same, and the requests differ in their secrets alone.
  cases same
  exact create_paired (r := ⟨directory, publicPassphrase c.settings, passphrase, seed, birthday,
    c.network⟩) passphrases seeds

theorem fulfil_paired (unasked : Unasked (SeedLine host) m n) :
    Paired Eq (Veiled (filePath directory).render c.network.name host.rounds)
      ((fulfil host (createWallet host) c directory).run m)
      ((fulfil { host with environment := env } (createWallet { host with environment := env })
        c directory).run n) := by
  unfold fulfil
  refine .bind (ensureDirectory_paired unasked) (fun _ _ => Unasked.veiled) ?_
  rintro _ _ m n - unasked
  refine .next (createWithUser_paired set unasked) fun _ _ m n _ veiled => ?_
  exact .next (veiled.log _ _ _) fun _ _ m n _ veiled => .pure rfl veiled

theorem run_paired (wanted : (c.settings.values .create : Bool) = true)
    (unasked : Unasked (SeedLine host) m n) :
    Paired Eq (Veiled c.walletPath c.network.name host.rounds)
      ((run host (createWallet host) c).run m)
      ((run { host with environment := env } (createWallet { host with environment := env })
        c).run n) := by
  rw [run_eq, run_eq]
  cases valid : checkFlags c.settings c.network with
  | error flaw => exact .throw _ unasked.veiled
  | ok _ =>
    dsimp only
    unfold act
    dsimp only
    rw [wanted, createTemp_eq_false valid wanted, Bool.true_or, if_neg (by decide),
      if_neg (by decide)]
    refine .bind (walletPresent_paired unasked) (fun _ _ => Unasked.veiled) ?_
    rintro present _ m n rfl unasked
    rw [if_neg Bool.false_ne_true, if_neg Bool.false_ne_true]
    cases present with
    | true =>
      rw [if_pos rfl, if_pos rfl, run_bind, run_bind, run_throw, run_throw]
      exact ⟨.error _, unasked.veiled⟩
    | false =>
      rw [if_neg Bool.false_ne_true, if_neg Bool.false_ne_true]
      exact fulfil_paired set unasked

end Environment

end Runs

/-- What two runs that are to make a wallet come to, as seen by anybody who does not read the
private section. -/
structure Unrevealed (c : Configuration) (rounds : Int)
    (one other : Except Error Outcome × Machine) : Prop where
  result : other.1 = one.1
  output : other.2.terminal.output = one.2.terminal.output
  journal : other.2.journal = one.2.journal
  drawn : other.2.drawn = one.2.drawn
  nodes : FileTree.SameShape one.2.files other.2.files
  records : SealedApart c.walletPath c.network.name rounds one.2.files other.2.files

theorem Unrevealed.of_paired {c : Configuration} {rounds : Int}
    {one other : Except Error Outcome × Machine}
    (paired : Paired Eq (Veiled c.walletPath c.network.name rounds) one other) :
    Unrevealed c rounds one other := by
  obtain ⟨alike, apart, rest⟩ := paired
  exact ⟨alike.eq, by rw [rest], by rw [rest], by rw [rest], apart.sameShape, apart⟩

/-- Whatever passphrase the variable of the environment tells and whatever seed of old is told, the
run shows the same, logs the same and leaves the same nodes; if it writes a record, all of it but
the private section is the same. -/
theorem secrets_unrevealed {host : Host} {env : Path.Environment} {c : Configuration}
    {m : Machine} {t : Terminal} (wanted : (c.settings.values .create : Bool) = true)
    (set : (env.nonempty? passphraseVariable).isSome =
      (host.environment.nonempty? passphraseVariable).isSome)
    (apart : SeedsApart (SeedLine host) m.terminal t) :
    Unrevealed c host.rounds ((run host (createWallet host) c).run m)
      ((run { host with environment := env } (createWallet { host with environment := env })
        c).run { m with terminal := t }) := by
  have unasked : Unasked (SeedLine host) m { m with terminal := t } := ⟨apart⟩
  exact .of_paired (run_paired set wanted unasked)

def secretive (passphrase : String) : Host :=
  { Host.plain with environment := ⟨[(passphraseVariable, passphrase)], [], none⟩ }

def telling (seed : Bytes) : Terminal :=
  .start ["yes\n", encodeHex seed ++ "\n", "1500000000\n"] none

def toldSecrets (passphrase : String) (seed : Bytes) : Except Error Outcome × Machine :=
  (run (secretive passphrase) (createWallet (secretive passphrase)) restored).run
    (.start (.bare ["w"]) 0 (telling seed))

def shortSeed : Bytes := List.replicate 16 0

def longSeed : Bytes := List.replicate 32 255

theorem two_users_unrevealed :
    (toldSecrets "alpha" shortSeed).1 = .ok (.finish 0 "") ∧
      Unrevealed restored 1 (toldSecrets "alpha" shortSeed) (toldSecrets "beta" longSeed) := by
  refine ⟨by rfl, ?_⟩
  have wanted : (restored.settings.values .create : Bool) = true := by rfl
  have set : ((secretive "beta").environment.nonempty? passphraseVariable).isSome =
      ((secretive "alpha").environment.nonempty? passphraseVariable).isSome := by rfl
  have told : existingSeed.accept (encodeHex shortSeed ++ "\n") = some shortSeed :=
    accept_encodeHex (by rfl)
  have toldToo : existingSeed.accept (encodeHex longSeed ++ "\n") = some longSeed :=
    accept_encodeHex (by rfl)
  have there : SeedLine (secretive "alpha") (telling shortSeed) ["yes\n"]
      (encodeHex shortSeed ++ "\n") ["1500000000\n"] := by
    refine ⟨rfl, encodeUtf8 "alpha", telling shortSeed, ["yes\n"], by rfl, rfl, ?_⟩
    exact ⟨(useExistingSeed.answer (telling shortSeed)).2, [], by rfl, by rfl, nofun⟩
  have apart : SeedsApart (SeedLine (secretive "alpha")) (telling shortSeed) (telling longSeed) :=
    .told there told toldToo
  exact secrets_unrevealed (m := .start (.bare ["w"]) 0 (telling shortSeed)) wanted set apart

end WalletSetup.Bootstrap
