import WalletSetup.Proofs.Bootstrap.Course
import WalletSetup.Proofs.Bootstrap.Secrecy
import WalletSetup.Proofs.Wallet.Endings

/-! What the maker of wallets is asked for. It is called once at most and never with a request that
it would have to refuse, and a new seed reaches it only after a user has seen that seed and has said
that it is stored. -/

set_option autoImplicit false

namespace WalletSetup.Bootstrap

open WalletSetup.Act WalletSetup.Text WalletSetup.Wallet

/-- A request for the wallet that the configuration leads to, with all secrets in order. -/
structure Sound (c : Configuration) (r : WalletRequest) : Prop extends Acceptable r where
  directory : r.directory = c.walletDirectory
  network : r.network = c.network
  publicPassphrase : r.publicPassphrase ≠ []

/-- How a user comes to a seed on a terminal, with the terminal after it. -/
inductive SeedChosen (host : Host) (drawn : Nat) (t : Terminal) : Bytes → Terminal → Prop where
  | restored {wished told after : Terminal} {seed : Bytes} {born : Time.Instant}
      (wish : useExistingSeed.answer t = (.ok true, wished))
      (telling : existingSeed.answer wished = (.ok seed, told))
      (dating : birthday.answer told = (.ok born, after)) :
    SeedChosen host drawn t seed after
  | shown {asked : Terminal} {seed : Bytes} {refused : List String} {line : String}
      {rest : List String} (wish : useExistingSeed.answer t = (.ok false, asked))
      (fresh : seed = Machine.randomBytes host.entropy drawn seedSize)
      (lines : asked.lines = refused ++ line :: rest)
      (others : ∀ other ∈ refused, isAcknowledgement other = false)
      (stored : isAcknowledgement line = true) :
    SeedChosen host drawn t seed
      { (asked.print (seedNotice seed)).print (acknowledgement.transcript refused.length) with
        lines := rest }

/-- A wallet is asked for never, or once and soundly. Without asking for one, only the file that is
there is reported in its maker's stead. If a user is to have the wallet, then the passphrase has been
entered and the seed has been chosen before. -/
inductive Calls (host : Host) (c : Configuration) (m : Machine)
    (runs : Creator → Except Error Outcome × Machine) : Prop where
  | never (ended : Except Error Outcome × Machine) (same : ∀ creator, runs creator = ended)
      (reported : ∀ e, ended.1 = .error (.create e) → e = .alreadyExists c.walletPath)
  | once {r : WalletRequest} {before : Machine} {outcome : Outcome} {finish : Machine → Machine}
      (same : ∀ creator, runs creator = concluded outcome finish ((creator r).run before))
      (sound : Sound c r)
      (user : (c.settings.values .create : Bool) = true → ∃ entered chosen,
        enter host passphraseLead true m.terminal = (.ok r.privatePassphrase, entered) ∧
        SeedChosen host m.drawn entered r.seed chosen ∧
        before.terminal = chosen.print beginning)

section Secrets

theorem publicPassphrase_ne_nil (s : Settings) : publicPassphrase s ≠ [] := by
  unfold publicPassphrase
  dsimp only
  split
  · decide
  · next filled =>
    intro none
    apply filled
    rw [← encodeUtf8_isEmpty, none]
    rfl

theorem accept_acknowledgement (line : String) :
    acknowledgement.accept line = if isAcknowledgement line then some () else none := by
  unfold acknowledgement
  dsimp only

theorem randomBytes_size (host : Host) (drawn : Nat) :
    isSeedSize (Machine.randomBytes host.entropy drawn seedSize).length = true := by
  rw [length_randomBytes]
  decide

variable {host : Host} {drawn : Nat} {t after : Terminal} {seed : Bytes}

theorem SeedChosen.size (chosen : SeedChosen host drawn t seed after) :
    isSeedSize seed.length = true := by
  cases chosen with
  | restored _ telling _ =>
    obtain ⟨_, line, -, -, accepted, -⟩ := Question.answer_first telling
    exact existingSeed_size accepted
  | shown _ fresh =>
    rw [fresh]
    exact randomBytes_size host drawn

theorem SeedChosen.of_answers {asked : Terminal}
    (wish : useExistingSeed.answer t = (.ok false, asked))
    (fresh : seed = Machine.randomBytes host.entropy drawn seedSize)
    (answered : acknowledgement.answer (asked.print (seedNotice seed)) = (.ok (), after)) :
    SeedChosen host drawn t seed after := by
  obtain ⟨refused, line, lines, before, accepted, reached⟩ := Question.answer_first answered
  rw [reached]
  apply SeedChosen.shown wish fresh lines
  · intro other member
    simpa [accept_acknowledgement] using before other member
  · simpa [accept_acknowledgement] using accepted

end Secrets

section Runs

variable {host : Host} {m after : Machine}

theorem seed_chosen {seed : Bytes} {born : Time.Instant}
    (done : (Bootstrap.seed host).run m = (.ok (seed, born), after)) :
    SeedChosen host m.drawn m.terminal seed after.terminal := by
  obtain ⟨existing, asked, wish, done⟩ := bind_eq_ok done
  obtain ⟨wish, same⟩ := Question.put_eq_ok wish
  cases existing with
  | true =>
    rw [if_pos rfl] at done
    obtain ⟨told, _, telling, done⟩ := bind_eq_ok done
    obtain ⟨dated, _, dating, done⟩ := bind_eq_ok done
    cases done
    exact .restored wish (Question.put_eq_ok telling).1 (Question.put_eq_ok dating).1
  | false =>
    rw [if_neg Bool.false_ne_true, run_bind, run_draw] at done
    dsimp only at done
    rw [run_bind, run_say] at done
    dsimp only at done
    obtain ⟨_, _, answered, done⟩ := bind_eq_ok done
    cases done
    apply SeedChosen.of_answers wish _ (Question.put_eq_ok answered).1
    rw [same]

end Runs

section Courses

variable {host : Host} {c : Configuration} {m : Machine}

theorem simulationRequest_sound (host : Host) (c : Configuration) (drawn : Nat) :
    Sound c (simulationRequest host c (Machine.randomBytes host.entropy drawn seedSize)) where
  seed := isSeedSize_iff.1 (randomBytes_size host drawn)
  passphrase := by
    change simulationPassphrase ≠ []
    decide
  directory := simulationRequest_directory ..
  network := rfl
  publicPassphrase := publicPassphrase_ne_nil c.settings

theorem userRequest_sound {passphrase seed : Bytes} {born : Time.Instant}
    (given : passphrase ≠ []) (size : isSeedSize seed.length = true) :
    Sound c (userRequest c passphrase seed born) where
  seed := isSeedSize_iff.1 size
  passphrase := given
  directory := userRequest_directory ..
  network := rfl
  publicPassphrase := publicPassphrase_ne_nil c.settings

theorem Course.calls {runs : Creator → Except Error Outcome × Machine}
    (course : Course host c m runs) : Calls host c m runs := by
  cases course with
  | taken =>
    refine .never _ (fun _ => rfl) fun e reported => ?_
    cases reported
    rfl
  | refused | idle | unchecked | loaded | unmade | unanswered =>
    exact .never _ (fun _ => rfl) nofun
  | simulated valid wanted =>
    refine .once (fun _ => rfl) (simulationRequest_sound host c m.drawn) fun create => ?_
    -- Flags that ask for both kinds of wallet have not passed the check.
    rw [createTemp_eq_false valid create] at wanted
    cases wanted
  | @answered _ passphrase _ _ _ _ _ _ _ first second =>
    rw [passphrase_run] at first
    obtain ⟨given, rfl⟩ := Prod.ext_iff.1 first
    have entered : enter host passphraseLead true m.terminal = (.ok passphrase, _) :=
      Prod.ext given rfl
    have chose := seed_chosen second
    refine .once (fun _ => rfl) (userRequest_sound (enter_nonempty entered) chose.size) fun _ => ?_
    exact ⟨_, _, entered, chose, rfl⟩

theorem concluded_ne_error {α : Type} {a : α} {finish : Machine → Machine}
    {ended : Except CreateError Path.Parts × Machine} {e : CreateError}
    (other : ended.1 ≠ .error e) : (concluded a finish ended).1 ≠ .error (.create e) := by
  rcases ended with ⟨found | path, after⟩
  · intro same
    cases same
    exact other rfl
  · nofun

theorem Calls.ne_unacceptable {runs : Creator → Except Error Outcome × Machine}
    (calls : Calls host c m runs) :
    (runs (createWallet host)).1 ≠ .error (.create .seedSize) ∧
      (runs (createWallet host)).1 ≠ .error (.create .noPassphrase) := by
  cases calls with
  | never ended same reported =>
    rw [same]
    constructor <;> intro refused <;> cases reported _ refused
  | @once r before _ _ same sound =>
    rw [same]
    have never := (createWallet_ends host r before).ne_unacceptable sound.toAcceptable
    exact ⟨concluded_ne_error never.1, concluded_ne_error never.2⟩

/-- Whoever makes the wallets is called once at most, for the network directory and the network of
the configuration, with a seed of 16 to 64 bytes and with passphrases that are not empty. So the
checks of seed and passphrase never fail there. A new seed is told only after a line that says `OK`,
which was read after that seed had been shown. -/
theorem wallets_are_asked_for_soundly (host : Host) (c : Configuration) (m : Machine) :
    Calls host c m (fun creator => (run host creator c).run m) ∧
      ((run host (createWallet host) c).run m).1 ≠ .error (.create .seedSize) ∧
      ((run host (createWallet host) c).run m).1 ≠ .error (.create .noPassphrase) := by
  have calls := (run_course host c m).calls
  exact ⟨calls, calls.ne_unacceptable⟩

end Courses

end WalletSetup.Bootstrap
