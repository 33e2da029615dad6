import WalletSetup.Proofs.Bootstrap.Effects
import WalletSetup.Proofs.Bootstrap.Questions
import WalletSetup.Proofs.Wallet.Creation

/-! Whoever made a wallet gets back into it: it opens with the configured public passphrase, and
its seed is recovered with the passphrase that was entered. -/

set_option autoImplicit false

namespace WalletSetup.Bootstrap

open WalletSetup.Act WalletSetup.Text WalletSetup.Time WalletSetup.Wallet

variable {host : Host} {m after : Machine}

section Answers

/-- A birthday that is entered falls on a second; that of a new seed is the time of the clock. -/
theorem seed_birthday {seed : Bytes} {birthday : Instant}
    (done : (Bootstrap.seed host).run m = (.ok (seed, birthday), after)) :
    birthday = host.now ∨ ∃ n, Instant.ofSeconds n = .ok birthday := by
  obtain ⟨existing, _, -, done⟩ := bind_eq_ok done
  split at done
  · obtain ⟨_, _, -, done⟩ := bind_eq_ok done
    obtain ⟨_, _, asked, done⟩ := bind_eq_ok done
    cases done
    obtain ⟨_, line, -, -, accepted, -⟩ := Question.answer_first (Question.put_eq_ok asked).1
    obtain ⟨n, -, inYears⟩ := accept_timestamp_iff.1 accepted
    exact .inr ⟨n, Instant.ofSeconds_eq_ok_iff.2 inYears⟩
  · obtain ⟨_, _, -, done⟩ := bind_eq_ok done
    obtain ⟨_, _, -, done⟩ := bind_eq_ok done
    obtain ⟨_, _, -, done⟩ := bind_eq_ok done
    cases done
    exact .inl rfl

end Answers

/-- What a new wallet is made of: passphrase, seed and birthday as the user enters them, or for a
simulation the fixed passphrase and a new seed. -/
inductive Chosen (host : Host) (c : Configuration) (m : Machine) : Bytes → Bytes → Instant → Prop
  | entered {files : FileTree} {middle after : Machine} {passphrase seed : Bytes}
      {birthday : Instant} (wanted : (c.settings.values .create : Bool) = true)
      (first : (Bootstrap.passphrase host true).run { m with files } = (.ok passphrase, middle))
      (second : (Bootstrap.seed host).run middle = (.ok (seed, birthday), after)) :
      Chosen host c m passphrase seed birthday
  | simulated (wanted : (c.settings.values .createTemp : Bool) = true) :
      Chosen host c m simulationPassphrase
        (Machine.randomBytes host.entropy m.drawn seedSize) host.now

/-- A wallet is to be made: one is asked for, or there is none yet for a simulation. -/
def Makes (c : Configuration) (files : FileTree) : Prop :=
  (c.settings.values .create : Bool) = true ∨
    (c.settings.values .createTemp : Bool) = true ∧
      files.present (filePath (networkDirectory (c.settings.values .appDataDir) c.network)).render =
        .ok false

theorem createTemp_eq_false {s : Settings} {net : Network} (valid : checkFlags s net = .ok ())
    (wanted : (s.values .create : Bool) = true) : (s.values .createTemp : Bool) = false := by
  unfold checkFlags at valid
  dsimp only at valid
  cases simulation : (s.values .createTemp : Bool) with
  | false => rfl
  | true =>
    rw [wanted, simulation, if_pos (by decide)] at valid
    cases valid

theorem ensureDirectory_eq_ok {directory : Path.Parts}
    (done : (ensureDirectory directory).run m = (.ok (), after)) :
    ∃ files, after = { m with files } := by
  obtain ⟨_, _, got, done⟩ := bind_eq_ok done
  cases got
  dsimp only at done
  obtain ⟨_, _, changed, done⟩ := bind_eq_ok done
  cases changed
  split at done
  · cases done
  · cases done
    exact ⟨_, rfl⟩

theorem walletPresent_eq_ok {directory : Path.Parts} {present : Bool}
    (done : (walletPresent directory).run m = (.ok present, after)) :
    m.files.present (filePath directory).render = .ok present ∧ after = m := by
  obtain ⟨_, _, got, done⟩ := bind_eq_ok done
  cases got
  split at done
  · next found =>
    cases done
    exact ⟨found, rfl⟩
  · cases done

theorem create_eq_ok {creator : Creator} {r : WalletRequest}
    (done : (create creator r).run m = (.ok (), after)) :
    ∃ before path middle, (creator r).run before = (.ok path, middle) ∧
      after.files = middle.files := by
  obtain ⟨_, before, -, done⟩ := bind_eq_ok done
  obtain ⟨_, middle, made, done⟩ := bind_eq_ok done
  obtain ⟨path, made⟩ := discard_eq_ok made
  cases done
  exact ⟨before, path, middle, adapt_eq_ok made, rfl⟩

section Wallet

variable {c : Configuration} {directory : Path.Parts} {n : Int}

/-- The wallet in the directory holds what was chosen, and keeps it whatever files are added. -/
def Recovers (host : Host) (c : Configuration) (m after : Machine) (directory : Path.Parts) : Prop :=
  ∃ passphrase seed birthday, Chosen host c m passphrase seed birthday ∧
    ∀ files, after.files.Grows files →
      openWallet files directory (publicPassphrase c.settings) =
        .ok ⟨.text c.network.name, birthday, host.now⟩ ∧
      recoverSeed files directory passphrase = .ok seed

variable (clock : Instant.ofSeconds n = .ok host.now)

include clock

theorem recovers_of_made {start before middle : Machine} {path : Path.Parts}
    {passphrase seed : Bytes} {birthday : Instant}
    (chosen : Chosen host c start passphrase seed birthday)
    (whole : birthday = host.now ∨ ∃ n, Instant.ofSeconds n = .ok birthday)
    (made : (createWallet host ⟨directory, publicPassphrase c.settings, passphrase, seed, birthday,
      c.network⟩).run before = (.ok path, middle)) (same : after.files = middle.files) :
    Recovers host c start after directory := by
  obtain ⟨b, born⟩ : ∃ b, Instant.ofSeconds b = .ok birthday := by
    rcases whole with rfl | made
    · exact ⟨n, clock⟩
    · exact made
  refine ⟨passphrase, seed, birthday, chosen, fun files grown => ?_⟩
  rw [same] at grown
  have held := createWallet_holds made born clock grown
  exact ⟨held.opens, held.recovers⟩

theorem createWithUser_recovers {files : FileTree}
    (wanted : (c.settings.values .create : Bool) = true)
    (done : (createWithUser host (createWallet host) c directory).run { m with files } =
      (.ok (), after)) : Recovers host c m after directory := by
  obtain ⟨passphrase, _, first, done⟩ := bind_eq_ok done
  obtain ⟨⟨seed, birthday⟩, _, second, done⟩ := bind_eq_ok done
  obtain ⟨before, path, middle, made, same⟩ := create_eq_ok done
  have chosen := Chosen.entered wanted (adapt_eq_ok first) (adapt_eq_ok second)
  exact recovers_of_made clock chosen (seed_birthday (adapt_eq_ok second)) made same

theorem createSimulation_recovers {files : FileTree}
    (wanted : (c.settings.values .createTemp : Bool) = true)
    (done : (createSimulation host (createWallet host) c directory).run { m with files } =
      (.ok (), after)) : Recovers host c m after directory := by
  obtain ⟨_, _, said, done⟩ := bind_eq_ok done
  cases said
  obtain ⟨seed, before, drawn, done⟩ := bind_eq_ok done
  cases drawn
  obtain ⟨_, middle, made, done⟩ := bind_eq_ok done
  obtain ⟨path, made⟩ := discard_eq_ok made
  cases done
  exact recovers_of_made clock (.simulated wanted) (.inl rfl) (adapt_eq_ok made) rfl

theorem fulfil_recovers {outcome : Outcome} (wanted : (c.settings.values .create : Bool) = true)
    (done : (fulfil host (createWallet host) c directory).run m = (.ok outcome, after)) :
    Recovers host c m after directory := by
  obtain ⟨_, _, ensured, done⟩ := bind_eq_ok done
  obtain ⟨files, rfl⟩ := ensureDirectory_eq_ok ensured
  obtain ⟨_, middle, made, done⟩ := bind_eq_ok done
  obtain ⟨_, _, logged, done⟩ := bind_eq_ok done
  cases logged
  cases done
  have recovers := createWithUser_recovers clock wanted made
  exact recovers

theorem simulate_recovers {outcome : Outcome}
    (wanted : (c.settings.values .createTemp : Bool) = true)
    (done : (simulate host (createWallet host) c directory false).run m = (.ok outcome, after)) :
    Recovers host c m after directory := by
  obtain ⟨_, _, ensured, done⟩ := bind_eq_ok done
  obtain ⟨files, rfl⟩ := ensureDirectory_eq_ok ensured
  obtain ⟨_, middle, made, done⟩ := bind_eq_ok done
  cases done
  exact createSimulation_recovers clock wanted made

/-- A wallet that is made can be opened and its seed recovered, whatever was entered. How often the
passphrases were hashed is taken from the record. The clock is taken to tell whole seconds. -/
theorem made_wallet_recovers {outcome : Outcome} (makes : Makes c m.files)
    (done : (run host (createWallet host) c).run m = (.ok outcome, after)) :
    Recovers host c m after (networkDirectory (c.settings.values .appDataDir) c.network) := by
  rw [run_eq] at done
  split at done
  · cases done
  · next valid =>
    unfold act at done
    dsimp only at done
    rcases makes with wanted | ⟨wanted, absent⟩
    -- Flags that ask for both kinds of wallet have not passed the check.
    · rw [wanted, createTemp_eq_false valid wanted, if_neg (by decide)] at done
      obtain ⟨present, _, found, acted⟩ := bind_eq_ok done
      obtain ⟨-, rfl⟩ := walletPresent_eq_ok found
      rw [if_neg (by decide)] at acted
      split at acted
      · obtain ⟨_, _, refused, -⟩ := bind_eq_ok acted
        cases refused
      · exact fulfil_recovers clock wanted acted
    · rw [wanted, Bool.or_true, if_neg (by decide)] at done
      obtain ⟨present, _, found, acted⟩ := bind_eq_ok done
      obtain ⟨found, rfl⟩ := walletPresent_eq_ok found
      rw [absent] at found
      cases found
      rw [if_pos rfl, if_neg (by decide)] at acted
      exact simulate_recovers clock wanted acted

end Wallet

def restored : Configuration where
  settings := ((⟨fun f => Settings.blank f.kind, []⟩ : Settings).set .appDataDir "/w").set .create true
  network := ⟨.mainnet, none, []⟩
  table := .standard
  missingFile := ""

def restoring : Machine := .start (.bare ["w"]) 0 (.start
  ["yes\n", "000102030405060708090a0b0c0d0e0f\n", "1500000000\n"] (some ["secret", "secret"]))

theorem restored_wallet_recovers :
    Makes restored restoring.files ∧
      Recovers .plain restored restoring ((run .plain (createWallet .plain) restored).run restoring).2
        (.ofString "/w/mainnet") := by
  refine ⟨.inl rfl, ?_⟩
  have done : ((run .plain (createWallet .plain) restored).run restoring).1 = .ok (.finish 0 "") := by
    rfl
  exact made_wallet_recovers (n := 1700000000) (by rfl) (.inl rfl) (Prod.ext done rfl)

end WalletSetup.Bootstrap
