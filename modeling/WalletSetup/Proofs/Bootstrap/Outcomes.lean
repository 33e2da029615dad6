import WalletSetup.Proofs.Bootstrap.Course

/-! What acting on the flags comes to. A wallet file is made only where a wallet was wanted and none
was there, and then everything has succeeded; whatever fails has made directories at most. -/

set_option autoImplicit false

namespace WalletSetup

open WalletSetup.Act WalletSetup.Wallet

namespace Wallet

structure Wrote (directory : Path.Parts) (before after : FileTree) : Prop where
  written : ∃ files place content, before.Furnishes files ∧
    files.createFile (filePath directory).render ownerMode content = .ok (after, place)

namespace Wrote

variable {directory : Path.Parts} {before middle after : FileTree}

theorem preceded (furnished : before.Furnishes middle) (wrote : Wrote directory middle after) :
    Wrote directory before after := by
  obtain ⟨files, place, content, later, created⟩ := wrote.written
  exact ⟨files, place, content, furnished.trans later, created⟩

/-- The path of the wallet leads to a new file, at a place where nothing was. -/
theorem fresh (wrote : Wrote directory before after) :
    ∃ place content, after.resolve (filePath directory).render = .ok place ∧
      after.get? place = some (.file ownerMode content false) ∧ before.get? place = none := by
  obtain ⟨files, place, content, furnished, created⟩ := wrote.written
  obtain ⟨reached, free, rfl⟩ := FileTree.createFile_eq_ok created
  refine ⟨place, content, (FileTree.Grows.insert free _).resolve reached,
    FileTree.get?_insert_self _ _ _, ?_⟩
  cases found : before.get? place with
  | none => rfl
  | some node =>
    rw [furnished.kept found] at free
    cases free

theorem present (wrote : Wrote directory before after) :
    after.present (filePath directory).render = .ok true := by
  obtain ⟨place, content, reached, found, -⟩ := wrote.fresh
  rw [FileTree.present_eq, reached]
  dsimp only
  rw [found]
  rfl

end Wrote

theorem createWallet_wrote {host : Host} {r : WalletRequest} {path : Path.Parts}
    {m after : Machine} (done : (createWallet host r).run m = (.ok path, after)) :
    Wrote r.directory m.files after.files := by
  unfold createWallet at done
  split at done
  · cases done
  · split at done
    · cases done
    · obtain ⟨publicBlob, first, publicDone, done⟩ := bind_eq_ok done
      obtain ⟨privateBlob, second, privateDone, done⟩ := bind_eq_ok done
      obtain ⟨⟨⟩, _, written, done⟩ := bind_eq_ok done
      obtain ⟨_, _, logged, done⟩ := bind_eq_ok done
      cases done
      cases logged
      obtain ⟨files, place, created, rfl⟩ := writeNew_eq_ok written
      have drawn := (encryptSection_furnished _ _ _ _ _).related publicDone
      have drawnAgain := (encryptSection_furnished _ _ _ _ _).related privateDone
      exact ⟨_, place, _, drawn.files.trans drawnAgain.files, created⟩

end Wallet

namespace Bootstrap

open Machine

variable {host : Host} {c : Configuration} {directory : Path.Parts} {m after : Machine}

section Writing

theorem create_wrote {r : WalletRequest}
    (done : (create (createWallet host) r).run m = (.ok (), after)) :
    Wrote r.directory m.files after.files := by
  obtain ⟨_, _, said, done⟩ := bind_eq_ok done
  cases said
  obtain ⟨_, middle, made, done⟩ := bind_eq_ok done
  obtain ⟨path, made⟩ := discard_eq_ok made
  have wrote := createWallet_wrote (adapt_eq_ok made)
  cases done
  exact wrote

theorem createWithUser_wrote
    (done : (createWithUser host (createWallet host) c directory).run m = (.ok (), after)) :
    Wrote directory m.files after.files := by
  obtain ⟨passphrase, _, first, done⟩ := bind_eq_ok done
  obtain ⟨⟨seed, birthday⟩, _, second, done⟩ := bind_eq_ok done
  have entered := (passphrase_furnished _ _).related (adapt_eq_ok first)
  have chosen := (seed_furnished _).related (adapt_eq_ok second)
  exact (create_wrote done).preceded (entered.files.trans chosen.files)

theorem createSimulation_wrote
    (done : (createSimulation host (createWallet host) c directory).run m = (.ok (), after)) :
    Wrote directory m.files after.files := by
  obtain ⟨_, _, said, done⟩ := bind_eq_ok done
  cases said
  obtain ⟨seed, _, drawn, done⟩ := bind_eq_ok done
  cases drawn
  obtain ⟨_, middle, made, done⟩ := bind_eq_ok done
  obtain ⟨path, made⟩ := discard_eq_ok made
  have wrote := createWallet_wrote (adapt_eq_ok made)
  cases done
  exact wrote

theorem fulfil_wrote {outcome : Outcome}
    (done : (fulfil host (createWallet host) c directory).run m = (.ok outcome, after)) :
    Wrote directory m.files after.files := by
  obtain ⟨_, _, ensured, done⟩ := bind_eq_ok done
  obtain ⟨_, middle, made, done⟩ := bind_eq_ok done
  obtain ⟨_, _, logged, done⟩ := bind_eq_ok done
  cases logged
  cases done
  exact (createWithUser_wrote made).preceded ((ensureDirectory_furnished _).related ensured).files

theorem simulate_wrote {outcome : Outcome}
    (done : (simulate host (createWallet host) c directory false).run m = (.ok outcome, after)) :
    Wrote directory m.files after.files := by
  obtain ⟨_, _, ensured, done⟩ := bind_eq_ok done
  obtain ⟨_, middle, made, done⟩ := bind_eq_ok done
  cases done
  exact (createSimulation_wrote made).preceded
    ((ensureDirectory_furnished _).related ensured).files

end Writing

inductive Ended (host : Host) (c : Configuration) (m : Machine) :
    Except Error Outcome × Machine → Prop where
  | failed (e : Error) {after : Machine} (furnished : Furnished m after) :
    Ended host c m (.error e, after)
  | idle (noWallet : (c.settings.values .create : Bool) = false)
      (noSimulation : (c.settings.values .createTemp : Bool) = false) :
    Ended host c m (.ok (.proceed c), m)
  | loaded {after : Machine} (wanted : (c.settings.values .createTemp : Bool) = true)
      (there : m.files.present c.walletPath = .ok true) (furnished : Furnished m after) :
    Ended host c m (.ok (.proceed c), after)
  | simulated {after : Machine} (wanted : (c.settings.values .createTemp : Bool) = true)
      (absent : m.files.present c.walletPath = .ok false)
      (made : (simulate host (createWallet host) c c.walletDirectory false).run m =
        (.ok (.proceed c), after)) :
    Ended host c m (.ok (.proceed c), after)
  | fulfilled {after : Machine} (wanted : (c.settings.values .create : Bool) = true)
      (absent : m.files.present c.walletPath = .ok false)
      (made : (fulfil host (createWallet host) c c.walletDirectory).run m =
        (.ok (.finish 0 ""), after)) :
    Ended host c m (.ok (.finish 0 ""), after)

theorem simulate_outcome {outcome : Outcome} {present : Bool}
    (done : (simulate host (createWallet host) c directory present).run m = (.ok outcome, after)) :
    outcome = .proceed c := by
  obtain ⟨_, _, -, done⟩ := bind_eq_ok done
  split at done
  · obtain ⟨_, _, -, done⟩ := bind_eq_ok done
    cases done
    rfl
  · cases done
    rfl

theorem fulfil_outcome {outcome : Outcome}
    (done : (fulfil host (createWallet host) c directory).run m = (.ok outcome, after)) :
    outcome = .finish 0 "" := by
  obtain ⟨_, _, -, done⟩ := bind_eq_ok done
  obtain ⟨_, _, -, done⟩ := bind_eq_ok done
  obtain ⟨_, _, -, done⟩ := bind_eq_ok done
  cases done
  rfl

theorem run_ended (host : Host) (c : Configuration) (m : Machine) :
    Ended host c m ((run host (createWallet host) c).run m) := by
  rcases ended : (run host (createWallet host) c).run m with ⟨e | outcome, after⟩
  · exact .failed e (run_failsWithin (createWallet_failsWithin host) host c m after e ended)
  -- The flags and what is found at the path decide which way it is. A refusal is no success.
  · cases valid : checkFlags c.settings c.network with
    | error flaw =>
      rw [run_refused valid] at ended
      cases ended
    | ok _ =>
      cases simulation : (c.settings.values .createTemp : Bool) with
      | true =>
        cases found : m.files.present c.walletPath with
        | error e =>
          rw [run_of_valid valid, run_act_of_simulation simulation, found] at ended
          cases ended
        | ok present =>
          cases present with
          | true =>
            rw [run_loaded valid simulation found] at ended
            cases ended
            exact .loaded simulation found ⟨.rfl, rfl⟩
          | false =>
            rw [run_of_valid valid, run_act_of_simulation simulation, found] at ended
            cases simulate_outcome ended
            exact .simulated simulation found ended
      | false =>
        cases wanted : (c.settings.values .create : Bool) with
        | true =>
          rw [run_of_valid valid, run_act_of_wallet wanted simulation] at ended
          cases found : m.files.present c.walletPath with
          | error e =>
            rw [found] at ended
            cases ended
          | ok present =>
            rw [found] at ended
            cases present with
            | true => cases ended
            | false =>
              cases fulfil_outcome ended
              exact .fulfilled wanted found ended
        | false =>
          rw [run_idle wanted simulation] at ended
          cases ended
          exact .idle wanted simulation

end Bootstrap

end WalletSetup
