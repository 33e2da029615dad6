import WalletSetup.Proofs.Bootstrap.Course
import WalletSetup.Proofs.Wallet.Limits

/-! The errors that making a wallet can end with. Encrypting its sections fails for no other reason
than the host: its number of rounds, or its clock. -/

set_option autoImplicit false

namespace WalletSetup

open WalletSetup.Act WalletSetup.Text

namespace Wallet

def CreateError.Grounded (host : Host) (e : CreateError) : Prop :=
  ∀ flaw, e = .encryption flaw → Unsealable host flaw

theorem encryptSection_fails (host : Host) (passphrase plain : Bytes) :
    Fails (CreateError.Grounded host)
      (encryptSection host .encryption host.rounds passphrase plain) := by
  refine .bind (fun _ _ _ same => by cases same) fun salt => ?_
  split
  · next flaw invalid =>
    apply Fails.throw
    rintro _ ⟨⟩
    exact .rounds (checkRounds_eq_error_iff.1 invalid)
  · next checked valid =>
    refine .bind (fun _ _ _ same => by cases same) fun start => ?_
    split
    · next flaw invalid =>
      apply Fails.throw
      rintro _ ⟨⟩
      exact .clock (checkRounds_eq_ok_iff.1 valid).1 (toWord_eq_error_iff.1 invalid)
    · exact .pure _

theorem writeNew_fails (host : Host) (path : String) (content : Bytes) :
    Fails (CreateError.Grounded host) (writeNew host path content) := by
  refine .bind .get fun m => ?_
  split
  · apply Fails.throw
    intro flaw same
    split at same <;> cases same
  · split
    · exact .bind (.modify _) fun _ => .throw nofun
    · exact .modify _

theorem createWallet_fails (host : Host) (r : WalletRequest) :
    Fails (CreateError.Grounded host) (createWallet host r) := by
  unfold createWallet
  split
  · exact .throw nofun
  · split
    · exact .throw nofun
    · refine .bind (encryptSection_fails _ _ _) fun publicBlob => ?_
      refine .bind (encryptSection_fails _ _ _) fun privateBlob => ?_
      exact .bind (writeNew_fails _ _ _) fun _ => .bind (.modify _) fun _ => .pure _

end Wallet

namespace Bootstrap

/-- The errors of acting on flags that have been checked, by what is known of those of whoever
makes the wallet. -/
inductive Error.Arises (known : Wallet.CreateError → Prop) : Error → Prop where
  | unchecked (path : String) (error : OsError) : Arises known (.unchecked path error)
  | noDirectory (path : String) (error : FileTree.DirectoryError) :
    Arises known (.noDirectory path error)
  | prompt (error : PromptError) : Arises known (.prompt error)
  | alreadyExists (path : String) : Arises known (.create (.alreadyExists path))
  | create (error : Wallet.CreateError) (holds : known error) : Arises known (.create error)

variable {known : Wallet.CreateError → Prop} {creator : Wallet.Creator}

/-- Flags that have passed their check once do so again. -/
theorem Course.arises {host : Host} {c : Configuration} {m after : Machine} {e : Error}
    {runs : Wallet.Creator → Except Error Outcome × Machine} (course : Course host c m runs)
    (checked : checkFlags c.settings c.network = .ok ()) (made : ∀ r, Fails known (creator r))
    (failed : runs creator = (.error e, after)) : Error.Arises known e := by
  cases course with
  | refused invalid =>
    rw [checked] at invalid
    cases invalid
  | idle | loaded => cases failed
  | unchecked =>
    cases failed
    exact .unchecked _ _
  | taken =>
    cases failed
    exact .alreadyExists _
  | unmade =>
    cases failed
    exact .noDirectory _ _
  | unanswered =>
    cases failed
    exact .prompt _
  | simulated | answered =>
    obtain ⟨flaw, rfl, refused⟩ := concluded_eq_error failed
    exact .create flaw (made _ _ _ _ refused)

theorem run_fails (made : ∀ r, Fails known (creator r)) (host : Host) {c : Configuration}
    (checked : checkFlags c.settings c.network = .ok ()) :
    Fails (Error.Arises known) (run host creator c) :=
  fun m _ _ failed => (run_course host c m).arises checked made failed

end Bootstrap

end WalletSetup
