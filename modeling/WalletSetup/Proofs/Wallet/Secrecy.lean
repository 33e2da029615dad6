import WalletSetup.Proofs.FileTree.Shape
import WalletSetup.Proofs.Wallet.Creation

/-! Two wallets that are made alike but for the private passphrase and the seed. Making them goes
the same way, and their files differ in the private section at most. -/

set_option autoImplicit false

namespace WalletSetup

open WalletSetup.Act WalletSetup.Text WalletSetup.Wallet

/-- The trees are the same, or at this path a record was written to the same tree, both times with
the same network, rounds and public section. -/
inductive SealedApart (path network : String) (rounds : Int) : FileTree → FileTree → Prop where
  | same (files : FileTree) : SealedApart path network rounds files files
  | apart {files one other : FileTree} {place : Place} {publicBlob privateBlob otherBlob : Bytes}
    (written : files.createFile path ownerMode
      (recordText network rounds publicBlob privateBlob) = .ok (one, place))
    (otherWritten : files.createFile path ownerMode
      (recordText network rounds publicBlob otherBlob) = .ok (other, place)) :
    SealedApart path network rounds one other

variable {path network : String} {rounds : Int}

theorem SealedApart.sameShape {one other : FileTree}
    (apart : SealedApart path network rounds one other) : FileTree.SameShape one other := by
  cases apart with
  | same => exact ⟨rfl, fun _ => rfl⟩
  | apart written otherWritten =>
    obtain ⟨-, -, rfl⟩ := FileTree.createFile_eq_ok written
    obtain ⟨-, -, rfl⟩ := FileTree.createFile_eq_ok otherWritten
    apply FileTree.sameShape_insert
    rw [Node.emptied_file, Node.emptied_file]

/-- Machines that nobody tells apart without reading a private section, or lines that are still to
be read. -/
structure Machine.Veiled (path network : String) (rounds : Int) (m n : Machine) : Prop where
  files : SealedApart path network rounds m.files n.files
  rest : n = { m with files := n.files, terminal := { m.terminal with lines := n.terminal.lines } }

namespace Machine.Veiled

variable {m n : Machine} {ε : Type}

instance : Std.Refl (Veiled path network rounds) := ⟨fun _ => ⟨.same _, rfl⟩⟩

theorem of_eq (same : m = n) : Veiled path network rounds m n := by
  cases same
  exact refl m

variable (veiled : Veiled path network rounds m n)

include veiled

theorem say (s : String) : Paired Eq (Veiled path network rounds)
    ((Machine.say s : Act ε Unit).run m) ((Machine.say s : Act ε Unit).run n) := by
  refine ⟨.refl, veiled.files, ?_⟩
  rw [run_say, run_say, veiled.rest]
  rfl

theorem log (subsystem : String) (severity : Log.Severity) (message : String) :
    Paired Eq (Veiled path network rounds)
      ((Machine.log subsystem severity message : Act ε Unit).run m)
      ((Machine.log subsystem severity message : Act ε Unit).run n) := by
  refine ⟨.refl, veiled.files, ?_⟩
  rw [run_log, run_log, veiled.rest]

end Machine.Veiled

namespace Wallet

open Machine

variable {ε : Type} {host : Host} {m : Machine}

/-- Neither passphrase nor plain text has a say in whether a section is encrypted and in how many
random bytes that takes. -/
theorem encryptSection_paired (refuse : SealFlaw → ε) (rounds : Int)
    (passphrase plain otherPassphrase otherPlain : Bytes) :
    Paired (fun _ _ => True) Eq ((encryptSection host refuse rounds passphrase plain).run m)
      ((encryptSection host refuse rounds otherPassphrase otherPlain).run m) := by
  unfold encryptSection
  refine .same fun salt drawn => ?_
  cases checkRounds rounds with
  | error flaw => exact .throw _ rfl
  | ok checked =>
    refine .same fun start again => ?_
    cases toWord host.now.seconds with
    | error flaw => exact .throw _ rfl
    | ok seconds => exact .pure trivial rfl

/-- Whether a record is written does not depend on what is in it. -/
theorem writeNew_paired (publicBlob privateBlob otherBlob : Bytes) :
    Paired Eq (Veiled path network rounds)
      ((writeNew host path (recordText network rounds publicBlob privateBlob)).run m)
      ((writeNew host path (recordText network rounds publicBlob otherBlob)).run m) := by
  have unveiled : Veiled path network rounds m m := refl m
  rw [run_writeNew, run_writeNew]
  cases found : m.files.vacant path with
  | error reason => exact .throw _ unveiled
  | ok place =>
    dsimp only
    split
    · exact .throw _ unveiled
    · have written := FileTree.createFile_of_vacant found ownerMode
      exact ⟨.refl, .apart (written _) (written _), rfl⟩

section Requests

variable {r : WalletRequest} {privatePassphrase seed : Bytes}

/-- Requests for wallets that differ in the private passphrase and the seed. Both have a passphrase
or neither has, and both seeds have a size that will do or neither has. -/
theorem createWallet_paired
    (passphrases : privatePassphrase.isEmpty = r.privatePassphrase.isEmpty)
    (seeds : isSeedSize seed.length = isSeedSize r.seed.length) :
    Paired Eq (Veiled (filePath r.directory).render r.network.name host.rounds)
      ((createWallet host r).run m)
      ((createWallet host { r with privatePassphrase, seed }).run m) := by
  have unveiled : Veiled (filePath r.directory).render r.network.name host.rounds m m := refl m
  unfold createWallet
  dsimp only
  rw [seeds, passphrases]
  split
  · exact .throw _ unveiled
  · split
    · exact .throw _ unveiled
    · refine .same fun publicBlob drawn => ?_
      refine .bind (encryptSection_paired _ _ _ _ _ _) (fun _ _ => .of_eq) ?_
      rintro privateBlob otherBlob middle _ - rfl
      refine .next (writeNew_paired _ _ _) fun _ _ made otherMade _ veiled => ?_
      refine .next (veiled.log _ _ _) fun _ _ logged otherLogged _ veiled => ?_
      exact .pure rfl veiled

end Requests

end Wallet

end WalletSetup
