import WalletSetup.Network
import WalletSetup.Proofs.Cipher.Token
import WalletSetup.Proofs.FileTree.Growth
import WalletSetup.Proofs.Json.Files
import WalletSetup.Proofs.Time.Instants
import WalletSetup.Wallet.Record

/-! A record that was written is read back: the public section by opening the wallet, the private
one by whoever knows the passphrase. -/

set_option autoImplicit false

namespace WalletSetup.Wallet

open WalletSetup.Data WalletSetup.Number WalletSetup.Text WalletSetup.Time WalletSetup.Json

/-- The seed in the wallet of a directory, decrypted in as many rounds as the record tells. -/
def recoverSeed (tree : FileTree) (directory : Path.Parts) (passphrase : Bytes) :
    Except OpenError Bytes := do
  let path := (filePath directory).render
  let content ← (tree.read path).mapError .os
  match ← (Json.readFile content).mapError (ofJson (.malformed path)) with
  | .table entries =>
    let blob ← readBlob path (entries.lookup "private")
    let rounds ← readRounds path (entries.lookup "iterations")
    (openSection passphrase rounds blob).mapError .decryption
  | _ => .error (.malformed path)

theorem plain_of_all {s : String} (shown : s.toList.all isPlain = true) : Plain s :=
  List.all_eq_true.1 shown

theorem plain_name (net : NetworkKind) : Plain net.name := by
  cases net <;> exact plain_of_all (by decide)

theorem plain_encode (blob : Bytes) : Plain (String.ofList (Base64.encode .standard blob)) := by
  rw [Plain, String.toList_ofList]
  exact Base64.forall_mem_encode .standard (by decide +kernel) (by decide) blob

theorem scalar_integer {n : Int} (small : n.natAbs < 10 ^ 20) : Scalar (.integer n) :=
  .integer (Nat.lt_of_lt_of_le small (Nat.pow_le_pow_right (by decide) (by decide)))

def recordEntries (network : String) (rounds : Int) (publicBlob privateBlob : Bytes) : Entries := [
  ("version", .integer version), ("network", .text network), ("iterations", .integer rounds),
  ("public", .text (String.ofList (Base64.encode .standard publicBlob))),
  ("private", .text (String.ofList (Base64.encode .standard privateBlob)))]

theorem readFile_recordText {net : NetworkKind} {rounds : Int} (small : rounds.natAbs < 10 ^ 20)
    (publicBlob privateBlob : Bytes) :
    Json.readFile (recordText net.name rounds publicBlob privateBlob) =
      .ok (.table (recordEntries net.name rounds publicBlob privateBlob)) := by
  have flat : Flat (recordEntries net.name rounds publicBlob privateBlob) := by
    simp only [Flat, recordEntries, List.forall_mem_cons]
    exact ⟨⟨plain_of_all (by decide), scalar_integer (by decide)⟩, ⟨plain_of_all (by decide), .text (plain_name net)⟩,
      ⟨plain_of_all (by decide), scalar_integer small⟩, ⟨plain_of_all (by decide), .text (plain_encode publicBlob)⟩,
      ⟨plain_of_all (by decide), .text (plain_encode privateBlob)⟩, nofun⟩
  have read := readFile_render flat
  rwa [show assignAll [] (recordEntries net.name rounds publicBlob privateBlob) =
    recordEntries net.name rounds publicBlob privateBlob from rfl] at read

theorem readBlob_encode (path : String) (blob : Bytes) :
    readBlob path (some (.text (String.ofList (Base64.encode .standard blob)))) = .ok blob := by
  rw [readBlob, Base64.decode_encode]
  rfl

theorem readRecord_recordText {net : NetworkKind} {rounds : Int} (small : rounds.natAbs < 10 ^ 20)
    (publicBlob privateBlob : Bytes) (path : String) :
    readRecord path (recordText net.name rounds publicBlob privateBlob) =
      .ok (rounds, publicBlob) := by
  rw [readRecord, readFile_recordText small]
  change (readBlob path (some (.text (String.ofList (Base64.encode .standard publicBlob)))) >>=
    fun blob => .ok (rounds, blob)) = _
  rw [readBlob_encode]
  rfl

theorem readInstant_seconds {t : Instant} {n : Int} (made : Instant.ofSeconds n = .ok t)
    (path : String) : readInstant path (some (.integer t.seconds)) = .ok t := by
  rw [Instant.seconds_of_ofSeconds made, readInstant, made]

theorem readPublic_publicText {net : NetworkKind} {birthday created : Instant} {b n : Int}
    (born : Instant.ofSeconds b = .ok birthday) (now : Instant.ofSeconds n = .ok created)
    (path : String) : readPublic path (publicText net.name birthday.seconds created.seconds) =
      .ok ⟨.text net.name, birthday, created⟩ := by
  have short {t : Instant} {n : Int} (made : Instant.ofSeconds n = .ok t) :
      Scalar (.integer t.seconds) := by
    have bound := (Instant.ofSeconds_eq_ok made).2
    rw [Instant.seconds_of_ofSeconds made]
    exact scalar_integer (by omega)
  have flat : Flat [("network", .text net.name), ("birthday", .integer birthday.seconds),
      ("created", .integer created.seconds)] := by
    simp only [Flat, List.forall_mem_cons]
    exact ⟨⟨plain_of_all (by decide), .text (plain_name net)⟩,
      ⟨plain_of_all (by decide), short born⟩, ⟨plain_of_all (by decide), short now⟩, nofun⟩
  rw [readPublic, publicText, readBytes_render flat]
  change (readInstant path (some (.integer birthday.seconds)) >>= fun birthday =>
    readInstant path (some (.integer created.seconds)) >>= fun created =>
      .ok (⟨.text net.name, birthday, created⟩ : Info)) = _
  rw [readInstant_seconds born, readInstant_seconds now]
  rfl

section Wallet

variable {tree : FileTree} {directory : Path.Parts} {net : NetworkKind} {rounds : Int}
  {publicBlob privateBlob passphrase : Bytes}

/-- A wallet opens with the passphrase of its public section. -/
theorem openWallet_recordText {birthday created : Instant} {b n : Int}
    (small : rounds.natAbs < 10 ^ 20)
    (read : tree.read (filePath directory).render =
      .ok (recordText net.name rounds publicBlob privateBlob))
    (born : Instant.ofSeconds b = .ok birthday) (now : Instant.ofSeconds n = .ok created)
    (opens : openSection passphrase rounds publicBlob =
      .ok (publicText net.name birthday.seconds created.seconds)) :
    openWallet tree directory passphrase = .ok ⟨.text net.name, birthday, created⟩ := by
  unfold openWallet
  simp only [read, Except.mapError_ok, bind, Except.bind]
  rw [openRecord, readRecord_recordText small]
  simp only [opens, Except.mapError_ok, bind, Except.bind]
  exact readPublic_publicText born now _

theorem recoverSeed_recordText {seed : Bytes} (small : rounds.natAbs < 10 ^ 20)
    (read : tree.read (filePath directory).render =
      .ok (recordText net.name rounds publicBlob privateBlob))
    (opens : openSection passphrase rounds privateBlob = .ok seed) :
    recoverSeed tree directory passphrase = .ok seed := by
  unfold recoverSeed
  simp only [read, Except.mapError_ok, bind, Except.bind, readFile_recordText small]
  change (readBlob (filePath directory).render
    (some (.text (String.ofList (Base64.encode .standard privateBlob)))) >>= fun blob =>
      (openSection passphrase rounds blob).mapError .decryption) = _
  rw [readBlob_encode]
  simp only [opens, Except.mapError_ok, bind, Except.bind]

end Wallet

end WalletSetup.Wallet
