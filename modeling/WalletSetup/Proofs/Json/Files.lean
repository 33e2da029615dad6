import WalletSetup.Proofs.Json.FlatTable
import WalletSetup.Proofs.Text.Encoding

/-! Flat tables as bytes. They are written in ASCII, so that they are read alike as a file and in
the encoding that is guessed for them. -/

set_option autoImplicit false

namespace WalletSetup.Json

open WalletSetup.Data WalletSetup.Number WalletSetup.Text

def Ascii (cs : List Char) : Prop := ∀ c ∈ cs, c.toNat < 128

@[simp] theorem ascii_nil : Ascii [] := nofun

@[simp] theorem ascii_cons {c : Char} {cs : List Char} :
    Ascii (c :: cs) ↔ c.toNat < 128 ∧ Ascii cs := List.forall_mem_cons

@[simp] theorem ascii_append {cs ds : List Char} : Ascii (cs ++ ds) ↔ Ascii cs ∧ Ascii ds :=
  List.forall_mem_append

theorem ascii_of_plain {s : String} (plain : Plain s) : Ascii s.toList := by
  intro c member
  have shown := plain c member
  simp only [isPlain, Bool.and_eq_true, decide_eq_true_iff] at shown
  have high : c.toNat ≤ 126 := shown.1.1.2
  omega

theorem ascii_renderText {s : String} (plain : Plain s) : Ascii (renderText s) := by
  simp [renderText_of_plain plain, ascii_of_plain plain]

theorem ascii_digits (n : Nat) : Ascii (Nat.toDigits 10 n) := by
  intro c member
  have digit : c.isDigit = true := isDigit_of_mem_digits member
  rw [Char.isDigit, Bool.and_eq_true, decide_eq_true_iff, decide_eq_true_iff] at digit
  have high : c.toNat ≤ 57 := digit.2
  omega

theorem ascii_of_scalar {v : Value} (scalar : Scalar v) : Ascii (render v) := by
  cases scalar with
  | text plain => exact ascii_renderText plain
  | @integer n short =>
    rw [render, toList_toString, intChars]
    split
    · exact ascii_cons.2 ⟨by decide, ascii_digits _⟩
    · exact ascii_digits _

theorem ascii_renderEntries {table : Entries} (flat : Flat table) :
    Ascii (renderEntries table) := by
  induction table with
  | nil => exact ascii_nil
  | cons entry rest ih =>
    obtain ⟨key, v⟩ := entry
    obtain ⟨plain, scalar⟩ := flat _ List.mem_cons_self
    have others := ih fun entry member => flat entry (List.mem_cons_of_mem _ member)
    simp [renderEntries, ascii_renderText plain, ascii_of_scalar scalar, others]

theorem ascii_render {table : Entries} (flat : Flat table) : Ascii (render (.table table)) := by
  cases table with
  | nil => simp [render]
  | cons entry rest =>
    obtain ⟨key, v⟩ := entry
    obtain ⟨plain, scalar⟩ := flat _ List.mem_cons_self
    have others := ascii_renderEntries fun entry member => flat entry (List.mem_cons_of_mem _ member)
    simp [render, ascii_renderText plain, ascii_of_scalar scalar, others]

theorem length_renderEntries (table : Entries) : table.length ≤ (renderEntries table).length := by
  induction table with
  | nil => exact Nat.le_refl 0
  | cons entry rest ih =>
    simp only [renderEntries, List.length_cons, List.length_append]
    omega

theorem value_table (fuel room : Nat) (cs : List Char) :
    value (fuel + 1) (room + 1) ('\x7b' :: '\x22' :: cs) =
      (entries fuel room ('\x22' :: cs)).map fun (found, rest) =>
        (.table (assignAll [] found), rest) := by
  rw [value, skipSpaces_of_not_isSpace (by decide)]
  rfl

/-- A flat table is read from its text, in which a key that comes twice counts once. -/
theorem readChars_render {table : Entries} (flat : Flat table) :
    readChars (render (.table table)) = .ok (.table (assignAll [] table)) := by
  cases table with
  | nil => rfl
  | cons entry rest =>
    obtain ⟨key, v⟩ := entry
    obtain ⟨plain, scalar⟩ := flat _ List.mem_cons_self
    have others : Flat rest := fun entry member => flat entry (List.mem_cons_of_mem _ member)
    have long := length_renderEntries rest
    have shape : render (.table ((key, v) :: rest)) = '\x7b' :: (renderText key ++ ':' :: ' ' ::
        (render v ++ (renderEntries rest ++ ['\x7d']))) := by
      simp [render]
    obtain ⟨fuel, enough, fuel_eq⟩ : ∃ fuel, rest.length ≤ fuel ∧
        2 * (render (.table ((key, v) :: rest))).length + 2 = fuel + 3 := by
      refine ⟨2 * (render (.table ((key, v) :: rest))).length - 1, ?_⟩
      rw [shape]
      simp only [List.length_cons, List.length_append]
      omega
    have read := entries_of_flat plain scalar others fuel enough (depthLimit - 1) []
    rw [readChars, fuel_eq, shape, skipSpaces_of_not_isSpace (by decide)]
    rw [renderText_of_plain plain, List.cons_append, List.cons_append] at read ⊢
    rw [show depthLimit = depthLimit - 1 + 1 from rfl, value_table, read]
    rfl

theorem readFile_render {table : Entries} (flat : Flat table) :
    readFile (encodeUtf8 (String.ofList (render (.table table)))) =
      .ok (.table (assignAll [] table)) := by
  have ascii := ascii_render flat
  rw [readFile, decodeUtf8From_ascii false 0 ascii]
  split
  · next failed => cases failed
  · next marked =>
    rw [Except.ok.inj marked] at ascii
    exact absurd (ascii_cons.1 ascii).1 (by decide)
  · next read =>
    cases read
    exact readChars_render flat

theorem render_cons {key : String} (plain : Plain key) (v : Value) (rest : Entries) :
    ∃ c d cs, render (.table ((key, v) :: rest)) = '\x7b' :: '\x22' :: c :: d :: cs := by
  rw [render, renderText_of_plain plain]
  rcases key.toList with _ | ⟨c, _ | ⟨d, cs⟩⟩
  · exact ⟨_, _, _, rfl⟩
  · exact ⟨_, _, _, rfl⟩
  · exact ⟨_, _, _, rfl⟩

theorem readBytes_render {table : Entries} (flat : Flat table) :
    readBytes (encodeUtf8 (String.ofList (render (.table table)))) =
      .ok (.table (assignAll [] table)) := by
  have ascii := ascii_render flat
  -- There is no mark of byte order and no zero in front.
  have guessed : decodeAny (encodeUtf8 (String.ofList (render (.table table)))) =
      decodeUtf8From true 0 (encodeUtf8 (String.ofList (render (.table table)))) := by
    rw [encodeUtf8_of_ascii ascii]
    cases table with
    | nil => rfl
    | cons entry rest =>
      obtain ⟨key, v⟩ := entry
      obtain ⟨c, d, cs, shape⟩ := render_cons (flat _ List.mem_cons_self).1 v rest
      rw [shape]
      rfl
  rw [readBytes, guessed, decodeUtf8From_ascii true 0 ascii]
  exact readChars_render flat

end WalletSetup.Json
