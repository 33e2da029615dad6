import WalletSetup.Machine
import WalletSetup.Proofs.Text.Cutting

/-! The lines of a text, as a terminal reads them. -/

set_option autoImplicit false

namespace WalletSetup.Terminal

open WalletSetup.Text

/-- A text and its lines, each with its end; only the last one may have none. -/
inductive Lines : String → List String → Prop where
  | none : Lines "" []
  | unended {line : String} (filled : line ≠ "") (single : '\n' ∉ line.toList) : Lines line [line]
  | ended {line rest : String} {lines : List String} (single : '\n' ∉ line.toList)
      (more : Lines rest lines) : Lines (line ++ "\n" ++ rest) ((line ++ "\n") :: lines)

def reading (t : Terminal) (input : String) : Terminal := { t with lines := ofInput input }

theorem linesOf_single {line : List Char} (filled : line ≠ []) (single : '\n' ∉ line) :
    linesOf line = [line] := by
  induction line with
  | nil => exact absurd rfl filled
  | cons c rest ih =>
    rw [List.mem_cons, not_or] at single
    rw [linesOf, if_neg (Ne.symm single.1)]
    cases rest with
    | nil => rfl
    | cons second more => rw [ih (List.cons_ne_nil _ _) single.2]

theorem linesOf_ended {line : List Char} (rest : List Char) (single : '\n' ∉ line) :
    linesOf (line ++ '\n' :: rest) = (line ++ ['\n']) :: linesOf rest := by
  induction line with
  | nil => rw [List.nil_append, linesOf, if_pos rfl, List.nil_append]
  | cons c more ih =>
    rw [List.mem_cons, not_or] at single
    rw [List.cons_append, linesOf, if_neg (Ne.symm single.1), ih single.2]
    rfl

theorem Lines.ofInput_eq {input : String} {lines : List String} (cut : Lines input lines) :
    ofInput input = lines := by
  induction cut with
  | none => rfl
  | @unended line filled single =>
    rw [ofInput, linesOf_single (mt String.toList_eq_nil_iff.1 filled) single, List.map_singleton,
      String.ofList_toList]
  | @ended line rest lines single more ih =>
    have whole : (line ++ "\n" ++ rest).toList = line.toList ++ '\n' :: rest.toList := by
      rw [String.toList_append, String.toList_append, List.append_assoc]
      rfl
    rw [ofInput, whole, linesOf_ended _ single, List.map_cons, String.ofList_append,
      String.ofList_toList]
    exact congrArg _ ih

theorem lines_ofInput (input : String) : Lines input (ofInput input) := by
  cases cut : cutFirst '\n' input.toList with
  | none =>
    by_cases filled : input = ""
    · rw [filled]
      exact .none
    · have lines := Lines.unended filled (cutFirst_eq_none_iff.1 cut)
      rwa [← lines.ofInput_eq] at lines
  | some pieces =>
    obtain ⟨line, rest⟩ := pieces
    obtain ⟨whole, absent⟩ := cutFirst_eq_some_iff.1 cut
    have shorter : rest.length < input.length := by
      rw [← String.length_toList, whole, List.length_append, List.length_cons]
      omega
    have single : '\n' ∉ (String.ofList line).toList := by
      rwa [String.toList_ofList]
    have lines := Lines.ended single (lines_ofInput (String.ofList rest))
    have same : String.ofList line ++ "\n" ++ String.ofList rest = input := by
      rw [← String.toList_inj, whole]
      simp
    rw [same] at lines
    rwa [← lines.ofInput_eq] at lines
termination_by input.length
decreasing_by simpa using shorter

theorem Lines.drop {input : String} {before after : List String}
    (cut : Lines input (before ++ after)) :
    ∃ rest, Lines rest after ∧ input = String.join before ++ rest := by
  induction before generalizing input with
  | nil => exact ⟨input, cut, by rw [String.join_nil, String.empty_append]⟩
  | cons first others ih =>
    generalize whole : first :: others ++ after = lines at cut
    cases cut with
    | none => cases whole
    | unended filled single =>
      rw [List.cons_append, List.cons.injEq, List.append_eq_nil_iff] at whole
      obtain ⟨rfl, rfl, rfl⟩ := whole
      refine ⟨"", .none, ?_⟩
      rw [String.join_cons, String.join_nil, String.append_empty, String.append_empty]
    | ended single more =>
      rw [List.cons_append, List.cons.injEq] at whole
      obtain ⟨rfl, rfl⟩ := whole
      obtain ⟨rest, left, rfl⟩ := ih more
      exact ⟨rest, left, by simp only [String.join_cons, String.append_assoc]⟩

end WalletSetup.Terminal
