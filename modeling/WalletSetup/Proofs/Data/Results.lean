/-! Results that may be errors: what a success or an error of the whole says of its parts, and
results that agree up to a relation between successes. -/

set_option autoImplicit false

namespace Except

variable {ε δ α β : Type}

theorem bind_eq_ok {first : Except ε α} {next : α → Except ε β} {b : β}
    (done : (first >>= next) = .ok b) : ∃ a, first = .ok a ∧ next a = .ok b := by
  cases first with
  | error e => cases done
  | ok a => exact ⟨a, rfl, done⟩

theorem bind_eq_error {first : Except ε α} {next : α → Except ε β} {e : ε}
    (failed : (first >>= next) = .error e) :
    first = .error e ∨ ∃ a, first = .ok a ∧ next a = .error e := by
  cases first with
  | error other => cases failed; exact .inl rfl
  | ok a => exact .inr ⟨a, rfl, failed⟩

@[simp] theorem mapError_ok (wrap : ε → δ) (a : α) :
    (.ok a : Except ε α).mapError wrap = .ok a := rfl

@[simp] theorem mapError_error (wrap : ε → δ) (e : ε) :
    (.error e : Except ε α).mapError wrap = .error (wrap e) := rfl

@[simp] theorem mapError_eq_ok {result : Except ε α} {wrap : ε → δ} {a : α} :
    result.mapError wrap = .ok a ↔ result = .ok a := by
  cases result <;> simp

theorem mapError_eq_error {result : Except ε α} {wrap : ε → δ} {d : δ} :
    result.mapError wrap = .error d ↔ ∃ e, result = .error e ∧ wrap e = d := by
  cases result <;> simp

theorem toOption_eq_some_iff {result : Except ε α} {a : α} :
    result.toOption = some a ↔ result = .ok a := by
  cases result <;> simp [Except.toOption]

/-- A list comes out when every member succeeds, with what they come to. -/
theorem mapM_eq_ok_iff {step : α → Except ε β} {members : List α} {results : List β} :
    members.mapM step = .ok results ↔ members.map step = results.map .ok := by
  induction members generalizing results with
  | nil =>
    rw [List.mapM_nil, List.map_nil, List.nil_eq, List.map_eq_nil_iff]
    exact ⟨fun done => (Except.ok.inj done).symm, fun empty => empty ▸ rfl⟩
  | cons member rest ih =>
    rw [List.mapM_cons, List.map_cons]
    constructor
    · intro done
      obtain ⟨first, succeeded, done⟩ := bind_eq_ok done
      obtain ⟨others, othersDone, done⟩ := bind_eq_ok done
      cases done
      rw [succeeded, ih.1 othersDone, List.map_cons]
    · intro same
      obtain ⟨first, others, rfl, succeeded, othersDone⟩ := List.map_eq_cons_iff.1 same.symm
      rw [← succeeded, ih.2 othersDone.symm]
      rfl

/-- The first member that fails tells how the whole fails. -/
theorem mapM_eq_error {step : α → Except ε β} {members : List α} {e : ε}
    (failed : members.mapM step = .error e) : ∃ before bad after,
      members = before ++ bad :: after ∧ (∀ member ∈ before, ∃ b, step member = .ok b) ∧
      step bad = .error e := by
  induction members with
  | nil => cases failed
  | cons member rest ih =>
    rw [List.mapM_cons] at failed
    rcases bind_eq_error failed with failed | ⟨b, done, failed⟩
    · exact ⟨[], member, rest, rfl, nofun, failed⟩
    · rcases bind_eq_error failed with failed | ⟨_, _, failed⟩
      · obtain ⟨before, bad, after, rfl, good, flaw⟩ := ih failed
        refine ⟨member :: before, bad, after, rfl, ?_, flaw⟩
        exact List.forall_mem_cons.2 ⟨⟨b, done⟩, good⟩
      · cases failed

theorem forM_eq_ok {step : α → Except ε Unit} {members : List α}
    (passed : ∀ member ∈ members, step member = .ok ()) : members.forM step = .ok () := by
  induction members with
  | nil => rfl
  | cons member rest ih =>
    have first := passed member List.mem_cons_self
    rw [show (member :: rest).forM step = (step member >>= fun _ => rest.forM step) from rfl, first]
    exact ih fun other inside => passed other (List.mem_cons_of_mem _ inside)

/-- The same error, or successes that are related. -/
inductive Alike (R : α → β → Prop) : Except ε α → Except ε β → Prop where
  | error (e : ε) : Alike R (.error e) (.error e)
  | ok {a : α} {b : β} (related : R a b) : Alike R (.ok a) (.ok b)

namespace Alike

variable {R : α → β → Prop}

theorem refl {first : Except ε α} : Alike Eq first first := by
  cases first with
  | error e => exact .error e
  | ok a => exact .ok rfl

theorem eq {first other : Except ε α} (alike : Alike Eq first other) : other = first := by
  cases alike with
  | error e => rfl
  | ok same => rw [same]

theorem mono {T : α → β → Prop} {first : Except ε α} {other : Except ε β}
    (weaker : ∀ {a b}, R a b → T a b) (alike : Alike R first other) : Alike T first other := by
  cases alike with
  | error e => exact .error e
  | ok related => exact .ok (weaker related)

theorem of_ok {first : Except ε α} {other : Except ε β} (alike : Alike R first other) :
    Alike (fun a b => first = .ok a ∧ R a b) first other := by
  cases alike with
  | error e => exact .error e
  | ok related => exact .ok ⟨rfl, related⟩

theorem mapError {first : Except ε α} {other : Except ε β} (wrap : ε → δ)
    (alike : Alike R first other) : Alike R (first.mapError wrap) (other.mapError wrap) := by
  cases alike with
  | error e => exact .error (wrap e)
  | ok related => exact .ok related

end Alike

end Except
