import Mathlib.Data.List.Forall2

/-! Outcomes that are values, taken apart into the outcomes of the steps that led to them. -/

namespace DocScribe

variable {first : Except ε α}

theorem ok_of_bind {next : α → Except ε β} {value : β} (done : (first >>= next) = .ok value) :
    ∃ middle, first = .ok middle ∧ next middle = .ok value := by
  cases first with
  | error fault => cases done
  | ok middle => exact ⟨middle, rfl, done⟩

theorem bind_of_ok {middle : α} (done : first = .ok middle) (next : α → Except ε β) :
    (first >>= next) = next middle := by
  rw [done]
  rfl

theorem ok_of_map {change : α → β} {value : β} (done : first.map change = .ok value) :
    ∃ before, first = .ok before ∧ change before = value := by
  cases first with
  | error fault => cases done
  | ok before => exact ⟨before, rfl, Except.ok.inj done⟩

theorem ok_of_toOption {value : α} (found : first.toOption = some value) : first = .ok value := by
  cases first with
  | error fault => cases found
  | ok other =>
    cases found
    rfl

theorem forall_of_mapM {step : α → Except ε β} {items : List α} {values : List β} (done : items.mapM step = .ok values) :
    List.Forall₂ (fun item value => step item = .ok value) items values := by
  induction items generalizing values with
  | nil =>
    rw [List.mapM_nil] at done
    cases done
    exact .nil
  | cons item items ih =>
    rw [List.mapM_cons] at done
    obtain ⟨value, own, remaining⟩ := ok_of_bind done
    obtain ⟨others, rest, whole⟩ := ok_of_bind remaining
    cases whole
    exact .cons own (ih rest)

theorem exists_mapM {step : α → Except ε β} {items : List α} (each : ∀ item ∈ items, ∃ value, step item = .ok value) :
    ∃ values, items.mapM step = .ok values ∧ ∀ item ∈ items, ∃ value ∈ values, step item = .ok value := by
  induction items with
  | nil => exact ⟨[], rfl, List.forall_mem_nil _⟩
  | cons item items ih =>
    obtain ⟨⟨value, own⟩, others⟩ := List.forall_mem_cons.mp each
    obtain ⟨values, rest, among⟩ := ih others
    refine ⟨value :: values, ?_, List.forall_mem_cons.mpr ⟨⟨value, List.mem_cons_self, own⟩, ?_⟩⟩
    · rw [List.mapM_cons, bind_of_ok own, bind_of_ok rest]
      rfl
    · intro other member
      obtain ⟨found, inside, same⟩ := among other member
      exact ⟨found, List.mem_cons_of_mem _ inside, same⟩

end DocScribe
